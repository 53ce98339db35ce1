import ForwardPass.Buffer
import ForwardPass.Layer

/-!
# Convolution of one plane

One channel of one image against the same channel of one kernel, by the schedule: each output row is
computed group by group, each group from two neighbouring vectors of every input row under the kernel.
The plane is written to its channel of the result buffer, before the channels are added up.
-/

namespace ForwardPass

/-- Which image, kernel and channel a plane convolution is about. -/
structure PlaneIndex where
  image : Nat
  kernel : Nat
  channel : Nat
deriving DecidableEq, Repr

namespace Layer

variable {α : Type}

def mismatch (l : Layer) (cause : Mismatch) : EngineError := .shapeMismatch l.name cause

def requireSize (l : Layer) (role : Role) (have_ need : Nat) : Except EngineError Unit :=
  if have_ < need then .error (l.mismatch (.operandShort role have_ need)) else .ok ()

/-- The checks a layer and its buffers pass before a plane is convolved; the result is the schedule. -/
def planeSchedule (l : Layer) (at_ : PlaneIndex) (activations kernels result : Nat) :
    Except EngineError Schedule := do
  let frame := l.frame
  let width := l.weights.cols
  let schedule ← Schedule.ofKernel width l.stride
  -- A layer built by hand may hold any of these; the constructors rule them out.
  if frame.rowLanes % vectorLanes ≠ 0 then
    throw (l.mismatch (.unalignedRows frame.rowLanes))
  if l.weights.rows ≠ width ∨ frame.rows < width ∨ frame.cols < width then
    throw (l.mismatch (.kernelOverInput l.weights.rows width frame.rows frame.cols))
  let rows := (frame.rows - width) / l.stride + 1
  let cols := (frame.cols - width) / l.stride + 1
  if l.outputs.rows ≠ rows ∨ l.outputs.cols ≠ cols then
    throw (l.mismatch (.outputExtent l.outputs.rows l.outputs.cols rows cols))
  -- Each buffer has to reach to the end of the image, kernel or channel at hand.
  l.requireSize .activations activations ((at_.image + 1) * frame.size)
  l.requireSize .weights kernels ((at_.kernel + 1) * l.weights.size)
  l.requireSize .result result ((at_.channel + 1) * l.outputs.planeSize)
  return schedule

/-- Vectors that hold the logical lanes of an input row. -/
def vectorsPerRow (l : Layer) : Nat := (l.frame.cols + vectorLanes - 1) / vectorLanes

/-- Whether the last vector of an input row starts a group of its own, for which there is no
neighbouring vector to fetch. -/
def hasLastGroup (l : Layer) : Bool :=
  l.outputs.cols * l.stride > (l.vectorsPerRow - 1) * vectorLanes

/-- The pixel groups of every output row. -/
def rowGroups (l : Layer) (s : Schedule) : List PixelGroup :=
  s.groups l.outputs.cols (if l.hasLastGroup then l.vectorsPerRow else l.vectorsPerRow - 1) 0 0

variable [Scalar α]

/-- The weights of one kernel row, once for each pipe at double throughput. -/
def tapLanes (s : Schedule) (taps : List α) : LaneVector α :=
  match s.throughput with
  | .single => LaneVector.load taps
  | .double => Vector.ofFn fun i => taps.getD (i.val % pipeLanes) 0

/-- The output pixels of one group: the partial sums of every kernel row, merged. -/
def groupPixels (l : Layer) (s : Schedule) (at_ : PlaneIndex) (activations kernels : Array α)
    (outRow : Nat) (group : PixelGroup) : Except Failure (LaneVector α) := do
  let frame := l.frame
  let sums ← (List.range s.kernelWidth).foldlM (fun sums kernelRow => do
    let start := at_.image * frame.size + frame.offset at_.channel (outRow * s.stride + kernelRow) 0
    let front ← Buffer.fetch activations (start + group.fetch * vectorLanes)
    -- Behind the last vector of a row there is only padding, so the window is filled with zeros.
    let back ←
      if l.hasLastGroup && group.fetch = l.vectorsPerRow - 1 then pure LaneVector.zero
      else Buffer.fetch activations (start + (group.fetch + 1) * vectorLanes)
    let taps ← Buffer.slice kernels
      (at_.kernel * l.weights.size + l.weights.offset at_.channel kernelRow 0) s.kernelWidth
    -- The partial sums go on from the kernel row above; the windows are filled afresh.
    let window := Window.ofUnits front back
    let pipes : Pipes α := ⟨window, Window.shiftInPlace window s.lead, sums⟩
    let pipes ← pipes.accumulate (tapLanes s taps.toList) s.advance group.budgets
    return pipes.sums) PartialSums.zero
  return s.throughput.merge sums

/-- Convolve one plane into its channel of `result`. -/
def convolvePlane (l : Layer) (at_ : PlaneIndex) (activations kernels result : Array α) :
    Except Failure (Array α) := do
  let s ← (l.planeSchedule at_ activations.size kernels.size result.size).mapError Failure.error
  if l.vectorsPerRow = 0 then throw (.fault .negativeExtent)
  let groups := l.rowGroups s
  (List.range l.outputs.rows).foldlM (fun result outRow =>
    groups.foldlM (fun result group => do
      let pixels ← l.groupPixels s at_ activations kernels outRow group
      let start := at_.channel * l.outputs.planeSize + outRow * l.outputs.rowLanes + group.column
      -- The merged pixels come out of one register, so a group cannot be longer than that.
      if group.pixels > vectorLanes then throw (.fault .outOfRange)
      Buffer.put result start (pixels.toList.take group.pixels)) result) result

end Layer

end ForwardPass

import ForwardPass.Convolution.Throughput

/-!
# The convolution schedule

What the width and the stride of a kernel fix for the whole convolution: how far the windows shift, and
how many output pixels come from one fetched vector. `split` shares the remaining pixels of a row
between the pipes, and `groups` is the list of pixel groups a row is computed in.
-/

namespace ForwardPass

/-- The most partial sums one pipe makes from one fetched vector; strides other than 1, 2 and 4 are
not supported. -/
def maxSumsPerFetch (stride : Nat) (throughput : Throughput) : Except EngineError Nat :=
  match stride, throughput with
  | 1, .double => .ok pipeLanes
  | 1, .single => .ok (pipeLanes * 2)
  | 2, .double => .ok (pipeLanes / 2)
  | 2, .single => .ok pipeLanes
  | 4, .double => .ok (pipeLanes / 4)
  | 4, .single => .ok (pipeLanes / 2)
  | _, _ => .error (.unsupportedStride stride)

/-- One group of neighbouring output pixels of a row, all from one fetched vector. -/
structure PixelGroup where
  /-- Which vector of the input row the group starts from. -/
  fetch : Nat
  /-- The first output column of the group. -/
  column : Nat
  budgets : Budgets
  pixels : Nat
deriving DecidableEq, Repr

structure Schedule where
  stride : Nat
  kernelWidth : Nat
  throughput : Throughput
  /-- How far the second pipe's window runs ahead of the first. -/
  lead : Nat
  /-- How far both windows move after each accumulation step. -/
  advance : Nat
  maxSums : Nat
deriving DecidableEq, Repr

namespace Schedule

/-- The schedule of a kernel of the given width at the given stride. -/
def ofKernel (width stride : Nat) : Except EngineError Schedule :=
  if width > vectorLanes then .error (.kernelTooWide width)
  else
    let throughput := Throughput.ofKernel width
    (maxSumsPerFetch stride throughput).map fun maxSums =>
      match throughput with
      -- At double throughput the pipes take neighbouring pixels, at single throughput the two halves
      -- of one kernel row.
      | .double => ⟨stride, width, throughput, stride, 2 * stride, maxSums⟩
      | .single => ⟨stride, width, throughput, pipeLanes, stride, maxSums⟩

/-- Share `remaining` output pixels between the pipes: the budgets and the pixels they make. At double
throughput an odd pixel falls to the first pipe. -/
def split (s : Schedule) (remaining : Nat) : Budgets × Nat :=
  match s.throughput with
  | .double =>
    let first := min s.maxSums (remaining / 2 + remaining % 2)
    let second := min s.maxSums (remaining / 2)
    (⟨first, second⟩, first + second)
  | .single =>
    let both := min s.maxSums remaining
    (⟨both, both⟩, both)

/-- The pixel groups of an output row of `cols` pixels, for `count` fetched vectors from vector
`fetch` on, the first group starting at `column`. A row that is complete starts over. -/
def groups (s : Schedule) (cols : Nat) : (count fetch column : Nat) → List PixelGroup
  | 0, _, _ => []
  | count + 1, fetch, column =>
    -- No group starts behind the end of the row, so this is what is left of it.
    let (budgets, pixels) := s.split (cols - column)
    let next := column + pixels
    ⟨fetch, column, budgets, pixels⟩ ::
      s.groups cols count (fetch + 1) (if next ≥ cols then 0 else next)

end Schedule

end ForwardPass

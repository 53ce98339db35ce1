import ForwardPass.Convolution.Plane

/-!
# Convolution of a batch

Every image against every kernel: the planes of all channels are convolved one at a time, added up
from zero in channel order, and the layer's activation is applied to the whole batch at the end. The
result buffer is the state, so that a call that fails leaves what it had written.
-/

namespace ForwardPass.Layer

variable {α : Type} [Scalar α]

/-- The sum of the channels of `planes`, each of `size` elements, element by element and in channel
order. -/
def sumPlanes (channels size : Nat) (planes : Array α) : List α :=
  -- The planes fill their buffer, so the default is never read.
  (List.range size).map fun i =>
    (List.range channels).foldl (fun sum channel => sum + planes.getD (channel * size + i) 0) 0

/-- Convolve all channels of one image with one kernel and write their sum to the result. The planes
are worked on in `scratch`, which is handed on to the next kernel. -/
def convolveKernel (l : Layer) (image kernel : Nat) (activations kernels scratch : Array α) :
    EStateM Failure (Array α) (Array α) := do
  let channels := l.frame.height
  let size := l.outputs.planeSize
  let planes := (List.range channels).foldlM
    (fun planes channel => l.convolvePlane ⟨image, kernel, channel⟩ activations kernels planes) scratch
  match planes with
  -- The planes are in scratch memory: a failure among them leaves the result buffer as it was.
  | .error failure => throw failure
  | .ok planes =>
    if size = 0 then throw (.fault .emptyPieces)
    match Buffer.put (← get) (image * l.outputs.size + kernel * size) (sumPlanes channels size planes) with
    | .error failure => throw failure
    | .ok result => set result
    return planes

/-- Convolve a batch of images into the result buffer. -/
def convolve (l : Layer) (images : Nat) (activations kernels : Array α) :
    EStateM Failure (Array α) Unit := do
  let need := images * l.outputs.size
  let size := (← get).size
  if size < need then throw (.error (.shapeMismatch l.name (.operandShort .result size need)))
  let pairs := (List.range images).flatMap fun image => (List.range l.kernelCount).map (image, ·)
  -- One scratch buffer serves every pair: each plane overwrites the logical elements it needs.
  if pairs ≠ [] then
    let scratch : Array α := Array.replicate (l.frame.height * l.outputs.planeSize) 0
    let _ ← pairs.foldlM (fun scratch (image, kernel) =>
      l.convolveKernel image kernel activations kernels scratch) scratch
  match l.activation.applyTo l.outputs images (← get) with
  | .error failure => throw failure
  | .ok result => set result

end ForwardPass.Layer

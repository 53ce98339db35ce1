import ForwardPass.Convolution.Planes
import ForwardPass.DoubleBuffer
import ForwardPass.Kernel.Border
import ForwardPass.Kernel.Dense
import ForwardPass.Kernel.MaxPool
import ForwardPass.Ledger

/-!
# Running one layer

A layer reads one buffer and writes the other, except for a convolution with a border: its bordered
input takes up the other buffer, so its output goes back to the buffer it read. Convolutions and inner
products are launched on their hardware block and account for their transfers; pooling runs on the
host. The workbench is the state, so that a layer that fails leaves what it had done.
-/

namespace ForwardPass

/-- What a layer works on: the ledger, the buffer with its input, and the buffer for its result. -/
structure Workbench (α : Type) where
  ledger : Ledger
  activations : Array α
  result : Array α

namespace Workbench

variable {α : Type}

/-- The buffer a kernel reads when its output lands as stated. -/
def source (w : Workbench α) : Landing → Array α
  | .across => w.activations
  | .inPlace => w.result

/-- The buffer a kernel writes when its output lands as stated. -/
def target (w : Workbench α) : Landing → Array α
  | .across => w.result
  | .inPlace => w.activations

def setTarget (w : Workbench α) (data : Array α) : Landing → Workbench α
  | .across => { w with result := data }
  | .inPlace => { w with activations := data }

/-- Transfer the first `elements` elements of a buffer of `size` elements. -/
def transfer (block : BlockId) (role : Role) (direction : Direction) (size elements : Nat) :
    EStateM Failure (Workbench α) Unit := fun w =>
  match w.ledger.transfer size ⟨block, role, direction, 0, elements * elementBytes⟩ with
  | .ok ledger => .ok () { w with ledger }
  | .error e => .error (.error e) w

/-- Take a new target buffer, or fail. -/
def write (landing : Landing) (data : Except Failure (Array α)) :
    EStateM Failure (Workbench α) Unit := fun w =>
  match data with
  | .ok data => .ok () (w.setTarget data landing)
  | .error failure => .error failure w

/-- Let a kernel work on the target buffer; one that fails leaves what it had written. -/
def runKernel (landing : Landing) (kernel : Workbench α → EStateM Failure (Array α) Unit) :
    EStateM Failure (Workbench α) Unit := fun w =>
  match kernel w (w.target landing) with
  | .ok () data => .ok () (w.setTarget data landing)
  | .error failure data => .error failure (w.setTarget data landing)

end Workbench

namespace Layer

variable {α : Type} [Scalar α]

open Workbench

/-- Map the arrays of a layer for its block. -/
def mapArrays (l : Layer) (block : BlockId) (images : Nat) (ledger : Ledger) : Ledger :=
  let bytes := images * l.footprint * elementBytes
  ((ledger.map block .activations bytes).map block .weights (l.weightsSize * elementBytes)).map
    block .result bytes

/-- The accelerated part of a convolution, from the source to the target of its landing. -/
def runConvolution (l : Layer) (block : BlockId) (weights : Array α) (images : Nat)
    (landing : Landing) : EStateM Failure (Workbench α) Unit := do
  transfer block .weights .into weights.size l.weightsSize
  -- The block reads the bordered images, so those are what is transferred.
  transfer block .activations .into ((← get).source landing).size (images * l.frame.size)
  runKernel landing fun w => l.convolve images (w.source landing) weights
  transfer block .result .outOf ((← get).target landing).size (images * l.outputs.size)

/-- Run a convolution; one with a border works in place. -/
def convolutionLayer (l : Layer) (blocks : Blocks) (weights : Array α) (images : Nat) :
    EStateM Failure (Workbench α) Landing := do
  let block := blocks.convolution
  modify fun w => { w with ledger := l.mapArrays block images w.ledger }
  if l.border > 0 then
    let w ← get
    -- The copy takes up the other buffer, and after it the images are not needed where they were.
    write .across (Border.copy l.inputs images l.border w.activations w.result)
    modify fun w => { w with ledger := w.ledger.launch }
    l.runConvolution block weights images .inPlace
    return .inPlace
  else
    modify fun w => { w with ledger := w.ledger.launch }
    l.runConvolution block weights images .across
    return .across

/-- Run an inner product. -/
def innerProductLayer (l : Layer) (blocks : Blocks) (weights : Array α) (images : Nat) :
    EStateM Failure (Workbench α) Landing := do
  let block := blocks.innerProduct
  modify fun w => { w with ledger := (l.mapArrays block images w.ledger).launch }
  transfer block .weights .into weights.size l.weightsSize
  transfer block .activations .into (← get).activations.size (images * l.inputs.size)
  let w ← get
  write .across
    (Dense.run ⟨l.inputs, l.weights, l.outputs⟩ images l.activation w.activations weights w.result)
  transfer block .result .outOf (← get).result.size (images * l.outputs.size)
  return .across

/-- Run a pooling layer; only windows reduced by their maximum are implemented. -/
def runPooling (l : Layer) (images : Nat) : EStateM Failure (Workbench α) Landing := do
  match l.pooling with
  | .max =>
    let w ← get
    write .across
      (MaxPool.run ⟨l.inputs, l.outputs, l.fieldSize, l.stride⟩ images w.activations w.result)
    return .across
  -- A layer without pooling, or with another kind, is only found out when it runs.
  | pooling => throw (.error (.unsupportedPooling l.name pooling))

/-- What a layer asks of the buffers it is handed. -/
def checkBuffers (l : Layer) (images activations result weights : Nat) : Except EngineError Unit := do
  let need := images * l.footprint
  if activations < need then
    throw (.shapeMismatch l.name (.bufferShort .activations activations need))
  if result < need then
    throw (.shapeMismatch l.name (.bufferShort .result result need))
  if l.hasWeights && weights < l.weightsSize then
    -- No weights at all reads as weights that were never loaded.
    if weights = 0 then throw (.missingWeights l.name)
    else throw (.shapeMismatch l.name (.weightCount weights l.weightsSize))

/-- Run a layer on a batch of images. -/
def run (l : Layer) (blocks : Blocks) (weights : Array α) (images : Nat) :
    EStateM Failure (Workbench α) Landing := do
  let w ← get
  match l.checkBuffers images w.activations.size w.result.size weights.size with
  | .error e => throw (.error e)
  | .ok () =>
    match l.kind with
    | .convolution => l.convolutionLayer blocks weights images
    | .innerProduct => l.innerProductLayer blocks weights images
    | .pooling => l.runPooling images

end Layer

end ForwardPass

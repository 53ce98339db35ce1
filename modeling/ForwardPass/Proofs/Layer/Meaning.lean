import ForwardPass.Layer.Execution
import ForwardPass.Proofs.Convolution.Planes
import ForwardPass.Proofs.Kernel.Border
import ForwardPass.Proofs.Kernel.Dense
import ForwardPass.Proofs.Kernel.MaxPool
import ForwardPass.Proofs.Ledger

/-!
# What a layer means

A layer as a function on batches, apart from the buffers it works in: `apply` is the batch it makes,
`obstacle?` why it cannot, and `account` and `refusedAccount` what either leaves in the ledger.
-/

namespace ForwardPass.Layer

variable {α : Type} [Scalar α]

/-! ## Batches -/

/-- The batch a convolution reads: its input, inside a border if it has one. -/
def framed (l : Layer) (x : Batch α) : Batch α :=
  if l.border > 0 then Border.framed l.inputs l.border x else x

/-- The batch a layer makes of its input. -/
def apply (l : Layer) (weights : Array α) (x : Batch α) : Batch α :=
  match l.kind with
  | .convolution => l.convolved weights (l.framed x)
  | .innerProduct => Dense.outputs ⟨l.inputs, l.weights, l.outputs⟩ l.activation weights x
  | .pooling => MaxPool.pooled ⟨l.inputs, l.outputs, l.fieldSize, l.stride⟩ x

/-- Why a layer cannot run on a batch of this many images. A convolution that has a plane to convolve
looks at the width of its kernel first and at its rows next; a pooling layer asks for its maximum. -/
def obstacle? (l : Layer) (images : Nat) : Option EngineError :=
  match l.kind with
  | .convolution =>
    if images = 0 ∨ l.kernelCount = 0 ∨ l.frame.height = 0 then none
    else if vectorLanes < l.fieldSize then some (.kernelTooWide l.fieldSize)
    else if l.frame.rowLanes % vectorLanes ≠ 0 then
      some (.shapeMismatch l.name (.unalignedRows l.frame.rowLanes))
    else none
  | .innerProduct => none
  | .pooling => if l.pooling = .max then none else some (.unsupportedPooling l.name l.pooling)

/-! ## The ledger -/

/-- The hardware block a layer runs on. -/
def block (l : Layer) (blocks : Blocks) : BlockId :=
  match l.kind with
  | .convolution => blocks.convolution
  | _ => blocks.innerProduct

/-- Elements of one image that the block reads: a convolution reads its frame. -/
def operandSize (l : Layer) : Nat :=
  match l.kind with
  | .convolution => l.frame.size
  | _ => l.inputs.size

/-- The ledger once the kernel of a layer is launched and its operands are transferred. -/
def launched (l : Layer) (blocks : Blocks) (images : Nat) (ledger : Ledger) : Ledger :=
  let block := l.block blocks
  ((l.mapArrays block images ledger).launch.record
    ⟨block, .weights, .into, 0, l.weightsSize * elementBytes⟩).record
    ⟨block, .activations, .into, 0, images * l.operandSize * elementBytes⟩

/-- What a run of the layer makes of the ledger. Pooling runs on the host and leaves no trace. -/
def account (l : Layer) (blocks : Blocks) (images : Nat) (ledger : Ledger) : Ledger :=
  if l.hasWeights then
    (l.launched blocks images ledger).record
      ⟨l.block blocks, .result, .outOf, 0, images * l.outputs.size * elementBytes⟩
  else ledger

/-- What a run that is refused makes of the ledger: a convolution is found out once it is launched. -/
def refusedAccount (l : Layer) (blocks : Blocks) (images : Nat) (ledger : Ledger) : Ledger :=
  if l.hasWeights then l.launched blocks images ledger else ledger

/-! ## Mapped arrays -/

/-- The arrays of a layer are mapped for its footprint and its weights. -/
theorem mappedBytes?_mapArrays (l : Layer) (block : BlockId) (images : Nat) (ledger : Ledger) (role : Role) :
    (l.mapArrays block images ledger).mappedBytes? block role = some (match role with
      | .weights => l.weightsSize * elementBytes
      | _ => images * l.footprint * elementBytes) := by
  cases role with
  | activations =>
    rw [mapArrays, Ledger.mappedBytes?_map_of_ne (by simp), Ledger.mappedBytes?_map_of_ne (by simp),
      Ledger.mappedBytes?_map_self]
  | weights => rw [mapArrays, Ledger.mappedBytes?_map_of_ne (by simp), Ledger.mappedBytes?_map_self]
  | result => rw [mapArrays, Ledger.mappedBytes?_map_self]

end ForwardPass.Layer

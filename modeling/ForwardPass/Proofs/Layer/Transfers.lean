import ForwardPass.Proofs.Convolution.Refusal
import ForwardPass.Proofs.Layer.Construction
import ForwardPass.Proofs.Layer.Meaning

/-!
# Transfers of a layer

On buffers of its footprint and with enough weights a layer passes its checks, and none of its
transfers is refused: they are made within arrays that were mapped for it. What remains of the accelerated
part of a convolution is the convolution itself.
-/

namespace ForwardPass

variable {α : Type} [Scalar α]

/-! ## Transfers -/

namespace Workbench

/-- The workbench with another ledger. -/
def setLedger (w : Workbench α) (ledger : Ledger) : Workbench α := { w with ledger }

omit [Scalar α] in
@[simp]
theorem setLedger_activations (w : Workbench α) (ledger : Ledger) :
    (w.setLedger ledger).activations = w.activations := rfl

omit [Scalar α] in
@[simp]
theorem setLedger_result (w : Workbench α) (ledger : Ledger) :
    (w.setLedger ledger).result = w.result := rfl

omit [Scalar α] in
theorem transfer_eq_ok {w : Workbench α} {block : BlockId} {role : Role} {direction : Direction}
    {size elements bytes : Nat} (hsize : elements ≤ size)
    (hmapped : w.ledger.mappedBytes? block role = some bytes) (hbytes : elements * elementBytes ≤ bytes) :
    transfer block role direction size elements w =
      .ok () (w.setLedger (w.ledger.record ⟨block, role, direction, 0, elements * elementBytes⟩)) := by
  unfold transfer
  rw [Ledger.transfer_eq_ok (Nat.mul_le_mul_right _ hsize) fun bytes' hbytes' => by
    rw [hmapped] at hbytes'
    cases hbytes'
    exact hbytes]
  rfl

omit [Scalar α] in
theorem write_eq_ok {w : Workbench α} {landing : Landing} {x : Except Failure (Array α)}
    {data : Array α} (h : x = .ok data) : write landing x w = .ok () (w.setTarget data landing) := by
  rw [h]
  rfl

omit [Scalar α] in
theorem runKernel_eq_ok {w : Workbench α} {landing : Landing}
    {kernel : Workbench α → EStateM Failure (Array α) Unit} {data : Array α}
    (h : kernel w (w.target landing) = .ok () data) :
    runKernel landing kernel w = .ok () (w.setTarget data landing) := by
  unfold runKernel
  rw [h]

omit [Scalar α] in
theorem runKernel_eq_error {w : Workbench α} {landing : Landing}
    {kernel : Workbench α → EStateM Failure (Array α) Unit} {failure : Failure} {data : Array α}
    (h : kernel w (w.target landing) = .error failure data) :
    runKernel landing kernel w = .error failure (w.setTarget data landing) := by
  unfold runKernel
  rw [h]

end Workbench

namespace Layer

open Workbench

variable {l : Layer} {x : Batch α} {weights : Array α} {images : Nat} {blocks : Blocks}
  {w : Workbench α} {ledger : Ledger}

omit [Scalar α] in
/-- The three transfers of a layer fit its mapping, whatever was recorded in between. -/
theorem transferArray_eq_ok (l : Layer) (images : Nat) (ledger : Ledger) {block : BlockId}
    {role : Role} {direction : Direction} {size elements : Nat} (hsize : elements ≤ size)
    (hmapped : w.ledger.mappedBytes? block role =
      (l.mapArrays block images ledger).mappedBytes? block role)
    (helements : elements ≤ match role with
      | .weights => l.weightsSize
      | _ => images * l.footprint) :
    transfer block role direction size elements w =
      .ok () (w.setLedger (w.ledger.record ⟨block, role, direction, 0, elements * elementBytes⟩)) := by
  rw [mappedBytes?_mapArrays] at hmapped
  refine transfer_eq_ok hsize hmapped ?_
  cases role <;> exact Nat.mul_le_mul_right _ helements

/-! ## Buffers and weights -/

/-- What a layer asks of the workbench, and what a network promises. -/
structure Ready (l : Layer) (images : Nat) (weights : Array α) (w : Workbench α) : Prop where
  activations : images * l.footprint ≤ w.activations.size
  result : images * l.footprint ≤ w.result.size
  weights : l.weightsSize ≤ weights.size

omit [Scalar α] in
/-- Buffers of the footprint and enough weights pass the checks. -/
theorem Ready.checkBuffers_eq_ok (h : l.Ready images weights w) :
    l.checkBuffers images w.activations.size w.result.size weights.size = .ok () := by
  have hweights : ¬ (l.hasWeights && decide (weights.size < l.weightsSize)) = true := by
    simp [Nat.not_lt.2 h.weights]
  unfold checkBuffers
  dsimp only
  rw [if_neg (Nat.not_lt.2 h.activations), if_neg (Nat.not_lt.2 h.result), if_neg hweights]
  rfl

omit [Scalar α] in
/-- The checks ask for no less. -/
theorem ready_of_checkBuffers
    (h : l.checkBuffers images w.activations.size w.result.size weights.size = .ok ()) :
    l.Ready images weights w := by
  unfold checkBuffers at h
  dsimp only at h
  split at h
  · cases h
  next hactivations =>
  split at h
  · cases h
  next hresult =>
  split at h
  · split at h <;> cases h
  next hweights =>
  refine ⟨Nat.le_of_not_lt hactivations, Nat.le_of_not_lt hresult, ?_⟩
  cases hkind : l.kind with
  | convolution => simpa [hasWeights, hkind] using hweights
  | innerProduct => simpa [hasWeights, hkind] using hweights
  | pooling => simp [weightsSize, hkind]

/-! ## Convolutions -/

omit [Scalar α] in
/-- A convolution accounts on the block for convolutions, and reads its frame there. -/
theorem launched_eq (hl : l.kind = .convolution) (ledger : Ledger) :
    l.launched blocks images ledger =
      ((l.mapArrays blocks.convolution images ledger).launch.record
        ⟨blocks.convolution, .weights, .into, 0, l.weightsSize * elementBytes⟩).record
        ⟨blocks.convolution, .activations, .into, 0, images * l.frame.size * elementBytes⟩ := by
  rw [launched, block, operandSize, hl]

omit [Scalar α] in
theorem account_eq (hl : l.kind = .convolution) (ledger : Ledger) :
    l.account blocks images ledger = (l.launched blocks images ledger).record
      ⟨blocks.convolution, .result, .outOf, 0, images * l.outputs.size * elementBytes⟩ := by
  rw [account, if_pos (by simp [hasWeights, hl]), block, hl]

/-- The operands of a convolution are transferred before it starts. -/
theorem runConvolution_launched (hl : l.kind = .convolution) (hweights : l.weightsSize ≤ weights.size)
    {landing : Landing} (hsource : images * l.frame.size ≤ (w.source landing).size)
    (hledger : w.ledger = (l.mapArrays blocks.convolution images ledger).launch) :
    l.runConvolution blocks.convolution weights images landing w =
      ((do
        runKernel landing fun w => l.convolve images (w.source landing) weights
        transfer blocks.convolution .result .outOf ((← get).target landing).size
          (images * l.outputs.size)) : EStateM Failure (Workbench α) Unit)
        (w.setLedger (l.launched blocks images ledger)) := by
  unfold runConvolution
  -- Records do not touch the mapping, so both transfers are checked against the one just made.
  rw [bind_of_ok (transferArray_eq_ok l images ledger
    hweights (by rw [hledger]; rfl) (Nat.le_refl _)), bind_get,
    bind_of_ok (transferArray_eq_ok l images ledger
      (by cases landing <;> exact hsource) (by rw [setLedger, hledger]; rfl)
      (Nat.mul_le_mul_left _ l.frame_size_le))]
  rw [launched_eq hl, ← hledger]
  rfl

/-- The accelerated part of a convolution is the convolution of its source into its target. All its
transfers fit, also that of a result, because a convolution keeps the size of its target. -/
theorem runConvolution_eq (hl : l.kind = .convolution) (blocks : Blocks) (landing : Landing)
    (hweights : l.weightsSize ≤ weights.size) (hroom : l.BatchRoom images (w.source landing) weights)
    (htarget : images * l.outputs.size ≤ (w.target landing).size)
    (hledger : w.ledger = (l.mapArrays blocks.convolution images ledger).launch) :
    l.runConvolution blocks.convolution weights images landing w =
      match l.convolve images (w.source landing) weights (w.target landing) with
      | .ok () output =>
        .ok () ((w.setLedger (l.account blocks images ledger)).setTarget output landing)
      | .error failure output =>
        .error failure ((w.setLedger (l.launched blocks images ledger)).setTarget output landing) := by
  rw [runConvolution_launched hl hweights hroom.activations hledger]
  cases hconvolve : l.convolve images (w.source landing) weights (w.target landing) with
  | ok _ output =>
    have hkernel : runKernel landing (fun w => l.convolve images (w.source landing) weights)
        (w.setLedger (l.launched blocks images ledger)) =
        .ok () ((w.setLedger (l.launched blocks images ledger)).setTarget output landing) :=
      runKernel_eq_ok (by cases landing <;> exact hconvolve)
    have hmapped : (l.launched blocks images ledger).mappedBytes? blocks.convolution .result =
        (l.mapArrays blocks.convolution images ledger).mappedBytes? blocks.convolution .result := by
      rw [launched_eq hl]
      rfl
    have hsize := size_of_convolve_eq_ok hroom htarget hconvolve
    rw [bind_of_ok hkernel, bind_get, account_eq hl]
    cases landing <;>
      exact transferArray_eq_ok l images ledger (hsize ▸ htarget) hmapped
        (Nat.mul_le_mul_left _ l.outputs_size_le)
  | error failure output =>
    exact bind_of_error (runKernel_eq_error (by cases landing <;> exact hconvolve)) _

end Layer

end ForwardPass

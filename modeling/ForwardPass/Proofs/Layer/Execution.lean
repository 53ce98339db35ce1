import ForwardPass.Proofs.Layer.Pooling
import ForwardPass.Proofs.Layer.Separation

/-!
# Running one layer

A layer whose shapes are consistent, on buffers of its footprint, is never stopped by a slice, a transfer
or a size: it runs exactly when it has no obstacle. Its output depends on its input and its weights alone,
whatever else the buffers hold.
-/

namespace ForwardPass.Layer

open Workbench

variable {α : Type} [Scalar α] {l : Layer} {x y : Batch α} {weights : Array α} {images : Nat}
  {blocks : Blocks} {w : Workbench α}

/-! ## Before and after -/

/-- What a run leaves that went through: the accounts of the layer, and the batch `y` where it landed. -/
structure Landed (l : Layer) (blocks : Blocks) (images : Nat) (y : Batch α) (w : Workbench α)
    (landing : Landing) (w' : Workbench α) : Prop where
  ledger : w'.ledger = l.account blocks images w.ledger
  activations : w'.activations.size = w.activations.size
  result : w'.result.size = w.result.size
  holds : l.outputs.Holds images (w'.target landing) y

/-- What a run leaves that was refused. -/
structure Refused (l : Layer) (blocks : Blocks) (images : Nat) (w w' : Workbench α) : Prop where
  ledger : w'.ledger = l.refusedAccount blocks images w.ledger
  activations : w'.activations.size = w.activations.size
  result : w'.result.size = w.result.size

/-- A run goes through when its work does. -/
theorem Ready.completes (hready : l.Ready images weights w) (landing : Landing) {live other : Array α}
    (hwork : l.work weights images w.activations w.result = .ok landing (live, other))
    (hlive : live.size = w.activations.size) (hother : other.size = w.result.size)
    (hy : l.outputs.Holds images (target ⟨w.ledger, live, other⟩ landing) y) :
    Completes (l.run blocks weights images) w (l.Landed blocks images y w) := by
  refine ⟨landing, ⟨l.account blocks images w.ledger, live, other⟩, ?_, rfl, hlive, hother, ?_⟩
  · rw [run_eq blocks hready, hwork]
    rfl
  · cases landing <;> exact hy

/-! ## Obstacles -/

omit [Scalar α] in
/-- Without an obstacle, every plane of a convolution fits. -/
theorem IsConvolution.planesFit (hl : l.IsConvolution) (hnone : l.obstacle? images = none) :
    l.PlanesFit images := by
  intro hi hk hc
  simp only [obstacle?, hl.kind, hi, hk, hc, or_self, if_false] at hnone
  split at hnone
  · cases hnone
  · split at hnone
    · cases hnone
    · next hfield haligned => exact ⟨Nat.le_of_not_lt hfield, not_not.1 haligned⟩

omit [Scalar α] in
/-- A convolution made by its constructor has no other defects than its obstacle. -/
theorem IsConvolution.batchDefect?_eq (hl : l.IsConvolution) (images : Nat) :
    l.batchDefect? images = l.obstacle? images := by
  have hroom := l.planeRoom_first
  unfold batchDefect? obstacle?
  rw [hl.kind]
  dsimp only
  split
  · rfl
  · unfold planeDefect?
    by_cases hfield : vectorLanes < l.fieldSize
    · have hwide : vectorLanes < l.weights.cols := by rwa [hl.weights_cols]
      rw [if_pos hfield, planeSchedule_of_wide hwide, hl.weights_cols]
    · rw [if_neg hfield]
      by_cases haligned : l.frame.rowLanes % vectorLanes = 0
      · obtain ⟨s, hs, -⟩ := hl.slides.planeSchedule_eq_ok (Nat.le_of_not_lt hfield) haligned
          hroom.activations hroom.kernels hroom.result
        rw [hs, if_neg (not_not.2 haligned)]
      · rw [hl.planeSchedule_of_unaligned (Nat.le_of_not_lt hfield) haligned, if_pos haligned]

omit [Scalar α] in
theorem Consistent.defect?_eq (hl : l.Consistent) (images : Nat) : l.defect? images = l.obstacle? images := by
  unfold defect?
  cases hl with
  | convolution h =>
    rw [h.kind]
    exact h.batchDefect?_eq images
  | innerProduct h => rw [obstacle?, h.kind]
  | pooling h => rw [obstacle?, h.kind]

/-! ## Every kind of layer -/

/-- What a convolution without a border does: it reads its input where it is. -/
theorem IsConvolution.work_across (hl : l.IsConvolution) (hready : l.Ready images weights w)
    (hfit : l.PlanesFit images) (hborder : l.border = 0) (hx : l.inputs.Holds images w.activations x) :
    l.work weights images w.activations w.result =
      .ok .across (w.activations, l.outputs.tabulate images (l.convolved weights x) ++
        w.result.extract (images * l.outputs.size)) := by
  have hbatch : l.BatchReady images x w.activations weights := {
    layer := hl
    fit := hfit
    holds := by rwa [frame_of_no_border hborder]
    weights := (hready.batchRoom hl.kind hready.activations).weights }
  rw [work, hl.kind]
  dsimp only
  rw [if_neg (Nat.not_lt.2 (Nat.le_of_eq hborder)),
    hbatch.convolve_eq (Nat.le_trans (Nat.mul_le_mul_left images l.outputs_size_le) hready.result)]

/-- What a convolution with a border does: its frame takes up the other buffer, and the output goes back
over the input. The pad lanes of the input are not read. -/
theorem IsConvolution.work_inPlace (hl : l.IsConvolution) (hready : l.Ready images weights w)
    (hfit : l.PlanesFit images) (hborder : 0 < l.border) (hx : l.inputs.Shows images w.activations x) :
    l.work weights images w.activations w.result = .ok .inPlace
      (l.outputs.tabulate images (l.convolved weights (Border.framed l.inputs l.border x)) ++
          w.activations.extract (images * l.outputs.size),
        l.frame.tabulate images (Border.framed l.inputs l.border x) ++
          w.result.extract (images * l.frame.size)) := by
  have hframe := frame_of_border hborder
  have hroom := Nat.le_trans (Nat.mul_le_mul_left images l.frame_size_le) hready.result
  rw [hframe] at hroom
  obtain ⟨staged, hcopy, hwritten⟩ := Border.copy_yields hx hroom
  rw [← hframe] at hwritten
  have hbatch : l.BatchReady images (Border.framed l.inputs l.border x) staged weights := {
    layer := hl
    fit := hfit
    holds := Shape.holds_of_written hwritten
    weights := (hready.batchRoom hl.kind hready.activations).weights }
  rw [work, hl.kind]
  dsimp only
  rw [if_pos hborder, hcopy]
  dsimp only
  rw [hbatch.convolve_eq (Nat.le_trans (Nat.mul_le_mul_left images l.outputs_size_le) hready.activations),
    Shape.written_eq_append hwritten]

theorem convolution_completes (hl : l.IsConvolution) (hready : l.Ready images weights w)
    (hnone : l.obstacle? images = none) (hx : l.inputs.Holds images w.activations x) :
    Completes (l.run blocks weights images) w
      (l.Landed blocks images (l.convolved weights (l.framed x)) w) := by
  have hfit := hl.planesFit hnone
  have houtput := Nat.mul_le_mul_left images l.outputs_size_le
  rcases Nat.eq_zero_or_pos l.border with hborder | hborder
  · rw [framed, if_neg (Nat.not_lt.2 (Nat.le_of_eq hborder))]
    exact hready.completes .across (hl.work_across hready hfit hborder hx) rfl
      (Shape.size_over (Nat.le_trans houtput hready.result)) (Shape.holds_append ..)
  · rw [framed, if_pos hborder]
    exact hready.completes .inPlace (hl.work_inPlace hready hfit hborder hx.shows)
      (Shape.size_over (Nat.le_trans houtput hready.activations))
      (Shape.size_over (Nat.le_trans (Nat.mul_le_mul_left images l.frame_size_le) hready.result))
      (Shape.holds_append ..)

omit [Scalar α] in
/-- The rows of the weights are the logical elements of the input and the bias. -/
theorem IsInnerProduct.fit (hl : l.IsInnerProduct) :
    Dense.Shapes.Fit ⟨l.inputs, l.weights, l.outputs⟩ where
  output_rows := by rw [hl.outputs]; rfl
  output_height := by rw [hl.outputs]; rfl
  weights_rows := by rw [hl.weights]; rfl
  weights_cols := by rw [hl.weights]; rfl
  weights_height := by rw [hl.weights]; rfl

theorem innerProduct_completes (hl : l.IsInnerProduct) (hready : l.Ready images weights w)
    (hx : l.inputs.Holds images w.activations x) :
    Completes (l.run blocks weights images) w
      (l.Landed blocks images (Dense.outputs ⟨l.inputs, l.weights, l.outputs⟩ l.activation weights x) w) := by
  have hweights : l.weights.size ≤ weights.size := by
    have hweights := hready.weights
    rwa [weightsSize, hl.kind] at hweights
  have htarget := Nat.le_trans (Nat.mul_le_mul_left images l.outputs_size_le) hready.result
  obtain ⟨result, hrun, hwritten⟩ := Dense.run_yields hl.fit hweights l.activation hx.shows htarget
  refine hready.completes .across ?_ rfl hwritten.size (Shape.holds_of_written hwritten)
  rw [work, hl.kind]
  dsimp only
  rw [hrun]

theorem pooling_completes (hl : l.IsPooling) (hready : l.Ready images weights w)
    (hmax : l.pooling = .max) (hx : l.inputs.Holds images w.activations x) :
    Completes (l.run blocks weights images) w
      (l.Landed blocks images (MaxPool.pooled ⟨l.inputs, l.outputs, l.fieldSize, l.stride⟩ x) w) := by
  have htarget := Nat.le_trans (Nat.mul_le_mul_left images l.outputs_size_le) hready.result
  obtain ⟨result, hrun, hwritten⟩ := MaxPool.run_yields hl.fit hx.shows htarget
  refine hready.completes .across ?_ rfl hwritten.size (Shape.holds_of_written hwritten)
  rw [work, hl.kind]
  dsimp only
  rw [if_pos hmax, hrun]

/-! ## Every layer -/

/-- A layer without an obstacle runs, and leaves the batch it means where it lands. -/
theorem run_completes (blocks : Blocks) (hl : l.Consistent) (hready : l.Ready images weights w)
    (hnone : l.obstacle? images = none) (hx : l.inputs.Holds images w.activations x) :
    Completes (l.run blocks weights images) w (l.Landed blocks images (l.apply weights x) w) := by
  cases hl with
  | convolution h =>
    rw [apply, h.kind]
    exact convolution_completes h hready hnone hx
  | innerProduct h =>
    rw [apply, h.kind]
    exact innerProduct_completes h hready hx
  | pooling h =>
    have hmax : l.pooling = .max := by
      by_contra hne
      simp [obstacle?, h.kind, hne] at hnone
    rw [apply, h.kind]
    exact pooling_completes h hready hmax hx

/-- A layer with an obstacle is stopped by it. -/
theorem run_refused (blocks : Blocks) (hl : l.Consistent) (hready : l.Ready images weights w)
    {e : EngineError} (he : l.obstacle? images = some e) :
    ∃ w', l.run blocks weights images w = .error (.error e) w' ∧ l.Refused blocks images w w' := by
  obtain ⟨result, hwork, hsize, -⟩ := work_of_defect hready ((hl.defect?_eq images).trans he)
  refine ⟨⟨l.refusedAccount blocks images w.ledger, w.activations, result⟩, ?_, rfl, rfl, hsize⟩
  rw [run_eq blocks hready, hwork]
  rfl

end ForwardPass.Layer

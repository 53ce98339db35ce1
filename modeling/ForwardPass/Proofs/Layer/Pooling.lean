import ForwardPass.Proofs.Exact
import ForwardPass.Proofs.Kernel.MaxPool
import ForwardPass.Proofs.Layer.Construction

/-!
# Pooling layers

The windows of a pooling layer, overlapping or with gaps between them, end within the planes of its input
whatever remainder their stride leaves. So no window meets a pad lane, and what a pooling leaves is said
of the logical elements alone.
-/

namespace ForwardPass.Layer

variable {α : Type} [Scalar α] {l : Layer} {x : Batch α} {name : String} {inputs : Shape}
  {fieldSize stride : Nat} {pooling : Pooling}

omit [Scalar α] in
/-- Every window of a pooling layer lies within its plane. -/
theorem IsPooling.fit (hl : l.IsPooling) :
    MaxPool.Windows.Fit ⟨l.inputs, l.outputs, l.fieldSize, l.stride⟩ where
  height := by rw [hl.outputs]; rfl
  rows r hr := window_le_extent hl.field_le_rows (by
    have hrows : l.outputs.rows = (l.inputs.rows - l.fieldSize) / l.stride + 1 := by
      rw [hl.outputs]; rfl
    exact hrows ▸ hr)
  cols c hc := window_le_extent hl.field_le_cols (by
    have hcols : l.outputs.cols = (l.inputs.cols - l.fieldSize) / l.stride + 1 := by
      rw [hl.outputs]; rfl
    exact hcols ▸ hc)

/-- Pooling by a layer that was accepted, element by element: every output is the running maximum over a
window of logical elements of its channel, row by row from below every number. The elements of the input
are given by their coordinates, so neither its pad lanes nor what the result held before occur. -/
theorem pooling_exact (hput : poolingLayer name inputs fieldSize stride pooling = .ok l) (images : Nat)
    {activations result : Array α} (hx : inputs.Shows images activations x)
    (hsize : images * l.outputs.size ≤ result.size) :
    Yields (MaxPool.run ⟨l.inputs, l.outputs, l.fieldSize, l.stride⟩ images activations result)
      fun after =>
        after.size = result.size ∧ l.outputs.height = inputs.height ∧
        (∀ image < images, ∀ chan < l.outputs.height, ∀ r < l.outputs.rows,
          (∀ c < l.outputs.cols,
            (∀ i < fieldSize, ∀ j < fieldSize,
              r * stride + i < inputs.rows ∧ c * stride + j < inputs.cols) ∧
            after[Tensor.position l.outputs image chan r c]? =
              some ((MaxPool.windowElements ⟨inputs, l.outputs, fieldSize, stride⟩ x image chan r c).foldl
                Scalar.larger Scalar.lowest)) ∧
          ∀ c < l.outputs.rowLanes, l.outputs.cols ≤ c →
            after[Tensor.position l.outputs image chan r c]? = some 0) ∧
        ∀ i, images * l.outputs.size ≤ i → after[i]? = result[i]? := by
  have hfit := (isPooling_of_eq_ok hput).fit
  obtain ⟨rows, cols, -, -, rfl⟩ := poolingLayer_eq_ok hput
  refine (MaxPool.run_yields hfit hx hsize).mono fun after hafter => ⟨hafter.size, rfl, ?_,
    fun i hi => hafter.outside i (Nat.not_lt.2 hi)⟩
  intro image hi chan hc r hr
  have hlane : ∀ c < (Shape.aligned rows cols inputs.height).rowLanes,
      after[Tensor.position (.aligned rows cols inputs.height) image chan r c]? =
        some (MaxPool.pooled ⟨inputs, .aligned rows cols inputs.height, fieldSize, stride⟩ x
          image chan r c) := by
    intro c hl
    rw [hafter.inside _ (Shape.position_lt _ hi hc hr hl), Shape.flat_position _ _ hc hr hl]
  refine ⟨fun c hcol => ⟨fun i hi j hj => ?_, ?_⟩, fun c hl hpad => ?_⟩
  · have hrows := hfit.rows r hr
    have hcols := hfit.cols c hcol
    dsimp only at hrows hcols
    omega
  · rw [hlane c (Nat.lt_of_lt_of_le hcol (Shape.cols_le_rowLanes _)), MaxPool.pooled, if_pos hcol,
      MaxPool.windowValue_eq_foldl]
  · rw [hlane c hl, MaxPool.pooled, if_neg (Nat.not_lt.2 hpad)]

/-- Overlapping windows over two channels of rows with two pad lanes, all of them larger than any element. -/
def overlapping : Layer where
  name := "pool"
  kind := .pooling
  inputs := ⟨3, 3, 2, 2⟩
  outputs := ⟨2, 2, 2, 6⟩
  weights := .nothing
  fieldSize := 2
  stride := 1
  border := 0
  activation := .identity
  pooling := .max

theorem pooling_exact_overlapping :
    poolingLayer "pool" ⟨3, 3, 2, 2⟩ 2 1 .max = .ok overlapping ∧ ∃ after,
      @MaxPool.run Int integers ⟨overlapping.inputs, overlapping.outputs, 2, 1⟩ 1
        (Array.ofFn fun i : Fin 30 => if i.val % 5 < 3 then (i.val : Int) * 7 % 11 - 9 else 1000)
        (Array.replicate 33 (-1)) = .ok after ∧
      after[0]? = some 0 ∧ after[25]? = some (-3) ∧ after[26]? = some 0 ∧ after[32]? = some (-1) := by
  have hput : poolingLayer "pool" ⟨3, 3, 2, 2⟩ 2 1 .max = .ok overlapping := rfl
  let activations : Array Int :=
    Array.ofFn fun i : Fin 30 => if i.val % 5 < 3 then (i.val : Int) * 7 % 11 - 9 else 1000
  have hx := (@Shape.holds_read Int ⟨0⟩ ⟨3, 3, 2, 2⟩ 1 activations (by decide)).shows
  obtain ⟨after, hrun, -, -, houtput, hrest⟩ := @pooling_exact Int integers overlapping _ _ _ _ _ _ hput 1
    activations (Array.replicate 33 (-1)) hx (by decide)
  obtain ⟨hfirst, -⟩ := houtput 0 (by decide) 0 (by decide) 0 (by decide)
  obtain ⟨hlast, hpads⟩ := houtput 0 (by decide) 1 (by decide) 1 (by decide)
  refine ⟨hput, after, hrun, (hfirst 0 (by decide)).2.trans ?_, (hlast 1 (by decide)).2.trans ?_,
    hpads 2 (by decide) (by decide), hrest 32 (by decide)⟩
  · decide +kernel
  · decide +kernel

end ForwardPass.Layer

import ForwardPass.Proofs.Layer.Meaning

/-!
# Supported layers

A constructor accepts layers that the accelerator does not run. Over an input whose rows are whole vectors
there are two such layers: a pooling layer that does not ask for its maximum, and a convolution with a kernel
too wide for a vector register, unless it has no plane to convolve.
-/

namespace ForwardPass

/-! ## Aligned shapes -/

/-- The rows of the shape are filled up to whole vectors. -/
def Shape.IsAligned (s : Shape) : Prop := s = .aligned s.rows s.cols s.height

theorem Shape.isAligned_aligned (rows cols height : Nat) : (aligned rows cols height).IsAligned := rfl

theorem Shape.IsAligned.rowLanes_mod {s : Shape} (h : s.IsAligned) : s.rowLanes % vectorLanes = 0 := by
  rw [h]
  exact aligned_rowLanes_mod ..

namespace Layer

variable {l : Layer} {images : Nat}

/-- A border leaves aligned rows aligned. -/
theorem frame_rowLanes_mod (h : l.inputs.IsAligned) : l.frame.rowLanes % vectorLanes = 0 := by
  rcases Nat.eq_zero_or_pos l.border with hborder | hborder
  · rw [frame_of_no_border hborder]
    exact h.rowLanes_mod
  · rw [frame_of_border hborder]
    exact Shape.aligned_rowLanes_mod ..

/-- What a constructed layer produces is aligned, whatever it reads. -/
theorem Consistent.outputs_aligned (h : l.Consistent) : l.outputs.IsAligned := by
  cases h with
  | convolution h =>
    rw [h.outputs]
    exact Shape.isAligned_aligned ..
  | innerProduct h =>
    rw [h.outputs]
    exact Shape.isAligned_aligned ..
  | pooling h =>
    rw [h.outputs]
    exact Shape.isAligned_aligned ..

/-! ## Support -/

/-- The accelerator runs the layer on a batch of this many images. -/
structure Supported (l : Layer) (images : Nat) : Prop where
  pooling : l.kind = .pooling → l.pooling = .max
  field : l.kind = .convolution → images ≠ 0 → l.kernelCount ≠ 0 → l.inputs.height ≠ 0 →
    l.fieldSize ≤ vectorLanes

/-- The answer to a layer that is not supported. -/
def refusal (l : Layer) : EngineError :=
  match l.kind with
  | .pooling => .unsupportedPooling l.name l.pooling
  | _ => .kernelTooWide l.fieldSize

theorem Supported.obstacle?_eq (h : l.Supported images) (ha : l.inputs.IsAligned) :
    l.obstacle? images = none := by
  unfold obstacle?
  cases hkind : l.kind with
  | convolution =>
    dsimp only
    split
    · rfl
    · next hplanes =>
      -- A border adds no channels, so the frame is empty when the input is.
      rw [frame, withBorder_height] at hplanes
      have hfield := h.field hkind (by omega) (by omega) (by omega)
      rw [if_neg (by omega), if_neg (not_not.2 (frame_rowLanes_mod ha))]
  | innerProduct => rfl
  | pooling => exact if_pos (h.pooling hkind)

theorem obstacle?_of_not_supported (h : ¬ l.Supported images) :
    l.obstacle? images = some l.refusal := by
  unfold obstacle? refusal
  cases hkind : l.kind with
  | convolution =>
    have hwide : (images ≠ 0 ∧ l.kernelCount ≠ 0 ∧ l.inputs.height ≠ 0) ∧ vectorLanes < l.fieldSize := by
      by_contra hnarrow
      refine h ⟨fun hpool => ?_, fun _ hi hk hc => ?_⟩
      · rw [hkind] at hpool
        cases hpool
      · exact Nat.le_of_not_lt fun hlt => hnarrow ⟨⟨hi, hk, hc⟩, hlt⟩
    obtain ⟨⟨hi, hk, hc⟩, hlt⟩ := hwide
    rw [← withBorder_height l.inputs l.border, ← frame] at hc
    simp [hi, hk, hc, hlt]
  | innerProduct =>
    refine absurd ⟨fun hpool => ?_, fun hconv => ?_⟩ h
    · rw [hkind] at hpool
      cases hpool
    · rw [hkind] at hconv
      cases hconv
  | pooling =>
    have hmax : l.pooling ≠ .max := by
      intro hmax
      refine h ⟨fun _ => hmax, fun hconv => ?_⟩
      rw [hkind] at hconv
      cases hconv
    exact if_neg hmax

/-- Over aligned shapes there is an obstacle exactly where a layer is not supported. -/
theorem obstacle?_eq_none_iff_supported (ha : l.inputs.IsAligned) :
    l.obstacle? images = none ↔ l.Supported images := by
  constructor
  · intro hnone
    by_contra hnot
    rw [obstacle?_of_not_supported hnot] at hnone
    cases hnone
  · intro h
    exact h.obstacle?_eq ha

end Layer

end ForwardPass

import ForwardPass.Scalar

/-!
# Single precision

What sums make of zeros, infinities and elements that are not numbers. A product with zero is a zero, of
either sign, as long as the other factor is finite; otherwise it is not a number. Sums keep elements that are
not numbers, and tell the two zeros apart in the sign of a zero only: `Alike` is equality up to that sign.
-/

namespace ForwardPass.SinglePrecision

open Float.Model (UnpackedFloat)
open Float.Model.UnpackedFloat (Sign)

/-! ## Elements by their parts -/

abbrev unpacked (x : Float32) : UnpackedFloat := x.toModel.unpack

def packed (u : UnpackedFloat) : Float32 := .ofModel (.pack u)

/-- The element that is not a number. -/
def notANumber : Float32 := packed .notANumber

theorem add_eq (x y : Float32) : x + y = packed (.add .binary32 (unpacked x) (unpacked y)) := rfl

theorem mul_eq (x y : Float32) : x * y = packed (.mul .binary32 (unpacked x) (unpacked y)) := rfl

theorem isFinite_eq (x : Float32) : x.isFinite = (unpacked x).isFinite := rfl

theorem unpacked_packed_zero (s : Sign) : unpacked (packed (.zero s)) = .zero s := by
  cases s <;> rfl

theorem unpacked_zero : unpacked 0 = .zero .positive := by
  have hzero : (0 : Float32) = packed (.zero .positive) := by decide +kernel
  rw [hzero, unpacked_packed_zero]

theorem unpacked_notANumber : unpacked notANumber = .notANumber := rfl

/-! ## Not a number -/

theorem notANumber_add (x : Float32) : notANumber + x = notANumber := by
  rw [add_eq, unpacked_notANumber]
  rfl

theorem add_notANumber (x : Float32) : x + notANumber = notANumber := by
  rw [add_eq, unpacked_notANumber]
  cases unpacked x <;> rfl

/-- Zero times an element that is not finite is not a number. -/
theorem zero_mul_of_not_finite {x : Float32} (h : ¬ x.isFinite = true) : 0 * x = notANumber := by
  rw [isFinite_eq] at h
  rw [mul_eq, unpacked_zero]
  cases hx : unpacked x with
  | infinity s => rfl
  | notANumber => rfl
  | zero s => rw [hx] at h; exact (h rfl).elim
  | finite s m e hm => rw [hx] at h; exact (h rfl).elim

/-! ## Zeros -/

/-- One of the two zeros. -/
def IsZero (x : Float32) : Prop := ∃ s, unpacked x = .zero s

/-- The same element, but for the sign of a zero. -/
def Alike (x y : Float32) : Prop := x = y ∨ IsZero x ∧ IsZero y

theorem isZero_packed (s : Sign) : IsZero (packed (.zero s)) := ⟨s, unpacked_packed_zero s⟩

/-- Zero times a finite element is a zero. -/
theorem isZero_zero_mul {x : Float32} (h : x.isFinite = true) : IsZero (0 * x) := by
  rw [isFinite_eq] at h
  rw [mul_eq, unpacked_zero]
  cases hx : unpacked x with
  | infinity s => rw [hx] at h; cases h
  | notANumber => rw [hx] at h; cases h
  | zero s => exact isZero_packed _
  | finite s m e hm => exact isZero_packed _

theorem isZero_add {x y : Float32} (hx : IsZero x) (hy : IsZero y) : IsZero (x + y) := by
  obtain ⟨s, hs⟩ := hx
  obtain ⟨t, ht⟩ := hy
  rw [add_eq, hs, ht]
  cases s <;> cases t <;> exact isZero_packed _

/-- An element that is not zero is only packed again when a zero is added, on either side. -/
theorem add_of_isZero {x z : Float32} (hx : ¬ IsZero x) (hz : IsZero z) :
    x + z = packed (unpacked x) ∧ z + x = packed (unpacked x) := by
  obtain ⟨s, hs⟩ := hz
  rw [add_eq, add_eq, hs]
  cases hux : unpacked x with
  | zero t => exact (hx ⟨t, hux⟩).elim
  | infinity t => exact ⟨rfl, rfl⟩
  | notANumber => exact ⟨rfl, rfl⟩
  | finite t m e hm => exact ⟨rfl, rfl⟩

namespace Alike

variable {x x' y y' : Float32}

theorem refl (x : Float32) : Alike x x := .inl rfl

/-- Which zero is added matters at most to the sign of a zero. -/
theorem add_zeros (x : Float32) (hy : IsZero y) (hy' : IsZero y') : Alike (x + y) (x + y') := by
  by_cases hx : IsZero x
  · exact .inr ⟨isZero_add hx hy, isZero_add hx hy'⟩
  · exact .inl ((add_of_isZero hx hy).1.trans (add_of_isZero hx hy').1.symm)

theorem zeros_add (y : Float32) (hx : IsZero x) (hx' : IsZero x') : Alike (x + y) (x' + y) := by
  by_cases hy : IsZero y
  · exact .inr ⟨isZero_add hx hy, isZero_add hx' hy⟩
  · exact .inl ((add_of_isZero hy hx).2.trans (add_of_isZero hy hx').2.symm)

/-- Sums of elements that are alike are alike. -/
theorem add (hx : Alike x x') (hy : Alike y y') : Alike (x + y) (x' + y') := by
  rcases hx with rfl | ⟨hx, hx'⟩
  · rcases hy with rfl | ⟨hy, hy'⟩
    · exact refl _
    · exact add_zeros x hy hy'
  · rcases hy with rfl | ⟨hy, hy'⟩
    · exact zeros_add y hx hx'
    · exact .inr ⟨isZero_add hx hy, isZero_add hx' hy'⟩

/-- Behind a positive zero the sign of a zero is lost. -/
theorem zero_add_eq (h : Alike x y) : 0 + x = 0 + y := by
  have hpositive {z : Float32} (hz : IsZero z) : 0 + z = packed (.zero .positive) := by
    obtain ⟨s, hs⟩ := hz
    rw [add_eq, unpacked_zero, hs]
    cases s <;> rfl
  rcases h with rfl | ⟨hx, hy⟩
  · rfl
  · exact (hpositive hx).trans (hpositive hy).symm

end Alike

end ForwardPass.SinglePrecision

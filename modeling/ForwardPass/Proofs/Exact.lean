import Mathlib.Algebra.BigOperators.Intervals
import ForwardPass.Scalar

/-!
# Exact arithmetic

What the kernels compute is said operation by operation, because rounded sums depend on their order.
Where sums are exact the order does not matter: `ExactSums` is the laws that it takes, and the integers
have them.
-/

namespace ForwardPass

/-- Sums that may be reordered, and products with zero that vanish. -/
structure ExactSums (α : Type) [Scalar α] : Prop where
  zero_add : ∀ x : α, 0 + x = x
  add_comm : ∀ x y : α, x + y = y + x
  add_assoc : ∀ x y z : α, x + y + z = x + (y + z)
  zero_mul : ∀ x : α, 0 * x = 0

/-- Integer elements. The functions that leave the integers are cut short; what is exact is the sums. -/
@[reducible]
def integers : Scalar Int where
  zero := 0
  lowest := -1000000
  larger x y := max x y
  isNegative x := x < 0
  abs x := x.natAbs
  exp x := x
  tanh x := x
  ofNat n := n
  ofScientific mantissa down exponent := if down then mantissa / 10 ^ exponent else mantissa * 10 ^ exponent

theorem exactSums_integers : @ExactSums Int integers :=
  @ExactSums.mk Int integers Int.zero_add Int.add_comm Int.add_assoc Int.zero_mul

/-! ## Loops as sums -/

variable {α : Type} [Scalar α]

/-- The sums as a monoid. -/
abbrev ExactSums.addCommMonoid (h : ExactSums α) : AddCommMonoid α where
  zero_add := h.zero_add
  add_zero x := (h.add_comm x 0).trans (h.zero_add x)
  add_comm := h.add_comm
  add_assoc := h.add_assoc
  nsmul := nsmulRec

/-- A loop that adds up is its start and a sum. -/
theorem ExactSums.foldl_add (h : ExactSums α) (term : Nat → α) (n : Nat) (start : α) :
    (List.range n).foldl (fun sum j => sum + term j) start =
      start + @Finset.sum Nat α h.addCommMonoid (Finset.range n) term := by
  let := h.addCommMonoid
  induction n with
  | zero => exact (h.addCommMonoid.add_zero start).symm
  | succ n ih =>
    rw [List.range_succ, List.foldl_append, ih, List.foldl_cons, List.foldl_nil,
      Finset.sum_range_succ, h.add_assoc]

end ForwardPass

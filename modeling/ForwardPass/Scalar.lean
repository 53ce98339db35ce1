/-!
# Scalars

The arithmetic a forward pass needs of its elements. `Scalar` holds operations only and no laws, so
whatever is shown over it holds of rounded arithmetic as well, in the order the operations are written.
The instance at `Float32` is the arithmetic the program runs on.
-/

namespace ForwardPass

/-- Elements of tensors, as far as the kernels are concerned. Decimal literals are rounded to the
nearest element. -/
class Scalar (α : Type) extends Zero α, Add α, Sub α, Mul α, Div α, Neg α, OfScientific α where
  /-- At most every number: where a running maximum starts. -/
  lowest : α
  /-- The larger of two operands; an operand that is not a number loses. -/
  larger : α → α → α
  /-- Strictly below zero. -/
  isNegative : α → Bool
  abs : α → α
  exp : α → α
  tanh : α → α
  ofNat : Nat → α

instance : Scalar Float32 where
  zero := 0
  lowest := -(1.0 / 0.0)
  larger x y := if x.isNaN || x < y then y else x
  isNegative x := x < 0
  abs := Float32.abs
  exp := Float32.exp
  tanh := Float32.tanh
  ofNat := Float32.ofNat

/-! ## The deterministic pattern -/

/-- Element `i` of the repeating pattern that fills weights and sample inputs: thirteen values, a
twentieth apart, from `-0.3` to `0.3`. -/
def patternValue {α : Type} [Scalar α] (i : Nat) : α :=
  (Scalar.ofNat (i % 13) - 6.0) * 0.05

end ForwardPass

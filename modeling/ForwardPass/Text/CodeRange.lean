/-!
# Ranges of code points

Properties of characters as sorted arrays of ranges, both ends included.
-/

namespace ForwardPass

/-- The code points from the first to the second. -/
abbrev CodeRange : Type := Nat × Nat

/-- Whether a character lies in one of the ranges. -/
def inRanges (ranges : Array CodeRange) (c : Char) : Bool :=
  ranges.any fun r => r.1 ≤ c.toNat && c.toNat ≤ r.2

end ForwardPass

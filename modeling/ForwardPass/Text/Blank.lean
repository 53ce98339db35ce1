/-!
# White space

The characters of the Unicode property `White_Space`, and texts without them at their ends.
-/

namespace ForwardPass

/-- The white-space characters. -/
def isWhiteSpace (c : Char) : Bool :=
  let n := c.toNat
  (0x9 ≤ n && n ≤ 0xd) || n = 0x20 || n = 0x85 || n = 0xa0 || n = 0x1680 ||
    (0x2000 ≤ n && n ≤ 0x200a) || n = 0x2028 || n = 0x2029 || n = 0x202f || n = 0x205f || n = 0x3000

/-- Without white space at the start. -/
def trimStart (cs : List Char) : List Char := cs.dropWhile isWhiteSpace

/-- Without white space at the end. -/
def trimEnd (cs : List Char) : List Char := (cs.reverse.dropWhile isWhiteSpace).reverse

/-- Without white space at either end. -/
def trim (cs : List Char) : List Char := trimEnd (trimStart cs)

end ForwardPass

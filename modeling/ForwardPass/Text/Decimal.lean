/-!
# Decimal text of binary numbers

A binary floating-point number is an integer times a power of two. Its shortest decimal is the one with
the fewest digits among the decimals that read back to it, and of those the nearest, a half going up.
`fixed` rounds the exact value to a number of places instead, a half going to the even neighbour.
-/

namespace ForwardPass

/-- A finite binary number `mantissa * 2 ^ exponent`, without its sign. When the next smaller number of
the format is only half as far away as the next larger one, `closeBelow` is set. -/
structure BinaryNumber where
  mantissa : Nat
  exponent : Int
  closeBelow : Bool
deriving DecidableEq, Repr

/-- What a floating-point format can hold. -/
inductive FloatValue where
  | nan
  | infinite (negative : Bool)
  | finite (negative : Bool) (magnitude : BinaryNumber)
deriving DecidableEq, Repr

namespace FloatValue

/-- Take apart the bits of a format with the given widths of exponent and fraction. -/
def ofBits (exponentBits fractionBits bits : Nat) : FloatValue :=
  let hidden := Nat.pow 2 fractionBits
  let exponents := Nat.pow 2 exponentBits
  let fraction := bits % hidden
  let biased := bits / hidden % exponents
  let negative := bits / hidden / exponents % 2 = 1
  let bias : Int := exponents / 2 - 1 + fractionBits
  -- Of the exponents, the largest is kept for infinities and no numbers, and zero for numbers without
  -- the hidden bit.
  if biased = exponents - 1 then
    if fraction = 0 then .infinite negative else .nan
  else if biased = 0 then .finite negative ⟨fraction, 1 - bias, false⟩
  else .finite negative ⟨hidden + fraction, biased - bias, fraction = 0 && biased > 1⟩

def ofFloat32 (x : Float32) : FloatValue := ofBits 8 23 x.toBits.toNat

def ofFloat (x : Float) : FloatValue := ofBits 11 52 x.toBits.toNat

end FloatValue

/-! ## Shortest decimals -/

/-- A decimal `digits * 10 ^ exponent`. -/
structure Decimal where
  digits : Nat
  exponent : Int
deriving DecidableEq, Repr

/-- A fraction of natural numbers. -/
structure Ratio where
  num : Nat
  den : Nat
deriving DecidableEq, Repr

namespace Ratio

/-- `n * base ^ exponent`. -/
def scaled (n base : Nat) (exponent : Int) : Ratio :=
  if exponent ≥ 0 then ⟨n * Nat.pow base exponent.toNat, 1⟩ else ⟨n, Nat.pow base (-exponent).toNat⟩

def le (a b : Ratio) : Bool := a.num * b.den ≤ b.num * a.den

def lt (a b : Ratio) : Bool := a.num * b.den < b.num * a.den

/-- How far apart two fractions are. -/
def distance (a b : Ratio) : Ratio :=
  let x := a.num * b.den
  let y := b.num * a.den
  ⟨(x - y) + (y - x), a.den * b.den⟩

end Ratio

namespace BinaryNumber

/-- A quarter of a unit in the last place, times `quarters`. -/
def quarters (b : BinaryNumber) (quarters : Nat) : Ratio := .scaled quarters 2 (b.exponent - 2)

def value (b : BinaryNumber) : Ratio := b.quarters (4 * b.mantissa)

/-- Whether a fraction reads back as this number: it lies no further than halfway to the neighbours,
and exactly halfway only if the mantissa is even. -/
def readsBack (b : BinaryNumber) (r : Ratio) : Bool :=
  -- Halfway to a neighbour is two quarters, but one where the neighbour below is closer.
  let low := b.quarters (4 * b.mantissa - if b.closeBelow then 1 else 2)
  let high := b.quarters (4 * b.mantissa + 2)
  if b.mantissa % 2 = 0 then low.le r && r.le high else low.lt r && r.lt high

/-- The nearer of the two multiples of `10 ^ exponent` around the number that read back as it, if
there is one; of two that are equally near, the larger. -/
def decimalAt? (b : BinaryNumber) (exponent : Int) : Option Decimal :=
  let value := b.value
  let unit := Ratio.scaled 1 10 exponent
  let below := value.num * unit.den / (value.den * unit.num)
  let candidates := [below, below + 1].filter fun digits =>
    digits ≠ 0 && b.readsBack (.scaled digits 10 exponent)
  match candidates with
  | [] => none
  | [digits] => some ⟨digits, exponent⟩
  | digits :: other :: _ =>
    let toDigits := value.distance (.scaled digits 10 exponent)
    let toOther := value.distance (.scaled other 10 exponent)
    if toDigits.lt toOther then some ⟨digits, exponent⟩ else some ⟨other, exponent⟩

/-- The first hit among `count` exponents, from `exponent` downwards. -/
def shortestFrom (b : BinaryNumber) : (count : Nat) → (exponent : Int) → Decimal
  | 0, exponent => ⟨0, exponent⟩
  | count + 1, exponent =>
    match b.decimalAt? exponent with
    | some d => d
    | none => b.shortestFrom count (exponent - 1)

/-- The decimal with the fewest digits that reads back as the number. -/
def shortest (b : BinaryNumber) : Decimal :=
  if b.mantissa = 0 then ⟨0, 0⟩
  else
    let top : Int := (b.exponent + (Nat.log2 b.mantissa : Int) + 1) * 3 / 10 + 2
    let top := if top > 0 then top + top / 100 + 1 else top + 1
    b.shortestFrom 40 top

/-- The number as an integer count of `10 ^ -places`, rounded to nearest, ties to even. -/
def roundTo (b : BinaryNumber) (places : Nat) : Nat :=
  let v := b.value
  let num := v.num * Nat.pow 10 places
  let below := num / v.den
  let twice := 2 * (num % v.den)
  if twice > v.den || (twice = v.den && below % 2 = 1) then below + 1 else below

/-- The nearest integer, a half going up. -/
def nearest (b : BinaryNumber) : Nat :=
  let v := b.value
  (2 * v.num + v.den) / (2 * v.den)

end BinaryNumber

/-! ## Layout -/

/-- The decimal digits of a number. -/
def decimalDigits (n : Nat) : List Char := Nat.toDigits 10 n

/-- Pad with zeros on the left up to a width. -/
def padZeros (width : Nat) (cs : List Char) : List Char :=
  List.replicate (width - cs.length) '0' ++ cs

namespace Decimal

/-- The decimal without trailing zero digits. -/
def normalize (d : Decimal) : Decimal :=
  let cs := decimalDigits d.digits
  let zeros := (cs.reverse.takeWhile (· = '0')).length
  if d.digits = 0 then ⟨0, 0⟩ else ⟨d.digits / Nat.pow 10 zeros, d.exponent + zeros⟩

/-- The exponent of the leading digit. -/
def magnitude (d : Decimal) : Int := d.exponent + (decimalDigits d.digits).length - 1

/-- Positional notation, with a fraction only if there is one. -/
def positional (d : Decimal) : List Char :=
  let d := d.normalize
  let cs := decimalDigits d.digits
  if d.exponent ≥ 0 then
    if d.digits = 0 then ['0'] else cs ++ List.replicate d.exponent.toNat '0'
  else
    let places := (-d.exponent).toNat
    let cs := padZeros (places + 1) cs
    cs.take (cs.length - places) ++ '.' :: cs.drop (cs.length - places)

/-- Scientific notation: one digit, a fraction only if there is one, and the exponent. -/
def scientific (d : Decimal) : List Char :=
  let d := d.normalize
  let fraction := match decimalDigits d.digits with
    | [] => []
    | [c] => [c]
    | c :: cs => c :: '.' :: cs
  fraction ++ 'e' :: (toString d.magnitude).toList

end Decimal

namespace FloatValue

private def signed (negative : Bool) (cs : List Char) : String :=
  String.ofList (if negative then '-' :: cs else cs)

/-- The shortest decimal, always in positional notation. -/
def plain : FloatValue → String
  | .nan => "NaN"
  | .infinite negative => signed negative "inf".toList
  | .finite negative b => signed negative b.shortest.positional

/-- The shortest decimal with a digit behind the point, or in scientific notation if it is below
`10 ^ -4` or not below `10 ^ 16`. -/
def detailed : FloatValue → String
  | .nan => "NaN"
  | .infinite negative => signed negative "inf".toList
  | .finite negative b =>
    let d := b.shortest.normalize
    if b.mantissa ≠ 0 && (d.magnitude < -4 || d.magnitude ≥ 16) then signed negative d.scientific
    else
      let cs := d.positional
      signed negative (if cs.contains '.' then cs else cs ++ ['.', '0'])

/-- The exact value rounded to a number of places. -/
def fixed (places : Nat) : FloatValue → String
  | .nan => "NaN"
  | .infinite negative => signed negative "inf".toList
  | .finite negative b =>
    let cs := padZeros (places + 1) (decimalDigits (b.roundTo places))
    let cs := if places = 0 then cs
      else cs.take (cs.length - places) ++ '.' :: cs.drop (cs.length - places)
    signed negative cs

end FloatValue

/-- Pad with blanks on the left up to a width. -/
def padLeft (width : Nat) (s : String) : String :=
  String.ofList (List.replicate (width - s.length) ' ') ++ s

end ForwardPass

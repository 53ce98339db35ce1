import ForwardPass.Text.Scan

/-!
# Reading numbers

Digits to numbers. A decimal becomes the nearest floating-point number, whatever its exponent; an
unsigned integer may carry a plus sign, and is refused with a cause if it is none or is too large.
-/

namespace ForwardPass

/-- The value of a digit in bases up to sixteen. -/
def digitValue (c : Char) : Nat :=
  if c.isDigit then c.toNat - '0'.toNat
  else if 'a' ≤ c ∧ c ≤ 'f' then c.toNat - 'a'.toNat + 10
  else c.toNat - 'A'.toNat + 10

/-- The number written by digits in a base. -/
def numberOfDigits (base : Nat) (cs : List Char) : Nat :=
  cs.foldl (fun n c => base * n + digitValue c) 0

def isOctalDigit (c : Char) : Bool := '0' ≤ c && c ≤ '7'

def isHexDigit (c : Char) : Bool := c.isDigit || ('a' ≤ c && c ≤ 'f') || ('A' ≤ c && c ≤ 'F')

/-! ## Floating point -/

/-- The floating-point number nearest to `n * 10 ^ exponent`. Far outside the range of the format the
exponent alone decides. -/
def floatOfDecimal (n : Nat) (exponent : Int) : Float :=
  -- Settled before any power of ten is taken, so that no exponent makes a huge number.
  let magnitude : Int := exponent + (Nat.toDigits 10 n).length
  if n = 0 ∨ magnitude < -400 then 0.0
  else if magnitude > 400 then 1.0 / 0.0
  else if exponent ≥ 0 then Float.ofScientific n false exponent.toNat
  else Float.ofScientific n true (-exponent).toNat

/-- The number with these digits before and behind the point, and this exponent. -/
def floatOfParts (negative : Bool) (whole fraction : List Char) (exponent : Int) : Float :=
  let x := floatOfDecimal (numberOfDigits 10 (whole ++ fraction)) (exponent - fraction.length)
  if negative then -x else x

/-- A sign, if there is one; whether it is a minus. -/
def scanSign : Scan Bool :=
  (do Scan.char '-'; return true) <|> (do Scan.char '+'; return false) <|> pure false

/-- An exponent with its mark, if there is one. -/
def scanExponent : Scan Int := do
  match ← Scan.peek? with
  | some 'e' | some 'E' =>
    let _ ← Scan.charIf fun _ => true
    let negative ← scanSign
    let digits ← Scan.takeWhile Char.isDigit
    if digits.isEmpty then failure
    let n : Int := numberOfDigits 10 digits
    return if negative then -n else n
  | _ => return 0

/-- A decimal with digits on at least one side of its point. -/
def scanDecimal (negative : Bool) : Scan Float := do
  let whole ← Scan.takeWhile Char.isDigit
  let fraction ← match ← Scan.peek? with
    | some '.' => do
      Scan.char '.'
      Scan.takeWhile Char.isDigit
    | _ => pure []
  if whole.isEmpty && fraction.isEmpty then failure
  return floatOfParts negative whole fraction (← scanExponent)

/-- The floating-point number a whole text writes, infinities and not-a-number included, in letters of
any case. -/
def float? (s : String) : Option Float :=
  let scan : Scan Float := do
    let negative ← scanSign
    let word := String.ofList ((← get).map Char.toLower)
    if word = "inf" ∨ word = "infinity" then
      set ([] : List Char)
      return if negative then -(1.0 / 0.0) else 1.0 / 0.0
    else if word = "nan" then
      set ([] : List Char)
      return 0.0 / 0.0
    else scanDecimal negative
  Scan.whole? scan s.toList

/-! ## Integers -/

/-- Why a text is no unsigned integer below a bound. -/
inductive IntegerDefect where
  | empty
  | invalidDigit
  | tooLarge
deriving DecidableEq, Repr

def IntegerDefect.message : IntegerDefect → String
  | .empty => "cannot parse integer from empty string"
  | .invalidDigit => "invalid digit found in string"
  | .tooLarge => "number too large to fit in target type"

/-- The number `n` continued by more decimal digits, as long as it stays below `bound`. Of two defects
the one further left is the cause. -/
def continueUnsigned (bound : Nat) (n : Nat) : List Char → Except IntegerDefect Nat
  | [] => .ok n
  | c :: cs =>
    if !c.isDigit then .error .invalidDigit
    else if 10 * n + digitValue c < bound then continueUnsigned bound (10 * n + digitValue c) cs
    else .error .tooLarge

/-- The unsigned integer below `bound` that a whole text writes, with or without a plus sign. -/
def unsigned (bound : Nat) : List Char → Except IntegerDefect Nat
  | [] => .error .empty
  -- A sign alone is a bad digit, not an empty text.
  | ['+'] => .error .invalidDigit
  | '+' :: digits => continueUnsigned bound 0 digits
  | digits => continueUnsigned bound 0 digits

/-- Signed integers of 64 bits lie below this, and not below its opposite. -/
def signed64Bound : Nat := UInt64.size / 2

/-- The integer of at most 64 bits that digits in a base write, behind a sign or none. -/
def signedIn? (base : Nat) (isDigit : Char → Bool) (cs : List Char) : Option Int :=
  let (negative, digits) := match cs with
    | '-' :: rest => (true, rest)
    | '+' :: rest => (false, rest)
    | cs => (false, cs)
  if digits.isEmpty || !digits.all isDigit then none
  else
    let n := numberOfDigits base digits
    if negative then (if n ≤ signed64Bound then some (-n) else none)
    else if n < signed64Bound then some n
    else none

/-- The integer of at most 64 bits, sign included, that a whole text writes. -/
def signed64? (s : String) : Option Int := signedIn? 10 Char.isDigit s.toList

end ForwardPass

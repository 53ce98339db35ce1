import ForwardPass.Settings.Tree
import ForwardPass.Text.CodePoint

/-!
# Settings in JSON

A value and nothing else, with blanks where the format allows them. Numbers without a fraction or an
exponent are integers if 64 bits hold them. Other numbers keep as many digits as a word of 64 bits can
hold, and are scaled by a power of ten in floating point.
-/

namespace ForwardPass.Settings.Json

open Scan

def blanks : Scan Unit := do
  let _ ← takeWhile fun c => c = ' ' || c = '\t' || c = '\n' || c = '\r'

/-! ## Strings -/

def escape : Scan Char := do
  char '\\'
  match ← charIf fun _ => true with
  | '"' => return '"'
  | '\\' => return '\\'
  | '/' => return '/'
  | 'b' => return '\x08'
  | 'f' => return '\x0c'
  | 'n' => return '\n'
  | 'r' => return '\r'
  | 't' => return '\t'
  | 'u' => surrogatePoint
  | _ => failure

def string : Scan String := do
  char '"'
  let cs ← many ((charIf fun c => ' ' ≤ c && c ≠ '"' && c ≠ '\\') <|> escape)
  char '"'
  return String.ofList cs

/-! ## Numbers -/

/-- The number that `n` and the digits behind it make, as far as a word of 64 bits holds it, and how many
digits that are. -/
def fitting (n : Nat) : List Char → Nat × Nat
  | [] => (n, 0)
  | c :: cs =>
    let next := 10 * n + digitValue c
    if next < UInt64.size then
      let (m, count) := fitting next cs
      (m, count + 1)
    else (n, 0)

/-- The largest power of ten that floating point holds, by its exponent. -/
def maxScale : Nat := 308

/-- `10 ^ exponent`, up to the largest power. -/
def powerOfTen (exponent : Nat) : Float := Float.ofScientific 1 false exponent

/-- A number divided by `10 ^ exponent`, at most `maxScale` places at a time. -/
def scaleDown (x : Float) (exponent : Nat) : Float :=
  if exponent ≤ maxScale then x / powerOfTen exponent
  else if x == 0.0 then x
  else scaleDown (x / powerOfTen maxScale) (exponent - maxScale)
termination_by exponent
decreasing_by
  simp only [maxScale] at *
  omega

/-- `n * 10 ^ exponent`, unless floating point cannot hold it. -/
def scaled? (n : Nat) (exponent : Int) : Option Float :=
  let x := Float.ofNat n
  if exponent < 0 then some (scaleDown x exponent.natAbs)
  else if exponent ≤ maxScale then
    let y := x * powerOfTen exponent.natAbs
    if y.isInf then none else some y
  else if n = 0 then some x
  else none

/-- A number without a fraction or an exponent. -/
def wholeNumber (negative : Bool) (n : Nat) : Tree :=
  if negative then
    if n = 0 ∨ n > signed64Bound then .real (-Float.ofNat n) else .integer (-n)
  else if n < signed64Bound then .integer n
  else .real (Float.ofNat n)

def number : Scan Tree := do
  let negative := (← optionally (char '-')).isSome
  let whole ← match ← peek? with
    | some '0' => do
      char '0'
      pure ['0']
    | _ => takeWhile Char.isDigit
  if whole.isEmpty then failure
  let (n, count) := fitting 0 whole
  let cut := whole.length - count
  let exponent : Scan Int := do
    let _ ← charIf fun c => c = 'e' || c = 'E'
    let below ← scanSign
    let digits ← takeWhile Char.isDigit
    if digits.isEmpty then failure
    let e : Int := numberOfDigits 10 digits
    return if below then -e else e
  let fraction ← optionally do
    char '.'
    let digits ← takeWhile Char.isDigit
    if digits.isEmpty then failure
    return digits
  match fraction, ← optionally exponent with
  | none, none =>
    if cut = 0 then return wholeNumber negative n
    match scaled? n cut with
    | some x => return .real (if negative then -x else x)
    | none => failure
  | fraction, exponent =>
    let (n, places) := fitting n (fraction.getD [])
    match scaled? n (cut - places + exponent.getD 0) with
    | some x => return .real (if negative then -x else x)
    | none => failure

/-! ## Values -/

/-- How deep arrays and objects may nest. -/
def maxDepth : Nat := 127

/-- Items read by `item` between two marks, with commas between them. -/
def listed {β : Type} (opening closing : Char) (item : Scan β) : Scan (List β) := do
  char opening
  blanks
  let items ← separated (do let v ← item; blanks; return v) (do char ','; blanks)
  char closing
  return items

/-- An entry of an object whose values are read by `item`. -/
def entryOf (item : Scan Tree) : Scan (String × Tree) := do
  let key ← string
  blanks
  char ':'
  blanks
  return (key, ← item)

/-- A value, nested no deeper than `depth`. -/
def value (depth : Nat) : Scan Tree := do
  match depth, ← peek? with
  | depth + 1, some '[' => return .array (← listed '[' ']' (value depth))
  | depth + 1, some '{' => return .ofEntries (← listed '{' '}' (entryOf (value depth)))
  | _, some '"' => return .text (← string)
  | _, some 't' =>
    text "true"
    return .boolean true
  | _, some 'f' =>
    text "false"
    return .boolean false
  | _, some 'n' =>
    text "null"
    return .absent
  | _, _ => number

/-- The tree that a text holds. -/
def read? (cs : List Char) : Option Tree :=
  whole? (do blanks; let v ← value maxDepth; blanks; return v) cs

end ForwardPass.Settings.Json

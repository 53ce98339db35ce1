import ForwardPass.Text.Number

/-!
# Characters by code point

Characters written as hexadecimal numbers, the way escape sequences do.
-/

namespace ForwardPass

open Scan

/-- The character of a code point, if it is one. -/
def charOfCode? (n : Nat) : Option Char :=
  if h : n.isValidChar then some (Char.ofNatAux n h) else none

/-- A number of exactly `count` hexadecimal digits. -/
def hexNumber (count : Nat) : Scan Nat := do
  let cs := (← get).take count
  if cs.length < count || !cs.all isHexDigit then failure
  modify (·.drop count)
  return numberOfDigits 16 cs

/-- The character of `count` hexadecimal digits. -/
def codePoint (count : Nat) : Scan Char := do
  match charOfCode? (← hexNumber count) with
  | some c => return c
  | none => failure

/-- Code units that stand in front of another. -/
def isHighSurrogate (unit : Nat) : Bool := 0xd800 ≤ unit && unit < 0xdc00

/-- The character of two code units. -/
def charOfUnits? (high low : Nat) : Option Char :=
  if isHighSurrogate high && 0xdc00 ≤ low && low < 0xe000 then
    charOfCode? (0x10000 + (high - 0xd800) * 0x400 + (low - 0xdc00))
  else none

/-- The character of four hexadecimal digits, or of two such groups that are its surrogates. -/
def surrogatePoint : Scan Char := do
  let unit ← hexNumber 4
  let c? ←
    if isHighSurrogate unit then do
      text "\\u"
      pure (charOfUnits? unit (← hexNumber 4))
    else pure (charOfCode? unit)
  match c? with
  | some c => return c
  | none => failure

end ForwardPass

import ForwardPass.Text.PrintTable

/-!
# Quoted text

A text between double quotes. In a display literal, quotes, backslashes and common controls have short
escapes, and characters that print nothing or attach to the one before them are written by code point.
In a data literal only quotes, backslashes and controls are escaped.
-/

namespace ForwardPass.Quoted

/-- Hexadecimal digits of a code point. -/
def hex (c : Char) : List Char := Nat.toDigits 16 c.toNat

/-- A character of a display literal. -/
def displayChar (c : Char) : List Char :=
  match c with
  | '"' => ['\\', '"']
  | '\\' => ['\\', '\\']
  | '\n' => ['\\', 'n']
  | '\r' => ['\\', 'r']
  | '\t' => ['\\', 't']
  | '\x00' => ['\\', '0']
  | c =>
    if c.toNat < 127 && ' ' ≤ c then [c]
    else if inRanges PrintTable.marks c || inRanges PrintTable.unprintable c then
      ['\\', 'u', '\x7b'] ++ hex c ++ ['\x7d']
    else [c]

/-- The text as a display literal. -/
def display (s : String) : String := String.ofList ('"' :: s.toList.flatMap displayChar ++ ['"'])

/-- A character of a data literal. -/
def dataChar (c : Char) : List Char :=
  match c with
  | '"' => ['\\', '"']
  | '\\' => ['\\', '\\']
  | '\n' => ['\\', 'n']
  | '\r' => ['\\', 'r']
  | '\t' => ['\\', 't']
  | '\x08' => ['\\', 'b']
  | '\x0c' => ['\\', 'f']
  | c =>
    if c < ' ' then
      let cs := hex c
      ['\\', 'u'] ++ List.replicate (4 - cs.length) '0' ++ cs
    else [c]

/-- The text as a data literal. -/
def data (s : String) : String := String.ofList ('"' :: s.toList.flatMap dataChar ++ ['"'])

end ForwardPass.Quoted

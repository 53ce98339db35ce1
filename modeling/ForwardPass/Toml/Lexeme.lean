import ForwardPass.Text.CodePoint
import ForwardPass.Toml.Value

/-!
# TOML lexemes

The pieces a TOML document is written in: blanks and line ends, keys, strings, numbers, dates and times.
-/

namespace ForwardPass.Toml

open Scan

/-! ## Characters -/

def isBlank (c : Char) : Bool := c = ' ' || c = '\t'

/-- Characters allowed in comments and, but for its marks, in strings. -/
def isPlain (c : Char) : Bool := c = '\t' || (' ' ≤ c && c ≠ '\x7f')

def isBareKey (c : Char) : Bool := c.isAlphanum || c = '-' || c = '_'

def blanks : Scan Unit := do let _ ← takeWhile isBlank

/-- A line end: a line feed, with or without a carriage return. -/
def newline : Scan Unit := char '\n' <|> text "\r\n"

def comment : Scan Unit := do
  char '#'
  let _ ← takeWhile isPlain

/-- What may stand between a value and the end of its line. -/
def lineEnd : Scan Unit := do
  blanks
  let _ ← optionally comment
  newline <|> atEnd

/-- Blanks, comments and line ends, as far as they go. -/
def layout : Scan Unit := do
  let _ ← many (newline <|> comment <|> (do let _ ← charIf isBlank))

/-! ## Strings -/

/-- The character an escape sequence stands for. -/
def escape : Scan Char := do
  char '\\'
  match ← charIf fun _ => true with
  | 'b' => return '\x08'
  | 't' => return '\t'
  | 'n' => return '\n'
  | 'f' => return '\x0c'
  | 'r' => return '\r'
  | '"' => return '"'
  | '\\' => return '\\'
  | 'u' => codePoint 4
  | 'U' => codePoint 8
  | _ => failure

def basicString : Scan String := do
  char '"'
  let cs ← many ((charIf fun c => isPlain c && c ≠ '"' && c ≠ '\\') <|> escape)
  char '"'
  return String.ofList cs

def literalString : Scan String := do
  char '\''
  let cs ← takeWhile fun c => isPlain c && c ≠ '\''
  char '\''
  return String.ofList cs

/-- A backslash that ends its line, with the blank space that follows. -/
def joinedLine : Scan Unit := do
  char '\\'
  blanks
  newline
  let _ ← many (newline <|> (do let _ ← charIf isBlank))

/-- Up to two quotes that belong to a string, where it does not end. -/
def innerQuotes (quote : Char) : Scan (List Char) := do
  let count := ((← get).takeWhile (· = quote)).length
  if count = 1 ∨ count = 2 then
    modify (·.drop count)
    return List.replicate count quote
  else failure

/-- The closing quotes of a string over several lines, with up to two more that belong to it. -/
def closingQuotes (quote : Char) : Scan (List Char) := do
  let count := ((← get).takeWhile (· = quote)).length
  if 3 ≤ count ∧ count ≤ 5 then
    modify (·.drop count)
    return List.replicate (count - 3) quote
  else failure

/-- A string over several lines between triple quotes; a line end right behind the opening quotes is
left out, and every other line end counts as a line feed. -/
def multilineString (quote : Char) (piece : Scan (List Char)) : Scan String := do
  text (String.ofList [quote, quote, quote])
  let _ ← optionally newline
  let body ← many (piece <|> (do newline; return ['\n']) <|> innerQuotes quote)
  let rest ← closingQuotes quote
  return String.ofList (body.flatten ++ rest)

def multilineBasicString : Scan String :=
  multilineString '"'
    ((do return [← charIf fun c => isPlain c && c ≠ '"' && c ≠ '\\']) <|>
      (do joinedLine; return []) <|> (do return [← escape]))

def multilineLiteralString : Scan String :=
  multilineString '\'' (do return [← charIf fun c => isPlain c && c ≠ '\''])

/-- A string of any kind. -/
def anyString : Scan String := do
  if ← looksAt "\"\"\"" then multilineBasicString
  else if ← looksAt "\"" then basicString
  else if ← looksAt "'''" then multilineLiteralString
  else literalString

/-! ## Keys -/

def simpleKey : Scan String := do
  match ← peek? with
  | some '"' => basicString
  | some '\'' => literalString
  | _ =>
    let cs ← takeWhile isBareKey
    if cs.isEmpty then failure
    return String.ofList cs

/-- The most parts of a dotted key. -/
def maxKeyParts : Nat := 79

/-- A key: its parts, of which there is at least one. -/
def dottedKey : Scan (List String) := do
  let part : Scan String := do
    blanks
    let key ← simpleKey
    blanks
    return key
  let first ← part
  let rest ← many (do char '.'; part)
  if rest.length ≥ maxKeyParts then failure
  return first :: rest

/-! ## Numbers -/

/-- Digits, with single underscores between them. -/
def digits (isDigit : Char → Bool) : Scan (List Char) := do
  let first ← charIf isDigit
  let rest ← many ((charIf isDigit) <|> (do char '_'; charIf isDigit))
  return first :: rest

/-- A decimal integer without leading zeros: its sign and digits. -/
def decimalInteger : Scan (Bool × List Char) := do
  let negative ← scanSign
  match ← peek? with
  | some '0' =>
    char '0'
    return (negative, ['0'])
  | _ => return (negative, ← digits Char.isDigit)

/-- An integer within 64 bits. -/
def inRange (n : Int) : Scan Value :=
  if -(signed64Bound : Int) ≤ n ∧ n < signed64Bound then return .integer n else failure

def integer : Scan Value := do
  let based (mark : String) (base : Nat) (isDigit : Char → Bool) : Scan Value := do
    text mark
    inRange (numberOfDigits base (← digits isDigit))
  if ← looksAt "0x" then based "0x" 16 isHexDigit
  else if ← looksAt "0o" then based "0o" 8 fun c => '0' ≤ c && c ≤ '7'
  else if ← looksAt "0b" then based "0b" 2 fun c => c = '0' || c = '1'
  else
    let (negative, cs) ← decimalInteger
    let n : Int := numberOfDigits 10 cs
    inRange (if negative then -n else n)

/-- A decimal with a fraction, an exponent, or both. One that is too large for the format is refused,
unless it is negative. -/
def decimalFloat : Scan Value := do
  let (negative, whole) ← decimalInteger
  let exponent : Scan Int := do
    let _ ← charIf fun c => c = 'e' || c = 'E'
    let negative ← scanSign
    let n : Int := numberOfDigits 10 (← digits Char.isDigit)
    return if negative then -n else n
  let (fraction, exponent) ← match ← peek? with
    | some '.' => do
      char '.'
      let fraction ← digits Char.isDigit
      let exponent := (← optionally exponent).getD 0
      pure (fraction, exponent)
    | _ => do pure ([], ← exponent)
  let x := floatOfParts negative whole fraction exponent
  if x > 0 && x.isInf then failure
  return .real x

def specialFloat : Scan Value := do
  let negative ← scanSign
  let infinity : Float := 1.0 / 0.0
  (do text "inf"; return .real (if negative then -infinity else infinity)) <|>
    (do text "nan"; return .real (0.0 / 0.0))

/-! ## Dates and times -/

/-- A number of exactly `count` digits between two bounds. -/
def fixedNumber (count low high : Nat) : Scan Nat := do
  let cs := (← get).take count
  if cs.length < count || !cs.all Char.isDigit then failure
  modify (·.drop count)
  let n := numberOfDigits 10 cs
  if low ≤ n ∧ n ≤ high then return n else failure

/-- A number in at least `width` digits. -/
def padded (width n : Nat) : String :=
  let cs := Nat.toDigits 10 n
  String.ofList (List.replicate (width - cs.length) '0' ++ cs)

def daysInMonth (year month : Nat) : Nat :=
  if month = 2 then
    if year % 4 = 0 ∧ (year % 100 ≠ 0 ∨ year % 400 = 0) then 29 else 28
  else if month = 4 ∨ month = 6 ∨ month = 9 ∨ month = 11 then 30
  else 31

def date : Scan String := do
  let year ← fixedNumber 4 0 9999
  char '-'
  let month ← fixedNumber 2 1 12
  char '-'
  let day ← fixedNumber 2 1 (daysInMonth year month)
  return padded 4 year ++ "-" ++ padded 2 month ++ "-" ++ padded 2 day

/-- A time of day; its fraction keeps nine digits at most, and no zeros at the end. -/
def timeOfDay (maxHour : Nat) : Scan String := do
  let hour ← fixedNumber 2 0 maxHour
  char ':'
  let minute ← fixedNumber 2 0 59
  char ':'
  let second ← fixedNumber 2 0 60
  let fraction ← optionally do
    char '.'
    let cs ← takeWhile Char.isDigit
    if cs.isEmpty then failure
    return ((cs.take 9).reverse.dropWhile (· = '0')).reverse
  let base := padded 2 hour ++ ":" ++ padded 2 minute ++ ":" ++ padded 2 second
  match fraction with
  | none | some [] => return base
  | some cs => return base ++ "." ++ String.ofList cs

/-- The distance of a time from universal time. -/
def timeOffset : Scan String :=
  (do
    let _ ← charIf fun c => c = 'Z' || c = 'z'
    return "Z") <|>
  (do
    let sign ← charIf fun c => c = '+' || c = '-'
    let hour ← fixedNumber 2 0 23
    char ':'
    let minute ← fixedNumber 2 0 59
    let sign := if hour = 0 ∧ minute = 0 then '+' else sign
    return sign.toString ++ padded 2 hour ++ ":" ++ padded 2 minute)

def dateTime : Scan Value :=
  (do
    let day ← date
    let time ← optionally do
      let _ ← charIf fun c => c = 'T' || c = 't' || c = ' '
      let time ← timeOfDay 23
      let offset := (← optionally timeOffset).getD ""
      return time ++ offset
    return .moment (match time with
      | some time => day ++ "T" ++ time
      | none => day)) <|>
  (do return .moment (← timeOfDay 23))

/-- The distance of a time from universal time where hours and minutes need not be those of a clock. -/
def looseOffset : Scan String :=
  (do
    let _ ← charIf fun c => c = 'Z' || c = 'z'
    return "Z") <|>
  (do
    let sign ← charIf fun c => c = '+' || c = '-'
    let hours ← fixedNumber 2 0 24
    char ':'
    let minutes ← fixedNumber 2 0 99
    let total := 60 * hours + minutes
    if total > 24 * 60 then failure
    let sign := if total = 0 then '+' else sign
    return sign.toString ++ padded 2 (total / 60) ++ ":" ++ padded 2 (total % 60))

/-- The normal text of the date or time that a text of its own writes. Here a day may end at 24, and a
date alone may have an offset. -/
def normalMoment? (s : String) : Option String :=
  let scan : Scan String := timeOfDay 24 <|> (do
    let day ← date
    let time ← optionally do
      let _ ← charIf fun c => c = 'T' || c = 't' || c = ' '
      timeOfDay 24
    let offset := (← optionally looseOffset).getD ""
    return day ++ (time.elim "" ("T" ++ ·)) ++ offset)
  whole? scan s.toList

/-- A value that is neither an array nor an inline table. -/
def simpleValue : Scan Value := do
  match ← peek? with
  | some '"' | some '\'' => return .text (← anyString)
  | some 't' =>
    text "true"
    return .boolean true
  | some 'f' =>
    text "false"
    return .boolean false
  | _ => dateTime <|> specialFloat <|> decimalFloat <|> integer

end ForwardPass.Toml

import ForwardPass.Settings.Tree
import ForwardPass.Text.Blank
import ForwardPass.Text.CodePoint
import ForwardPass.Text.NameTable

/-!
# Settings in JSON5

JSON as people write it: comments, keys without quotes, strings between quotes of either kind, a comma
behind the last item, and numbers with a plus sign, in base sixteen, or with digits on one side of the
point only.
-/

namespace ForwardPass.Settings.Json5

open Scan

def isLineEnd (c : Char) : Bool := c = '\n' || c = '\r' || c = '\u2028' || c = '\u2029'

def lineComment : Scan Unit := do
  text "//"
  let _ ← takeWhile fun c => !isLineEnd c

def blockComment : Scan Unit := do
  text "/*"
  let _ ← many (do
    if ← looksAt "*/" then failure
    let _ ← charIf fun _ => true)
  text "*/"

/-- Blanks, line ends and comments. -/
def blanks : Scan Unit := do
  let isBlank := fun c => c ≠ '\u0085' && (isWhiteSpace c || c = '\ufeff')
  let _ ← many ((do let _ ← charIf isBlank) <|> lineComment <|> blockComment)

/-! ## Strings and keys -/

/-- A piece of a string: a character, or the code unit that an escape sequence gives. -/
inductive Piece where
  | char (c : Char)
  | unit (n : Nat)

/-- The characters of some pieces, of which two may be the code units of one. -/
def Piece.join? : List Piece → Option (List Char)
  | [] => some []
  | .char c :: rest => (join? rest).map (c :: ·)
  | .unit n :: rest =>
    if isHighSurrogate n then
      match rest with
      | .unit low :: rest => do return (← charOfUnits? n low) :: (← join? rest)
      | _ => none
    else do return (← charOfCode? n) :: (← join? rest)

/-- The text of some pieces. -/
def joined (pieces : List Piece) : Scan String := do
  match Piece.join? pieces with
  | some cs => return String.ofList cs
  | none => failure

/-- What an escape sequence stands for; an escaped line end stands for nothing. -/
def escape : Scan (List Piece) := do
  char '\\'
  match ← charIf fun _ => true with
  | 'b' => return [.char '\x08']
  | 'f' => return [.char '\x0c']
  | 'n' => return [.char '\n']
  | 'r' => return [.char '\r']
  | 't' => return [.char '\t']
  | 'v' => return [.char '\x0b']
  | '0' => return [.char '\x00']
  | 'x' => return [.char (← codePoint 2)]
  | 'u' => return [.unit (← hexNumber 4)]
  | '\r' =>
    let _ ← optionally (char '\n')
    return []
  | c =>
    if isLineEnd c then return []
    else if c.isDigit then failure
    else return [.char c]

/-- A string between two quotes. -/
def quoted (quote : Char) : Scan String := do
  char quote
  let plain : Scan (List Piece) := do
    return [.char (← charIf fun c => c ≠ quote && c ≠ '\\' && !isLineEnd c)]
  let pieces ← many (plain <|> escape)
  char quote
  joined pieces.flatten

def string : Scan String := quoted '"' <|> quoted '\''

/-- Characters that a key without quotes may start with. -/
def startsName (c : Char) : Bool :=
  c.isAlpha || c = '$' || c = '_' || (c.toNat > 0x7f && inRanges NameTable.letters c)

/-- Characters that a key without quotes may go on with. -/
def continuesName (c : Char) : Bool :=
  startsName c || c = '\u200c' || c = '\u200d' || inRanges NameTable.continuing c

/-- A key without quotes. -/
def name : Scan String := do
  let escaped : Scan Piece := do
    text "\\u"
    return .unit (← hexNumber 4)
  let plain (test : Char → Bool) : Scan Piece := do return .char (← charIf test)
  let first ← plain startsName <|> escaped
  let rest ← many (plain continuesName <|> escaped)
  joined (first :: rest)

/-! ## Numbers -/

/-- The characters of numbers; which texts of them are numbers is decided by `number?`. -/
def isNumberChar (c : Char) : Bool := c.isAlphanum || c = '.' || c = '+' || c = '-'

/-- The number that a text writes. Integers have 64 bits, and 32 in base sixteen. -/
def number? (cs : List Char) : Option Tree :=
  let infinity : Float := 1.0 / 0.0
  match cs with
  | '0' :: 'x' :: digits | '0' :: 'X' :: digits =>
    let n := numberOfDigits 16 digits
    if digits.isEmpty || !digits.all isHexDigit || n ≥ UInt32.size then none else some (.integer n)
  | _ =>
    let unsigned := match cs with
      | '+' :: rest | '-' :: rest => rest
      | cs => cs
    let whole := unsigned.takeWhile Char.isDigit
    match String.ofList cs with
    | "Infinity" => some (.real infinity)
    | "-Infinity" => some (.real (-infinity))
    | "NaN" | "-NaN" => some (.real (0.0 / 0.0))
    | s =>
      if whole.length > 1 && whole.head? = some '0' then none
      else if whole.length = unsigned.length then (signed64? s).map .integer
      else if unsigned.any fun c => c.isAlpha && c ≠ 'e' && c ≠ 'E' then none
      else
        match float? s with
        | some x => if x.isInf then none else some (.real x)
        | none => none

def number : Scan Tree := do
  match number? (← takeWhile isNumberChar) with
  | some t => return t
  | none => failure

/-! ## Values -/

/-- Items read by `item` between two marks, with commas between them; one may follow the last. -/
def listed {β : Type} (opening closing : Char) (item : Scan β) : Scan (List β) := do
  char opening
  blanks
  let items ← separated (do let v ← item; blanks; return v) (do char ','; blanks)
  if !items.isEmpty then
    let _ ← optionally (do char ','; blanks)
  char closing
  return items

/-- An entry of an object whose values are read by `item`. -/
def entryOf (item : Scan Tree) : Scan (String × Tree) := do
  let key ← name <|> string
  blanks
  char ':'
  blanks
  return (key, ← item)

/-- A value, nested no deeper than `depth`. -/
def value (depth : Nat) : Scan Tree := do
  match depth, ← peek? with
  | depth + 1, some '[' => return .array (← listed '[' ']' (value depth))
  | depth + 1, some '{' => return .ofEntries (← listed '{' '}' (entryOf (value depth)))
  | _, some '"' | _, some '\'' => return .text (← string)
  | _, _ =>
    (do text "null"; return .absent) <|> (do text "true"; return .boolean true) <|>
      (do text "false"; return .boolean false) <|> number

/-- The tree that a text holds. -/
def read? (cs : List Char) : Option Tree :=
  whole? (do blanks; let v ← value cs.length; blanks; return v) cs

end ForwardPass.Settings.Json5

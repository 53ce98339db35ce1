import ForwardPass.Settings.Tree
import ForwardPass.Text.CodePoint

/-!
# Settings in RON

Records `(key: value)`, maps `{"key": value}`, lists, rows of values, optional values, and the names of
records, which do not matter. A comma may follow the last item of anything. Integers that 64 bits do not
hold are numbers in floating point.
-/

namespace ForwardPass.Settings.Ron

open Scan

/-! ## Blanks -/

def lineComment : Scan Unit := do
  text "//"
  let _ ← takeWhile (· ≠ '\n')

/-- What follows the comments between marks that are open; these may stand inside of each other. -/
def closeComments : (level : Nat) → List Char → Option (List Char)
  | 0, cs => some cs
  | level + 1, '/' :: '*' :: rest => closeComments (level + 2) rest
  | level + 1, '*' :: '/' :: rest => closeComments level rest
  | level + 1, _ :: rest => closeComments (level + 1) rest
  | _ + 1, [] => none

def blockComment : Scan Unit := do
  text "/*"
  match closeComments 1 (← get) with
  | some rest => set rest
  | none => failure

/-- Blanks, line ends and comments. -/
def blanks : Scan Unit := do
  let isBlank := fun c => c = ' ' || c = '\t' || c = '\n' || c = '\r'
  let _ ← many ((do let _ ← charIf isBlank) <|> lineComment <|> blockComment)

/-- A text with blanks behind it. -/
def mark (s : String) : Scan Unit := do
  text s
  blanks

/-! ## Words -/

def isWordChar (c : Char) : Bool := c.isAlphanum || c = '_'

/-- The characters of a word behind its mark. -/
def isRawWordChar (c : Char) : Bool := isWordChar c || ['.', '+', '-'].contains c

/-- A word: letters and digits, the first of which is no digit, or behind a mark any characters of words. -/
def word : Scan String := do
  match ← get with
  | 'r' :: '#' :: _ =>
    text "r#"
    let first ← charIf isRawWordChar
    return String.ofList (first :: (← takeWhile isRawWordChar))
  | 'r' :: '"' :: _ => failure
  | _ =>
    let first ← charIf fun c => isWordChar c && !c.isDigit
    let rest ← takeWhile isWordChar
    if (← peek?).any isRawWordChar then failure
    return String.ofList (first :: rest)

/-- The given word. -/
def theWord (s : String) : Scan Unit := do
  text s
  if (← peek?).any isWordChar then failure

/-- An extension of the format, which may be turned on in front of the value. -/
inductive Extension where
  | unwrapNewtypes
  /-- The mark of an optional value that is there may be left out. -/
  | implicitSome
  | unwrapVariantNewtypes
deriving DecidableEq, Repr

def Extension.ofName? : String → Option Extension
  | "unwrap_newtypes" => some .unwrapNewtypes
  | "implicit_some" => some .implicitSome
  | "unwrap_variant_newtypes" => some .unwrapVariantNewtypes
  | _ => none

/-- The extensions that are turned on. -/
def extensions : Scan (List Extension) := do
  let lines ← many do
    for s in ["#", "!", "[", "enable", "("] do mark s
    let names ← separated (do let name ← word; blanks; return name) (mark ",")
    let _ ← optionally (mark ",")
    mark ")"
    mark "]"
    match names.mapM Extension.ofName? with
    | some (x :: xs) => return x :: xs
    | _ => failure
  return lines.flatten

/-! ## Texts -/

/-- The character of at most six hexadecimal digits between braces. -/
def bracedPoint : Scan Char := do
  char '\x7b'
  let digits ← takeWhile isHexDigit
  char '\x7d'
  if digits.isEmpty || digits.length > 6 then failure
  match charOfCode? (numberOfDigits 16 digits) with
  | some c => return c
  | none => failure

def escape : Scan Char := do
  char '\\'
  match ← charIf fun _ => true with
  | '\'' => return '\''
  | '"' => return '"'
  | '\\' => return '\\'
  | 'n' => return '\n'
  | 'r' => return '\r'
  | 't' => return '\t'
  | '0' => return '\x00'
  | 'x' => codePoint 2
  | 'u' => bracedPoint
  | _ => failure

def string : Scan String := do
  char '"'
  let cs ← many (charIf (fun c => c ≠ '"' && c ≠ '\\') <|> escape)
  char '"'
  return String.ofList cs

/-- A string without escapes, between as many number signs as it needs. -/
def rawString : Scan String := do
  char 'r'
  let signs ← takeWhile (· = '#')
  char '"'
  let closing := String.ofList ('"' :: signs)
  let cs ← many (do
    if ← looksAt closing then failure
    charIf fun _ => true)
  text closing
  return String.ofList cs

def character : Scan String := do
  char '\''
  let c ← charIf (fun c => c ≠ '\\' && c ≠ '\'') <|> escape
  char '\''
  return String.ofList [c]

/-! ## Numbers -/

/-- The number in floating point that a text of digits, a point, an exponent and signs writes. -/
def real? (cs : List Char) : Option Float :=
  if cs.all fun c => c.isDigit || ['.', 'e', 'E', '+', '-'].contains c then float? (String.ofList cs)
  else none

/-- The natural number that digits in a base write, with underscores between them. -/
def natural? (base : Nat) (isDigit : Char → Bool) (cs : List Char) : Option Nat :=
  let digits := cs.filter (· ≠ '_')
  if digits.isEmpty || cs.head? = some '_' || !digits.all isDigit then none
  else some (numberOfDigits base digits)

/-- The natural number that a text writes, in base ten or the base it gives. -/
def based? : List Char → Option Nat
  | '0' :: 'x' :: digits => natural? 16 isHexDigit digits
  | '0' :: 'o' :: digits => natural? 8 isOctalDigit digits
  | '0' :: 'b' :: digits => natural? 2 (fun c => c = '0' || c = '1') digits
  | digits => natural? 10 Char.isDigit digits

/-- The number that a text writes: an integer of 64 bits, of which one more bit is there without a sign,
or a number in floating point. -/
def number? (cs : List Char) : Option Tree :=
  let integer? : Option Tree := match cs with
    | '-' :: digits => do
      let n ← based? digits
      if n ≤ signed64Bound then some (.integer (-n)) else none
    | '+' :: digits => do
      let n ← based? digits
      if n < signed64Bound then some (.integer n) else none
    | digits => do
      let n ← based? digits
      if n < signed64Bound then some (.integer n)
      else if n < UInt64.size then some (.real (Float.ofNat n))
      else none
  integer? <|> (real? cs).map .real

def number : Scan Tree := do
  match number? (← takeWhile isRawWordChar) with
  | some t => return t
  | none => failure

/-! ## Values -/

/-- Items between two marks, read by `item`, with commas between them; one may follow the last. -/
def listed {β : Type} (opening closing : String) (item : Scan β) : Scan (List β) := do
  mark opening
  let items ← separated (do let v ← item; blanks; return v) (mark ",")
  if !items.isEmpty then
    let _ ← optionally (mark ",")
  text closing
  return items

/-- Whether the field of a record comes next. -/
def looksAtField : Scan Bool := fun cs =>
  let field : Scan Unit := do
    let _ ← word
    blanks
    char ':'
  some ((field cs).isSome, cs)

/-- What stands between parentheses: the fields of a record if the first thing is one, and else a row of
values. -/
def grouped (item : Scan Tree) : Scan Tree := do
  let cs ← get
  mark "("
  let isRecord ← looksAtField
  set cs
  if isRecord then
    return .ofEntries (← listed "(" ")" do
      let key ← word
      blanks
      mark ":"
      return (key, ← item))
  else return .array (← listed "(" ")" item)

/-- A map. Of the entries under a key the last counts, but a string comes behind a character. -/
def map (item : Scan Tree) : Scan Tree := do
  let entries ← listed "\x7b" "\x7d" do
    let (isString, key) ←
      (do return (true, ← string <|> rawString)) <|> (do return (false, ← character))
    blanks
    mark ":"
    return (isString, key, ← item)
  let (strings, characters) := entries.partition (·.1)
  return .ofEntries ((characters ++ strings).map (·.2))

/-- An optional value, behind its mark; `inner` reads the value. -/
def optional (implicitSome : Bool) (inner : Scan Tree) : Scan Tree := do
  theWord "Some"
  blanks
  if ← looksAt "(" then
    mark "("
    let v ← inner
    blanks
    let _ ← optionally (mark ",")
    char ')'
    return v
  else if implicitSome then inner
  else failure

/-- A value that starts with a word, or has a sign in front of it. -/
def named (item : Option (Scan Tree)) : Scan Tree :=
  (do theWord "true"; return .boolean true) <|>
  (do theWord "false"; return .boolean false) <|>
  (do theWord "None"; return .absent) <|>
  (do theWord "inf"; return .real (1.0 / 0.0)) <|>
  (do theWord "-inf"; return .real (-(1.0 / 0.0))) <|>
  (do theWord "NaN"; return .real (0.0 / 0.0)) <|>
  (do
    let _ ← word
    blanks
    if ← looksAt "(" then item.elim failure grouped else return .absent)

/-- A value; `item` reads what is in it, if it may hold something, and `inner` the value of an option. -/
def valueOver (implicitSome : Bool) (item : Option (Scan Tree)) (inner : Scan Tree) : Scan Tree := do
  let isOption := (theWord "Some" (← get)).isSome
  if isOption then optional implicitSome inner
  else
    match ← peek?, item with
    | some '"', _ => return .text (← string)
    | some '\'', _ => return .text (← character)
    | some '[', some item => return .array (← listed "[" "]" item)
    | some '\x7b', some item => map item
    | some '(', item =>
      (do text "()"; return .absent) <|> (item.elim failure grouped)
    | _, item => (do return .text (← rawString)) <|> named item <|> number

/-- A value that nests no deeper than `depth`: a list counts once, and each of its items once more. -/
def value (implicitSome : Bool) : (depth : Nat) → Scan Tree
  | 0, cs => valueOver implicitSome none failure cs
  | 1, cs => valueOver implicitSome (some failure) (value implicitSome 0) cs
  | depth + 2, cs =>
    valueOver implicitSome (some (value implicitSome depth)) (value implicitSome (depth + 1)) cs

/-- How deep values may nest. -/
def maxDepth : Nat := 128

/-- The tree that a text holds. -/
def read? (cs : List Char) : Option Tree :=
  whole? (do
    blanks
    let extensions ← extensions
    let v ← value (extensions.contains .implicitSome) maxDepth
    blanks
    return v) cs

end ForwardPass.Settings.Ron

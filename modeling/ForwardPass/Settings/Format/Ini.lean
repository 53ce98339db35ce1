import ForwardPass.Settings.Tree
import ForwardPass.Text.Blank
import ForwardPass.Text.CodePoint

/-!
# Settings in INI files

Sections in brackets, and entries whose keys and values are divided by `=` or `:`. All values are texts;
entries in front of the first section belong to none. Of several sections with one name the last counts.
-/

namespace ForwardPass.Settings.Ini

open Scan

/-! ## Text -/

/-- The character of four hexadecimal digits, the first of which may be a plus sign. -/
def point : Scan Char := do
  if ← looksAt "+" then
    char '+'
    codePoint 3
  else codePoint 4

/-- What an escape sequence stands for, if anything. -/
def escape : Scan (List Char) := do
  char '\\'
  match ← charIf fun _ => true with
  | '0' => return ['\x00']
  | 'a' => return ['\x07']
  | 'b' => return ['\x08']
  | 't' => return ['\t']
  | 'r' => return ['\r']
  | 'n' => return ['\n']
  | '\n' => return []
  | 'x' => return [← point]
  | c => return [c]

/-- The text in front of the first of some characters that is not escaped. -/
def upTo (stops : List Char) : Scan (List Char) := do
  return (← many (escape <|> (do return [← charIf fun c => c ≠ '\\' && !stops.contains c]))).flatten

def isLineEnd (c : Char) : Bool := c = '\n' || c = '\r'

/-! ## Lines -/

/-- A value: what stands between quotes, if it starts with one, and the rest of the line. Blanks at either
end do not count, not even between quotes. -/
def value : Scan String := do
  let _ ← takeWhile fun c => isWhiteSpace c && !isLineEnd c
  let quoted (quote : Char) : Scan (List Char) := do
    char quote
    let cs ← upTo [quote]
    char quote
    return cs
  let first ← match ← peek? with
    | some '"' => quoted '"'
    | some '\'' => quoted '\''
    | _ => pure []
  let rest ← upTo ['\n', '\r']
  return String.ofList (trim (first ++ rest))

/-- What stands between two stretches of white space. -/
inductive Item where
  | comment
  | heading (name : String)
  | entry (key value : String)

/-- An item; a comment needs a line of its own. -/
def item (atLineStart : Bool) : Scan Item := do
  match ← peek? with
  | some ';' | some '#' =>
    if !atLineStart then failure
    let _ ← takeWhile (· ≠ '\n')
    return .comment
  | some '[' =>
    char '['
    let name ← upTo [']']
    char ']'
    return .heading (String.ofList (trim name))
  | _ =>
    let key := trim (← upTo ['=', ':'])
    let _ ← charIf fun c => c = '=' || c = ':'
    if key.isEmpty then failure
    return .entry (String.ofList key) (← value)

/-- The items of a file, in their order. -/
def items : Scan (List Item) := do
  let lead ← takeWhile isWhiteSpace
  if (← get).isEmpty then return []
  let first ← item (lead.isEmpty || lead.getLast? = some '\n')
  let rest ← many do
    let space ← takeWhile isWhiteSpace
    if (← get).isEmpty then failure
    item (space.getLast? = some '\n')
  let _ ← takeWhile isWhiteSpace
  return first :: rest

/-! ## Sections -/

/-- The sections that items make, each with its entries, behind a section that has some already. -/
def sections (name : Option String) (entries : List (String × Tree)) :
    List Item → List (Option String × List (String × Tree))
  | [] => [(name, entries)]
  | .comment :: rest => sections name entries rest
  | .entry key v :: rest => sections name (entries ++ [(key, .text v)]) rest
  | .heading next :: rest => (name, entries) :: sections (some next) [] rest

/-- The tree that a text holds. -/
def read? (cs : List Char) : Option Tree := do
  let items ← whole? items cs
  return .ofEntries ((sections none [] items).flatMap fun (name, entries) =>
    match name with
    | some name => [(name, .ofEntries entries)]
    | none => entries)

end ForwardPass.Settings.Ini

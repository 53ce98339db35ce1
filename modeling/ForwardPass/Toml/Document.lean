import ForwardPass.Toml.Lexeme
import ForwardPass.Toml.Tree

/-!
# Reading TOML documents

Values nest through arrays and inline tables, up to a fixed depth. A document is read line by line: a
line adds an entry to the current table, or is the header of the table that follows.
-/

namespace ForwardPass.Toml

open Scan

/-- How deep arrays and inline tables may nest. -/
def maxDepth : Nat := 79

/-- An array whose items are read by `item`; a comma may follow the last. -/
def arrayOf (item : Scan Value) : Scan Value := do
  char '['
  let items ← many (do
    layout
    let v ← item
    layout
    (do char ',') <|> (do if !(← looksAt "]") then failure)
    return v)
  layout
  char ']'
  return .array items

/-- An inline table whose values are read by `item`, on one line. -/
def inlineTableOf (item : Scan Value) : Scan Value := do
  let entry : Scan (List String × Value) := do
    let key ← dottedKey
    char '='
    blanks
    let v ← item
    blanks
    return (key, v)
  char '{'
  blanks
  let entries ← if ← looksAt "\x7d" then pure [] else do
    let first ← entry
    let rest ← many (do char ','; entry)
    pure (first :: rest)
  char '}'
  let table := entries.foldlM (fun (b : Branch) (key, v) => do
    let name ← key.getLast?
    b.addEntry key.dropLast name v) (Branch.empty .defined)
  match table with
  | some b => return b.node.toValue
  | none => failure

/-- A value, nested no deeper than `depth`. -/
def value (depth : Nat) : Scan Value := do
  match depth, ← peek? with
  | 0, some '[' | 0, some '{' => failure
  | depth + 1, some '[' => arrayOf (value depth)
  | depth + 1, some '{' => inlineTableOf (value depth)
  | _, _ => simpleValue

/-- The header of a table, or of an item of an array of tables. -/
def header (d : Draft) : Scan Draft := do
  let isItem ← looksAt "[["
  text (if isItem then "[[" else "[")
  let path ← dottedKey
  text (if isItem then "]]" else "]")
  lineEnd
  match if isItem then d.startItem path else d.startTable path with
  | some d => return d
  | none => failure

/-- A line that adds an entry. -/
def entryLine (d : Draft) : Scan Draft := do
  let key ← dottedKey
  char '='
  blanks
  let v ← value maxDepth
  lineEnd
  match d.addEntry key v with
  | some d => return d
  | none => failure

/-- The lines of a document, of which there are at most `count`. -/
def documentLines : (count : Nat) → Draft → Scan Draft
  | 0, _ => failure
  | count + 1, d => do
    blanks
    match ← peek? with
    | none => return d
    | some '#' | some '\n' | some '\r' =>
      lineEnd
      documentLines count d
    | some '[' => documentLines count (← header d)
    | some _ => documentLines count (← entryLine d)

/-- The entries of the root table of a document, if it is one. A byte-order mark in front is skipped. -/
def parse? (text : String) : Option (List (String × Value)) := do
  let cs := match text.toList with
    | '\ufeff' :: rest => rest
    | cs => cs
  let draft ← whole? (documentLines (cs.length + 1) .start) cs
  let root ← draft.finish
  return entriesToValues root.entries

end ForwardPass.Toml

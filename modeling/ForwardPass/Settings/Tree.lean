import ForwardPass.Text.Decimal
import ForwardPass.Text.LowerCase
import ForwardPass.Text.Number

/-!
# Setting trees

Settings before they have a fixed form: values under keys, in tables inside tables. Sources are layered
by assigning one over the other; keys are lower case, tables are merged, and any other value replaces
what was there. Values are read with some freedom: a switch may be a number or a word, a text may be
written as a number, and a number as a text.
-/

namespace ForwardPass.Settings

/-- Why a source of settings has no tree. -/
inductive SourceDefect where
  /-- The source breaks the rules of its format, or holds what settings have no place for. -/
  | malformed
  /-- A key is of a kind that names nothing. -/
  | unnamedKey
deriving DecidableEq, Repr

inductive Tree where
  /-- Nothing: the gap in an array that was never filled. -/
  | absent
  | boolean (b : Bool)
  | integer (n : Int)
  | real (x : Float)
  | text (s : String)
  | array (items : List Tree)
  | table (entries : List (String × Tree))
deriving Inhabited

namespace Tree

/-! ## Structure -/

/-- The entries of a table; other trees have none. -/
def entries : Tree → List (String × Tree)
  | .table entries => entries
  | _ => []

/-- The items of an array; other trees have none. -/
def items : Tree → List Tree
  | .array items => items
  | _ => []

/-- The entry under a key. -/
def child? (t : Tree) (key : String) : Option Tree := t.entries.lookup key

/-- The table with another entry under a key; other trees give way to a new table. -/
def put (t : Tree) (key : String) (v : Tree) : Tree :=
  .table ((key, v) :: t.entries.filter (·.1 ≠ key))

/-- The table of some entries, of which the last under a key counts. -/
def ofEntries (entries : List (String × Tree)) : Tree :=
  entries.foldl (fun t (key, v) => t.put key v) (.table [])

/-- The array with another item at an index, gaps filled with nothing; other trees give way to a new
array. -/
def putItem (t : Tree) (index : Nat) (v : Tree) : Tree :=
  let items := t.items ++ List.replicate (index + 1 - t.items.length) .absent
  .array (items.set index v)

mutual

/-- Assign a value to a key: the entries of a table one by one, anything else as a whole. -/
def assign (t : Tree) (key : String) : Tree → Tree
  | .table entries =>
    let key := lowerCase key
    t.put key (assignAll ((t.child? key).getD (.table [])) entries)
  | v => t.put (lowerCase key) v

/-- Assign values to keys, one after the other. -/
def assignAll (t : Tree) : List (String × Tree) → Tree
  | [] => t
  | (key, v) :: rest => assignAll (t.assign key v) rest

end

/-! ## Values -/

/-- The words for yes. -/
def isAffirmative (word : String) : Bool := ["true", "on", "yes"].contains word

/-- The words for no. -/
def isNegative (word : String) : Bool := ["false", "off", "no"].contains word

/-- A switch: yes or no in words or as a digit, or a number, which is no if it is zero. -/
def switch? : Tree → Option Bool
  | .boolean b => some b
  | .integer n => some (n ≠ 0)
  | .real x => some (x != 0.0)
  | .text s =>
    let word := lowerCase s
    if word = "1" || isAffirmative word then some true
    else if word = "0" || isNegative word then some false
    else none
  | _ => none

/-- A text, or the plain text of a number or switch. -/
def text? : Tree → Option String
  | .boolean b => some (if b then "true" else "false")
  | .integer n => some (toString n)
  | .real x => some (FloatValue.ofFloat x).plain
  | .text s => some s
  | _ => none

/-- A natural number as a word of 32 bits, if it fits. -/
def word? (n : Nat) : Option UInt32 := if n < UInt32.size then some n.toUInt32 else none

/-- A number of 32 bits. Fractions are rounded, a half going up, and what lies below zero counts as
zero; switches and their words are one and zero. -/
def number? : Tree → Option UInt32
  | .boolean b => some (if b then 1 else 0)
  | .integer n => if n < 0 then none else word? n.toNat
  | .real x =>
    match FloatValue.ofFloat x with
    | .nan => some 0
    | .infinite negative => if negative then some 0 else none
    | .finite negative b => if negative then some 0 else word? b.nearest
  | .text s =>
    let word := lowerCase s
    if isAffirmative word then some 1
    else if isNegative word then some 0
    else
      match unsigned UInt32.size s.toList with
      | .ok n => some n.toUInt32
      | .error _ => none
  | _ => none

end Tree

end ForwardPass.Settings

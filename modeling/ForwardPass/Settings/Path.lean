import ForwardPass.Settings.Tree
import ForwardPass.Text.Scan

/-!
# Setting paths

Where in a tree a setting goes: `simulation.mode` is the entry `mode` of the table `simulation`, and
`sizes[2]` the third item of an array, which a negative index counts from its end. A key that is no path
stands for itself.
-/

namespace ForwardPass.Settings

/-- One step into a tree. -/
inductive Place where
  | entry (key : String)
  | item (index : Int)
deriving DecidableEq, Repr

/-- A step into a tree, and the steps that follow it. -/
structure Path where
  first : Place
  rest : List Place := []
deriving DecidableEq, Repr

namespace Path

/-! ## Reading -/

/-- The characters of keys in paths. -/
def isKeyChar (c : Char) : Bool := c.isAlphanum || c = '_' || c = '-' || c = ' '

def scanKey : Scan String := do
  let cs ← Scan.takeWhile isKeyChar
  if cs.isEmpty then failure
  return String.ofList cs

/-- An integer, with blanks around it. -/
def scanIndex : Scan Int := do
  let isBlank := fun c => c = ' ' || c = '\t'
  let _ ← Scan.takeWhile isBlank
  let minus ← Scan.optionally (Scan.char '-')
  let digits ← Scan.takeWhile Char.isDigit
  let _ ← Scan.takeWhile isBlank
  match signed64? (String.ofList (if minus.isSome then '-' :: digits else digits)) with
  | some n => return n
  | none => failure

def scanPlace : Scan Place :=
  (do
    Scan.char '.'
    return .entry (← scanKey)) <|>
  (do
    Scan.char '['
    let index ← scanIndex
    Scan.char ']'
    return .item index)

def scan : Scan Path := do
  let key ← scanKey
  return ⟨.entry key, ← Scan.many scanPlace⟩

/-- The path a key stands for. -/
def ofKey (key : String) : Path := (Scan.whole? scan key.toList).getD ⟨.entry key, []⟩

end Path

/-! ## Assigning -/

/-- The position of an item among `count`; the last has the index -1. -/
def position? (index : Int) (count : Nat) : Option Nat :=
  if index ≥ 0 then some index.toNat
  else if index.natAbs ≤ count then some (count - index.natAbs)
  else none

namespace Tree

/-- Assign a value to the place that a first step and the rest of a path lead to, making the tables and
arrays that are not there yet. -/
def assignAt (v : Tree) : Place → List Place → Tree → Option Tree
  | .entry key, [], t => some (t.assign key v)
  | .entry key, next :: rest, t => do
    let key := lowerCase key
    return t.put key (← assignAt v next rest ((t.child? key).getD .absent))
  | .item index, [], t => do
    return t.putItem (← position? index t.items.length) v
  | .item index, next :: rest, t => do
    let i ← position? index t.items.length
    return t.putItem i (← assignAt v next rest (t.items[i]?.getD .absent))

/-- Layer a source over a tree: assign each of its values to the path that its key stands for. -/
def layer (t : Tree) (source : List (String × Tree)) : Option Tree :=
  source.foldlM (fun t (key, v) =>
    let path := Path.ofKey key
    assignAt v path.first path.rest t) t

end Tree

end ForwardPass.Settings

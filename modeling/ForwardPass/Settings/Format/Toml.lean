import ForwardPass.Settings.Tree
import ForwardPass.Toml.Document

/-!
# Settings in TOML

The values of a document as a tree, in which dates and times are texts. A table may also stand for a date
or time: its first key says so, and the value of this key is its text.
-/

namespace ForwardPass.Settings.Toml

/-- The key that makes a table a date or time. -/
def momentKey : String := "$__toml_private_datetime"

mutual

/-- The tree of a value. -/
def tree? : ForwardPass.Toml.Value → Option Tree
  | .text s | .moment s => some (.text s)
  | .integer n => some (.integer n)
  | .real x => some (.real x)
  | .boolean b => some (.boolean b)
  | .array items => (trees? items).map .array
  | .table [] => some (.table [])
  | .table ((key, v) :: rest) =>
    if key = momentKey then
      match v with
      | .text s => (ForwardPass.Toml.normalMoment? s).map .text
      | _ => none
    else
      match tree? v, entries? rest with
      | some t, some entries => some (.table ((key, t) :: entries))
      | _, _ => none

def trees? : List ForwardPass.Toml.Value → Option (List Tree)
  | [] => some []
  | v :: rest =>
    match tree? v, trees? rest with
    | some t, some items => some (t :: items)
    | _, _ => none

def entries? : List (String × ForwardPass.Toml.Value) → Option (List (String × Tree))
  | [] => some []
  | (key, v) :: rest =>
    match tree? v, entries? rest with
    | some t, some entries => some ((key, t) :: entries)
    | _, _ => none

end

/-- The tree that a text holds. -/
def read? (text : String) : Option Tree := do tree? (.table (← ForwardPass.Toml.parse? text))

end ForwardPass.Settings.Toml

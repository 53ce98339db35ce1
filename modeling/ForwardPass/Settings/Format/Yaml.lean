import ForwardPass.Settings.Tree
import ForwardPass.Yaml.Document

/-!
# Settings in YAML

The nodes of a document as a tree; a text without documents is an empty table. Keys are texts and
integers; a key of any other kind has no text to name its entry by.
-/

namespace ForwardPass.Settings.Yaml

open ForwardPass.Yaml (Node)

/-- The text of a key. -/
def keyText : Node → Except SourceDefect String
  | .text s => .ok s
  | .integer n => .ok (toString n)
  | _ => .error .unnamedKey

mutual

/-- The tree of a node. Of two defects the one further in front counts. -/
def tree : Node → Except SourceDefect Tree
  | .null | .missing => .ok .absent
  | .boolean b => .ok (.boolean b)
  | .integer n => .ok (.integer n)
  | .real s =>
    match float? s with
    | some x => .ok (.real x)
    | none => .error .malformed
  | .text s => .ok (.text s)
  | .sequence items => do return .array (← trees items)
  | .mapping nodes => do return .ofEntries (← entries nodes)

def trees : List Node → Except SourceDefect (List Tree)
  | [] => .ok []
  | node :: rest => do
    let t ← tree node
    return t :: (← trees rest)

def entries : List (Node × Node) → Except SourceDefect (List (String × Tree))
  | [] => .ok []
  | (key, node) :: rest => do
    let key ← keyText key
    let t ← tree node
    return (key, t) :: (← entries rest)

end

/-- The tree that a text holds, in at most one document. -/
def read (cs : List Char) : Except SourceDefect Tree :=
  match ForwardPass.Yaml.documents? cs with
  | some [] => .ok (.table [])
  | some [node] => tree node
  | _ => .error .malformed

end ForwardPass.Settings.Yaml

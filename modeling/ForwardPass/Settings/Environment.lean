import ForwardPass.Settings.Path

/-!
# Settings in the environment

Variables whose names start with `smiv__`, in letters of any case, are settings: the rest of the name is
the path, with two underscores between its keys. A value that reads as a switch or a number is one.
-/

namespace ForwardPass.Settings.Environment

/-- What the names of settings start with. -/
def marker : String := "smiv__"

/-- Two underscores separate the keys of a path. -/
def dotted : List Char → List Char
  | '_' :: '_' :: rest => '.' :: dotted rest
  | c :: rest => c :: dotted rest
  | [] => []

/-- The key that a variable sets, if it is a setting. -/
def key? (name : String) : Option String :=
  (marker.toList.isPrefixOf? (lowerCase name).toList).map fun rest => String.ofList (dotted rest)

/-- The value a text is read as. -/
def valueOf (s : String) : Tree :=
  match lowerCase s with
  | "true" => .boolean true
  | "false" => .boolean false
  | _ =>
    match signed64? s, float? s with
    | some n, _ => .integer n
    | none, some x => .real x
    | none, none => .text s

/-- The settings among the variables of an environment. -/
def settings (environment : List (String × String)) : List (String × Tree) :=
  environment.filterMap fun (name, s) => (key? name).map fun key => (key, valueOf s)

end ForwardPass.Settings.Environment

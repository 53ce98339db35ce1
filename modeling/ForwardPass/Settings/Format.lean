import ForwardPass.Settings.Format.Ini
import ForwardPass.Settings.Format.Json
import ForwardPass.Settings.Format.Json5
import ForwardPass.Settings.Format.Ron
import ForwardPass.Settings.Format.Toml
import ForwardPass.Settings.Format.Yaml

/-!
# Configuration files

The formats that settings can be written in, and how the name of a file tells its format. Whatever the
format, a file holds a table.
-/

namespace ForwardPass.Settings

inductive Format where
  | toml
  | json
  | yaml
  | ini
  | ron
  | json5
deriving DecidableEq, Repr, Inhabited

namespace Format

/-- All formats, in the order in which files of them are looked for. -/
def all : List Format := [.toml, .json, .yaml, .ini, .ron, .json5]

/-- The endings of the names of files in a format. -/
def endings : Format → List String
  | .toml => ["toml"]
  | .json => ["json"]
  | .yaml => ["yaml", "yml"]
  | .ini => ["ini"]
  | .ron => ["ron"]
  | .json5 => ["json5"]

/-- The tree that a text in a format holds. -/
def read (format : Format) (text : String) : Except SourceDefect Tree :=
  let orMalformed := fun (t : Option Tree) => t.elim (Except.error SourceDefect.malformed) .ok
  match format with
  | .toml => orMalformed (Toml.read? text)
  | .json => orMalformed (Json.read? text.toList)
  | .yaml => Yaml.read text.toList
  | .ini => orMalformed (Ini.read? text.toList)
  | .ron => orMalformed (Ron.read? text.toList)
  | .json5 => orMalformed (Json5.read? text.toList)

end Format

/-- A file of settings. -/
structure ConfigFile where
  format : Format
  text : String
deriving DecidableEq, Repr, Inhabited

namespace ConfigFile

/-- The entries of the table that a file holds. -/
def entries (file : ConfigFile) : Except SourceDefect (List (String × Tree)) := do
  match ← file.format.read file.text with
  | .table entries => return entries
  | _ => throw .malformed

/-- The ending of a name, behind its last dot. A name that starts with its only dot has none. -/
def ending? (name : String) : Option String :=
  match (name.splitOn ".").reverse with
  | _ :: [""] => none
  | ending :: _ :: _ => some ending
  | _ => none

/-- The format of a file, by the ending of its name. -/
def format? (path : String) : Option Format := do
  let ending ← ending? (← (path.splitOn "/").getLast?)
  Format.all.find? (·.endings.contains ending)

/-- The names that a file may have whose name lacks its ending, each with its format. The dots and slashes
of a path that end it are no part of a name. -/
def candidates (path : String) : List (String × Format) :=
  match (path.splitOn "/").reverse.dropWhile fun part => part = "" ∨ part = "." with
  | [] => []
  | name :: before =>
    if name = ".." then []
    else
      let full := "/".intercalate (name :: before).reverse
      Format.all.flatMap fun format => format.endings.map fun ending => (full ++ "." ++ ending, format)

end ConfigFile

end ForwardPass.Settings

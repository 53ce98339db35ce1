import ForwardPass.Text.Number

/-!
# YAML nodes

What a document consists of. A plain scalar is the number, switch or nothing that it reads as, and else a
text; a tag may say what it has to be. The entries of a mapping keep their order, and no key stands twice.
-/

namespace ForwardPass.Yaml

inductive Node where
  | null
  /-- No value: a scalar that its tag does not fit, or a node that stands for one it is part of. -/
  | missing
  | boolean (b : Bool)
  | integer (n : Int)
  /-- A number in floating point, as it was written. -/
  | real (text : String)
  | text (s : String)
  | sequence (items : List Node)
  | mapping (entries : List (Node × Node))
deriving Repr, Inhabited

namespace Node

/-! ## Equality -/

mutual

/-- Whether two nodes are the same. Numbers in floating point are the same if they are written the same
way, and collections if their parts are, in the same order. -/
def same : Node → Node → Bool
  | .null, .null | .missing, .missing => true
  | .boolean a, .boolean b => a = b
  | .integer a, .integer b => a = b
  | .real a, .real b => a = b
  | .text a, .text b => a = b
  | .sequence a, .sequence b => sameItems a b
  | .mapping a, .mapping b => sameEntries a b
  | _, _ => false

def sameItems : List Node → List Node → Bool
  | [], [] => true
  | a :: as, b :: bs => same a b && sameItems as bs
  | _, _ => false

def sameEntries : List (Node × Node) → List (Node × Node) → Bool
  | [], [] => true
  | (k, v) :: as, (k', v') :: bs => same k k' && same v v' && sameEntries as bs
  | _, _ => false

end

/-! ## Scalars -/

/-- The ways to write what no digits write. -/
def irregularNumbers : List String :=
  [".inf", ".Inf", ".INF", "+.inf", "+.Inf", "+.INF", "-.inf", "-.Inf", "-.INF", ".nan", "NaN", ".NAN"]

def isReal (s : String) : Bool := irregularNumbers.contains s || (float? s).isSome

/-- The integer that a text with a mark in front of it writes: the mark of a base, or one more sign. -/
def markedInteger? : List Char → Option Int
  | '0' :: 'x' :: rest => signedIn? 16 isHexDigit rest
  | '0' :: 'o' :: rest => signedIn? 8 isOctalDigit rest
  | '+' :: rest => signedIn? 10 Char.isDigit rest
  | _ => none

def ofBoolean? (s : String) : Option Node :=
  if s = "true" then some (.boolean true) else if s = "false" then some (.boolean false) else none

/-- The node of a plain scalar. -/
def ofPlain (s : String) : Node :=
  match markedInteger? s.toList with
  | some n => .integer n
  | none =>
    if ["", "~", "null"].contains s then .null
    else
      match ofBoolean? s, signed64? s with
      | some node, _ => node
      | none, some n => .integer n
      | none, none => if isReal s then .real s else .text s

/-- What tags start with that say what a plain scalar is. -/
def coreStem : String := "tag:yaml.org,2002:"

/-- The node of a plain scalar with a tag. -/
def ofTagged (stem suffix s : String) : Node :=
  if stem ≠ coreStem then .text s
  else
    match suffix with
    | "bool" => (ofBoolean? s).getD .missing
    | "int" => ((signed64? s).map .integer).getD .missing
    | "float" => if isReal s then .real s else .missing
    | "null" => if s = "~" || s = "null" then .null else .missing
    | _ => .text s

/-! ## Mappings -/

/-- Pair up nodes behind some entries and a key, unless this is missing. A key that is missing gives way to
the node behind it. -/
def pairUp? (entries : List (Node × Node)) (key : Node) : List Node → Option (List (Node × Node))
  | [] => some entries
  | node :: rest =>
    match key with
    | .missing => pairUp? entries node rest
    | key =>
      if entries.any fun (k, _) => same k key then none
      else pairUp? (entries ++ [(key, node)]) .missing rest

/-- The mapping of nodes that are keys and values in turn. -/
def ofPairs? (nodes : List Node) : Option Node := (pairUp? [] .missing nodes).map .mapping

end Node

end ForwardPass.Yaml

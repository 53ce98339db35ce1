import ForwardPass.Yaml.Node
import ForwardPass.Yaml.Tokens

/-!
# YAML documents

The nodes that tokens make. Keys, values and items may be left out, and are nothing then; anchors give
nodes names, by which the document they are in can refer to them once they are complete.
-/

namespace ForwardPass.Yaml

structure Composition where
  tokens : List Token
  /-- The numbers of the nodes that names stand for, the last first. -/
  anchors : List (String × Nat) := []
  /-- The complete nodes that have numbers. -/
  known : List (Nat × Node) := []
  /-- How many nodes have numbers. -/
  numbered : Nat := 0
  /-- What handles of tags stand for. -/
  stems : List (String × String) := []

abbrev Composing (β : Type) : Type := StateT Composition Option β

namespace Composing

def peek? : Composing (Option Token) := return (← get).tokens.head?

def advance : Composing Unit := modify fun c => { c with tokens := c.tokens.drop 1 }

/-- Whether the next token is one of these. -/
def looksAt (ts : List Token) : Composing Bool := return (← peek?).any ts.contains

/-- Nodes from steps, the first of which may differ, up to one that has none. Each step takes at least one
token. -/
def collect (step : (isFirst : Bool) → Composing (Option (List Node))) (isFirst : Bool) :
    (count : Nat) → Composing (List Node)
  | 0 => failure
  | count + 1 => do
    match ← step isFirst with
    | some nodes => return nodes ++ (← collect step false count)
    | none => return []

/-- All nodes of a collection. -/
def collectAll (step : (isFirst : Bool) → Composing (Option (List Node))) : Composing (List Node) := do
  collect step true ((← get).tokens.length + 1)

/-- Nothing, if one of these tokens comes next, and else a node. -/
def unlessNext (ends : List Token) (node : Composing Node) : Composing Node := do
  if ← looksAt ends then return .null else node

def mappingOf (nodes : List Node) : Composing Node :=
  match Node.ofPairs? nodes with
  | some node => pure node
  | none => failure

/-! ## Properties -/

/-- The stem and suffix of a tag. A closed handle has to be declared, but for the one of two marks. -/
def resolve (handle suffix : String) : Composing (String × String) := do
  let stems := (← get).stems
  if handle = "!!" then return ((stems.lookup handle).getD Node.coreStem, suffix)
  match stems.lookup handle with
  | some stem => return (stem, suffix)
  | none => if Lexing.isClosed handle.toList then failure else return (handle, suffix)

def anchor? : Composing (Option Nat) := do
  match ← peek? with
  | some (.anchor name) =>
    advance
    let c ← get
    -- The name counts at once; the node has its number only when it is complete.
    set { c with anchors := (name, c.numbered) :: c.anchors, numbered := c.numbered + 1 }
    return some c.numbered
  | _ => return none

def tag? : Composing (Option (String × String)) := do
  match ← peek? with
  | some (.tag handle suffix) =>
    advance
    return some (← resolve handle suffix)
  | _ => return none

/-- The number and the tag of a node, in either order. -/
def properties : Composing (Option Nat × Option (String × String)) := do
  match ← anchor? with
  | some number => return (some number, ← tag?)
  | none =>
    match ← tag? with
    | some tag => return (← anchor?, some tag)
    | none => return (none, none)

/-! ## Nodes -/

/-- The node of a scalar. -/
def scalar (isPlain : Bool) (s : String) (tag : Option (String × String)) : Node :=
  match isPlain, tag with
  | false, _ => .text s
  | true, some (stem, suffix) => .ofTagged stem suffix s
  | true, none => .ofPlain s

/-- An item behind its dash. -/
def blockItem (node : Composing Node) (_ : Bool) : Composing (Option (List Node)) := do
  match ← peek? with
  | some .blockEnd =>
    advance
    return none
  | some .item =>
    advance
    return some [← unlessNext [.item, .blockEnd] node]
  | _ => failure

/-- An item of a sequence that stands in the column of the mapping around it. -/
def innerItem (node : Composing Node) (_ : Bool) : Composing (Option (List Node)) := do
  match ← peek? with
  | some .item =>
    advance
    return some [← unlessNext [.item, .key, .value, .blockEnd] node]
  | _ => return none

/-- A value, if its mark comes next. -/
def valueOf (ends : List Token) (node : Composing Node) : Composing Node := do
  match ← peek? with
  | some .value =>
    advance
    unlessNext ends node
  | _ => return .null

/-- An entry of a mapping of lines. -/
def blockEntry (node : Composing Node) (_ : Bool) : Composing (Option (List Node)) := do
  let ends := [Token.key, .value, .blockEnd]
  match ← peek? with
  | some .key =>
    advance
    let key ← unlessNext ends node
    return some [key, ← valueOf ends node]
  | some .value => return some [.null, ← valueOf ends node]
  | some .blockEnd =>
    advance
    return none
  | _ => failure

/-- The comma in front of an entry of a flow collection, but for its first. -/
def separator (isFirst : Bool) : Composing Unit := do
  if !isFirst then
    if !(← looksAt [.comma]) then failure
    advance

/-- An entry of a mapping between braces. -/
def flowEntry (node : Composing Node) (isFirst : Bool) : Composing (Option (List Node)) := do
  let ends := [Token.comma, .flowMappingEnd]
  if !(← looksAt [.flowMappingEnd]) then separator isFirst
  match ← peek? with
  | some .key =>
    advance
    let key ← unlessNext (.value :: ends) node
    return some [key, ← valueOf ends node]
  | some .value => return some [.null, ← valueOf ends node]
  | some .flowMappingEnd =>
    advance
    return none
  | _ => return some [← node, .null]

/-- An item of a sequence between brackets. A key makes a mapping of one entry. -/
def flowItem (node : Composing Node) (isFirst : Bool) : Composing (Option (List Node)) := do
  let ends := [Token.comma, .flowSequenceEnd]
  if !(← looksAt [.flowSequenceEnd]) then separator isFirst
  match ← peek? with
  | some .flowSequenceEnd =>
    advance
    return none
  | some .key =>
    advance
    -- A key without a node gives up the token behind it, whatever it is.
    let isVoid ← looksAt (.value :: ends)
    if isVoid then advance
    let key ← if isVoid then pure .null else node
    return some [← mappingOf [key, ← valueOf ends node]]
  | _ => return some [← node]

/-- A node; `isBlock` says whether it may be a collection of lines, and `isInner` whether one that stands
in the column of the mapping around it. -/
def node : (depth : Nat) → (isBlock isInner : Bool) → Composing Node
  | 0, _, _ => failure
  | depth + 1, isBlock, isInner => do
    if let some (.alias name) := ← peek? then
      advance
      let c ← get
      match c.anchors.lookup name with
      | some number => return (c.known.lookup number).getD .missing
      | none => failure
    let (number, tag) ← properties
    let inLines := node depth true
    let inFlow := node depth false false
    let v ← match ← peek?, isBlock, isInner with
      | some (.scalar isPlain s), _, _ => do
        advance
        pure (scalar isPlain s tag)
      | some .item, _, true => .sequence <$> collectAll (innerItem (inLines false))
      | some .blockSequence, true, _ => do
        advance
        .sequence <$> collectAll (blockItem (inLines false))
      | some .blockMapping, true, _ => do
        advance
        mappingOf (← collectAll (blockEntry (inLines true)))
      | some .flowSequence, _, _ => do
        advance
        .sequence <$> collectAll (flowItem inFlow)
      | some .flowMapping, _, _ => do
        advance
        mappingOf (← collectAll (flowEntry inFlow))
      | _, _, _ => if number.isSome || tag.isSome then pure (scalar true "" tag) else failure
    if let some number := number then modify fun c => { c with known := (number, v) :: c.known }
    return v

/-! ## Documents -/

def isDirective : Token → Bool
  | .version | .handle _ _ => true
  | _ => false

/-- Directives, of which at most one gives the version, and the last one counts. -/
def directives (versioned : Bool) : (count : Nat) → Composing Unit
  | 0 => pure ()
  | count + 1 => do
    match ← peek? with
    | some .version =>
      if versioned then failure
      advance
      modify fun c => { c with stems := [] }
      directives true count
    | some (.handle name stem) =>
      advance
      modify fun c => { c with stems := [(name, stem)] }
      directives versioned count
    | _ => pure ()

/-- A document with its mark, of which the node may be left out. -/
def markedDocument (size : Nat) : Composing Node := do
  directives false size
  if !(← looksAt [.documentStart]) then failure
  advance
  match ← peek? with
  | none | some .documentStart | some .documentEnd => return .null
  | some t => if isDirective t then return .null else node size true false

/-- The documents that are left; the first of them may lack its mark if it is `open_`. -/
def documents (size : Nat) : (open_ : Bool) → (count : Nat) → Composing (List Node)
  | _, 0 => failure
  | open_, count + 1 => do
    modify fun c => { c with tokens := c.tokens.dropWhile (· = .documentEnd), anchors := [], stems := [] }
    match ← peek? with
    | none => return []
    | some t =>
      -- Only the first document, and one behind an end mark, may start without a mark.
      let unmarked := open_ && !isDirective t && t ≠ .documentStart
      let v ← if unmarked then node size true false else markedDocument size
      match ← peek? with
      | some .documentEnd => return v :: (← documents size true count)
      | some t => if isDirective t then failure else return v :: (← documents size false count)
      | none => return [v]

end Composing

/-- The documents that a text holds. -/
def documents? (cs : List Char) : Option (List Node) := do
  let tokens ← Token.read? cs
  let (nodes, _) ← (Composing.documents (tokens.length + 1) true (tokens.length + 1)).run { tokens }
  return nodes

end ForwardPass.Yaml

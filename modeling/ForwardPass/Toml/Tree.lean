import ForwardPass.Toml.Value

/-!
# TOML tables under construction

While a document is read, a table remembers how it came about, because that decides who may still add to
it: a table that only came about on the way to another may be defined later by a header; one made by a
dotted key may only be extended by dotted keys and by headers of tables inside it; one that was defined
is closed to both.
-/

namespace ForwardPass.Toml

/-- How a table came about. -/
inductive Origin where
  /-- By its own header, or by the document itself. -/
  | defined
  /-- On the way to a table inside it. -/
  | passed
  /-- By a dotted key. -/
  | dotted
deriving DecidableEq, Repr

inductive Node where
  /-- A value that nothing can be added to. -/
  | value (v : Value)
  | table (origin : Origin) (entries : List (String × Node))
  /-- An array of tables, of which the last is the one that is added to. -/
  | tables (items : List Node)

/-- A table and how it came about. -/
structure Branch where
  origin : Origin
  entries : List (String × Node)

namespace Branch

def empty (origin : Origin) : Branch := ⟨origin, []⟩

def node (b : Branch) : Node := .table b.origin b.entries

/-- Replace or add the entry under a key. -/
def put (b : Branch) (key : String) (node : Node) : Branch :=
  if b.entries.any (·.1 = key) then
    { b with entries := b.entries.map fun e => if e.1 = key then (key, node) else e }
  else { b with entries := b.entries ++ [(key, node)] }

def remove (b : Branch) (key : String) : Branch :=
  { b with entries := b.entries.filter (·.1 ≠ key) }

/-- Change the table at a path, making the tables that are not there yet. A path leads through the
last table of an array of tables, but not through values; the path of a dotted key does not lead
through tables that are defined. -/
def update (dotted : Bool) (change : Branch → Option Branch) : List String → Branch → Option Branch
  | [], b => change b
  | key :: path, b => do
    match b.entries.lookup key with
    | none =>
      let inner ← update dotted change path (empty (if dotted then .dotted else .passed))
      return b.put key inner.node
    | some (.value _) => none
    | some (.table origin entries) =>
      if dotted && origin = .defined then none
      else return b.put key (← update dotted change path ⟨origin, entries⟩).node
    | some (.tables items) =>
      match items.getLast? with
      | some (.table origin entries) =>
        let inner ← update dotted change path ⟨origin, entries⟩
        return b.put key (.tables (items.dropLast ++ [inner.node]))
      | _ => none

/-- Add a new entry to the table at the path of a dotted key. -/
def addEntry (path : List String) (key : String) (v : Value) (b : Branch) : Option Branch :=
  b.update true (fun table =>
    -- A key with dots adds to a table that dotted keys made, one without only to any other.
    if (table.origin == .dotted) == path.isEmpty then none
    else if table.entries.any (·.1 = key) then none
    else some (table.put key (.value v))) path

end Branch

mutual

/-- The value of a finished table. -/
def Node.toValue : Node → Value
  | .value v => v
  | .table _ entries => .table (entriesToValues entries)
  | .tables items => .array (itemsToValues items)

def entriesToValues : List (String × Node) → List (String × Value)
  | [] => []
  | (key, node) :: rest => (key, node.toValue) :: entriesToValues rest

def itemsToValues : List Node → List Value
  | [] => []
  | node :: rest => node.toValue :: itemsToValues rest

end

/-! ## Documents -/

/-- A document in progress: the finished tables, and the one that lines are added to. -/
structure Draft where
  root : Branch
  current : Branch
  /-- Where the current table belongs; the root table belongs to the empty path. -/
  path : List String
  isItem : Bool

namespace Draft

def start : Draft := ⟨.empty .defined, .empty .defined, [], false⟩

/-- Add a line to the current table. -/
def addEntry (d : Draft) (key : List String) (v : Value) : Option Draft := do
  let name ← key.getLast?
  return { d with current := ← d.current.addEntry key.dropLast name v }

/-- Put the current table where it belongs. -/
def finish (d : Draft) : Option Branch :=
  match d.path.getLast? with
  | none => some d.current
  | some key =>
    d.root.update false (fun parent =>
      if d.isItem then
        match parent.entries.lookup key with
        | none => some (parent.put key (.tables [d.current.node]))
        | some (.tables items) => some (parent.put key (.tables (items ++ [d.current.node])))
        | some _ => none
      -- A table that was only passed on the way was taken out when this one was started.
      else if parent.entries.any (·.1 = key) then none
      else some (parent.put key d.current.node)) d.path.dropLast

/-- The entry under a path of headers, if the path leads to one. -/
def find? (b : Branch) : List String → Option Node
  | [] => some b.node
  | key :: path =>
    match b.entries.lookup key with
    | some (.table origin entries) => find? ⟨origin, entries⟩ path
    | some (.tables items) =>
      match path, items.getLast? with
      | [], _ => some (.tables items)
      | path, some (.table origin entries) => find? ⟨origin, entries⟩ path
      | _, _ => none
    | some (.value v) => if path = [] then some (.value v) else none
    | none => none

/-- Start the table of a header: one that is new, or that was only passed on the way to another. -/
def startTable (d : Draft) (path : List String) : Option Draft := do
  let root ← d.finish
  let key ← path.getLast?
  match find? root path with
  | none =>
    -- Nothing is changed at the end of the path; the tables that lead there are made.
    let root ← root.update false some path.dropLast
    return ⟨root, .empty .defined, path, false⟩
  | some (.table .passed entries) =>
    let root ← root.update false (fun parent => some (parent.remove key)) path.dropLast
    return ⟨root, ⟨.defined, entries⟩, path, false⟩
  | some _ => none

/-- Start the next table of an array of tables. -/
def startItem (d : Draft) (path : List String) : Option Draft := do
  let root ← d.finish
  let root ← root.update false some path.dropLast
  match find? root path with
  | none | some (.tables _) => return ⟨root, .empty .defined, path, true⟩
  | some _ => none

end Draft

end ForwardPass.Toml

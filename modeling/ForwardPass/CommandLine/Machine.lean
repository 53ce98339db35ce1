import ForwardPass.CommandLine.Host

/-!
# Machines

A host whose state is a value: the files of a working directory, an environment, what can be read from
the standard input, and what was printed. A directory is there as soon as a file is in it. Outside of the
working directory there are the directories above it, those that every machine has, and the devices of
the standard streams.
-/

namespace ForwardPass

structure Machine where
  /-- The files of the working directory, by their paths in it. -/
  files : List (List String × String) := []
  environment : List (String × String) := []
  input : String := ""
  output : String := ""
  errors : String := ""
deriving DecidableEq, Repr, Inhabited

namespace Machine

/-- What a path leads to. -/
inductive Found where
  | file (content : String)
  | directory
  | nothing
deriving DecidableEq, Repr

/-! ## Places -/

/-- The parts of a path that lead somewhere. -/
def parts (path : String) : List String :=
  (path.splitOn "/").filter fun part => part ≠ "" ∧ part ≠ "."

/-- The steps along a path, of which a dot stays where it is. -/
def pathSteps (path : String) : List String := (path.splitOn "/").filter (· ≠ "")

/-- The directory that holds all others. Other places count from the working directory. -/
def top : List String := ["/"]

/-- The directories that every machine has. -/
def commonDirectories : List String :=
  ["bin", "boot", "dev", "etc", "home", "lib", "media", "mnt", "opt", "proc", "root", "run", "sbin", "srv",
    "sys", "tmp", "usr", "var"]

/-- Files that are no text of their own. -/
inductive Device where
  /-- Always empty. -/
  | empty
  /-- Never has space for more. -/
  | full
  | input
  | output
  | errors
deriving DecidableEq, Repr

/-- The devices by their names. -/
def devices : List (String × Device) :=
  [("null", .empty), ("full", .full), ("stdin", .input), ("stdout", .output), ("stderr", .errors)]

/-- The device at a place. -/
def device? (place : List String) : Option Device :=
  devices.findSome? fun (name, device) => if place = top ++ ["dev", name] then some device else none

/-- Whether there is a directory at a place that no file of the machine is in. -/
def isBareDirectory (place : List String) : Bool :=
  place.all (· = "..") || place = top || commonDirectories.any fun name => place = top ++ [name]

/-- The place above another. -/
def above (place : List String) : List String :=
  if place = top then top
  else if place.all (· = "..") then ".." :: place
  else place.dropLast

/-- What is at a place. -/
def look (m : Machine) (place : List String) : Found :=
  match m.files.lookup place with
  | some content => .file content
  | none =>
    match device? place with
    | some .input => .file m.input
    | some _ => .file ""
    | none =>
      if isBareDirectory place ∨ m.files.any (fun f => place.isPrefixOf f.1) then .directory
      else .nothing

/-! ## Paths -/

/-- The most bytes in a name. -/
def maxNameBytes : Nat := 255

/-- The most bytes in a path. -/
def maxPathBytes : Nat := 4095

/-- One step along a path, which starts from a directory. -/
def walk (m : Machine) (place : List String) (step : String) : Except FileDefect (List String) :=
  match m.look place with
  | .file _ => .error .notDirectory
  | .nothing => .error .notFound
  | .directory =>
    if step = "." then .ok place
    else if step = ".." then .ok (above place)
    else if step.utf8ByteSize > maxNameBytes then .error .nameTooLong
    else .ok (place ++ [step])

/-- The place a path leads to. -/
def locate (m : Machine) (path : String) : Except FileDefect (List String) :=
  if path.toList.contains '\x00' then .error .nullInName
  else if path.isEmpty then .error .notFound
  else if path.utf8ByteSize > maxPathBytes then .error .nameTooLong
  else (pathSteps path).foldlM m.walk (if path.startsWith "/" then top else [])

/-! ## Files -/

/-- The text of a file. -/
def contents (m : Machine) (path : String) : Except FileDefect String := do
  match m.look (← m.locate path) with
  | .file content => if path.endsWith "/" then throw .notDirectory else return content
  | .directory => throw .isDirectory
  | .nothing => throw .notFound

/-- The machine once a file was read; what the standard input held is gone if it was read as a file. -/
def afterReading (m : Machine) (path : String) : Machine :=
  match m.locate path, m.contents path with
  | .ok place, .ok _ => if device? place = some .input then { m with input := "" } else m
  | _, _ => m

/-- With a file that has the given text. -/
def store (m : Machine) (place : List String) (content : String) : Machine :=
  { m with files := (place, content) :: m.files.filter (·.1 ≠ place) }

/-- With an empty file. -/
def createFile (m : Machine) (path : String) : Except FileDefect Machine := do
  let place ← m.locate path
  -- A device is opened as it is; any other file is emptied.
  if m.look place = .directory ∨ path.endsWith "/" then throw .isDirectory
  else if (device? place).isSome then return m
  else return m.store place ""

/-- With more text at the end of a file, or written to a device. -/
def append (m : Machine) (path text : String) : Except FileDefect Machine := do
  let place ← m.locate path
  let content ← m.contents path
  match device? place with
  | some .output => return { m with output := m.output ++ text }
  | some .errors => return { m with errors := m.errors ++ text }
  | some .full => throw .noSpace
  | some _ => return m
  | none => return m.store place (content ++ text)

/-- Go on as the machine that came out, if one did. -/
def adopt (result : Except FileDefect Machine) : StateM Machine (Except FileDefect Unit) :=
  match result with
  | .ok m => do
    set m
    return .ok ()
  | .error e => return .error e

instance : Host (StateM Machine) where
  environment := return (← get).environment
  readFile path := do
    let result := (← get).contents path
    modify (·.afterReading path)
    return result
  createFile path := do adopt ((← get).createFile path)
  append path text := do adopt ((← get).append path text)
  readInput := return (← get).input
  print text := modify fun m => { m with output := m.output ++ text }
  printError text := modify fun m => { m with errors := m.errors ++ text }

end Machine

end ForwardPass

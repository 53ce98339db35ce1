import ForwardPass.Settings

/-!
# Arguments

The options of the command line. An option has a long name or a letter or both; letters may share one
dash, and the value of an option follows it directly, behind an equals sign, or as the next argument.
No option may be given twice.
-/

namespace ForwardPass

/-- Options without a value. -/
inductive Flag where
  | step
  | quiet
  | graph
  | records
deriving DecidableEq, Repr

/-- Options with a value. -/
inductive Parameter where
  | network
  | config
  | traceFile
  | weights
deriving DecidableEq, Repr

inductive Switch where
  | flag (f : Flag)
  | parameter (p : Parameter)
deriving DecidableEq, Repr

namespace Switch

def ofLetter? : Char → Option Switch
  | 'n' => some (.parameter .network)
  | 'c' => some (.parameter .config)
  | 's' => some (.flag .step)
  | 'q' => some (.flag .quiet)
  | 'g' => some (.flag .graph)
  | 'w' => some (.parameter .weights)
  | _ => none

def ofName? : String → Option Switch
  | "network" => some (.parameter .network)
  | "config" => some (.parameter .config)
  | "step" => some (.flag .step)
  | "quiet" => some (.flag .quiet)
  | "trace-file" => some (.parameter .traceFile)
  | "graph" => some (.flag .graph)
  | "weights" => some (.parameter .weights)
  | "records" => some (.flag .records)
  | _ => none

end Switch

/-- What the arguments ask for. -/
structure Arguments where
  overrides : Settings.Overrides := {}
  /-- The configuration file. -/
  config : Option String := none
  /-- Print the records of the run. -/
  records : Bool := false
deriving DecidableEq, Repr, Inhabited

/-- Why arguments cannot be understood. -/
inductive UsageDefect where
  | unknownOption (text : String)
  | unexpected (argument : String)
  | unexpectedValue (name value : String)
  | noValue
  | repeated
deriving DecidableEq, Repr

def UsageDefect.message : UsageDefect → String
  | .unknownOption text => "unknown option '" ++ text ++ "'"
  | .unexpected argument => "unexpected argument '" ++ argument ++ "'"
  | .unexpectedValue name value => "option '" ++ name ++ "' takes no value, got '" ++ value ++ "'"
  | .noValue => "an option lacks its value"
  | .repeated => "an option is given twice"

namespace Arguments

/-- Turn a flag on. -/
def raise (a : Arguments) (f : Flag) : Except UsageDefect Arguments :=
  let o := a.overrides
  let once (given : Bool) (result : Arguments) : Except UsageDefect Arguments :=
    if given then .error .repeated else .ok result
  match f with
  | .step => once o.step { a with overrides := { o with step := true } }
  | .quiet => once o.quiet { a with overrides := { o with quiet := true } }
  | .graph => once o.graph { a with overrides := { o with graph := true } }
  | .records => once a.records { a with records := true }

/-- Give a parameter its value. -/
def set (a : Arguments) (p : Parameter) (value : String) : Except UsageDefect Arguments :=
  let o := a.overrides
  let once (given : Option String) (result : Arguments) : Except UsageDefect Arguments :=
    if given.isSome then .error .repeated else .ok result
  match p with
  | .network => once o.network { a with overrides := { o with network := some value } }
  | .config => once a.config { a with config := some value }
  | .traceFile => once o.traceFile { a with overrides := { o with traceFile := some value } }
  | .weights => once o.weights { a with overrides := { o with weights := some value } }

/-- What the next argument may be. -/
inductive Expectation where
  | anything
  /-- The value of a parameter. -/
  | value (p : Parameter)
  /-- Not an option any more. -/
  | operand
deriving DecidableEq, Repr

/-- The arguments read so far, and what may come next. -/
abbrev Progress : Type := Arguments × Expectation

/-- Read the letters behind one dash. -/
def readLetters (a : Arguments) : List Char → Except UsageDefect Progress
  | [] => .ok (a, .anything)
  | c :: rest =>
    match Switch.ofLetter? c with
    | none => .error (.unknownOption (String.ofList [c]))
    | some (.flag f) => do readLetters (← a.raise f) rest
    | some (.parameter p) =>
      match rest with
      | [] => .ok (a, .value p)
      -- The rest of the argument is the value, so no further letters follow.
      | '=' :: value => do return (← a.set p (String.ofList value), .anything)
      | value => do return (← a.set p (String.ofList value), .anything)

/-- Read a long option, without its dashes. -/
def readName (a : Arguments) (cs : List Char) : Except UsageDefect Progress :=
  let name := String.ofList (cs.takeWhile (· ≠ '='))
  let value := match cs.dropWhile (· ≠ '=') with
    | [] => none
    | _ :: value => some (String.ofList value)
  match Switch.ofName? name, value with
  | none, _ => .error (.unknownOption name)
  | some (.flag f), none => do return (← a.raise f, .anything)
  | some (.flag _), some value => .error (.unexpectedValue name value)
  | some (.parameter p), none => .ok (a, .value p)
  | some (.parameter p), some value => do return (← a.set p value, .anything)

/-- Read one argument. An argument that could be an option is never a value; a lone dash could not. -/
def read : Progress → String → Except UsageDefect Progress
  | (a, .anything), argument =>
    match argument.toList with
    | ['-', '-'] => .ok (a, .operand)
    | '-' :: '-' :: cs => a.readName cs
    | '-' :: c :: cs => a.readLetters (c :: cs)
    | _ => .error (.unexpected argument)
  | (a, .value p), argument =>
    match argument.toList with
    | '-' :: _ :: _ => .error .noValue
    | _ => do return (← a.set p argument, .anything)
  | (_, .operand), argument => .error (.unexpected argument)

/-- What a list of arguments asks for. -/
def parse (arguments : List String) : Except UsageDefect Arguments := do
  match ← arguments.foldlM read ({}, .anything) with
  | (_, .value _) => throw .noValue
  | (a, _) => return a

end Arguments

end ForwardPass

import ForwardPass.CommandLine.Arguments
import ForwardPass.CommandLine.Machine
import ForwardPass.Description.Reader
import ForwardPass.Session.Report
import ForwardPass.Settings

/-!
# The command line

The whole program on any host: settings are loaded and checked, the network is read and built, a session
runs it, and its output, records and summary are printed. What stops the program decides its exit code.
-/

namespace ForwardPass

/-- What kind of value a refusal is about. -/
inductive RefusalKind where
  | data
  | input
deriving DecidableEq, Repr

/-- What ends the program before it is done. -/
inductive Stop where
  | usage (defect : UsageDefect)
  | refused (kind : RefusalKind) (message : String)
  | file (defect : FileDefect)
  | fault (fault : Fault)
deriving DecidableEq, Repr

namespace Stop

def exitCode : Stop → UInt32
  | .usage _ => 2
  | .refused _ _ | .file _ => 1
  | .fault _ => 101

/-- What is printed about it. -/
def report : Stop → String
  | .usage defect => "error: " ++ defect.message ++ "\n"
  | .refused kind message =>
    let kind := match kind with
      | .data => "InvalidData"
      | .input => "InvalidInput"
    "Error: Custom \x7b kind: " ++ kind ++ ", error: " ++ Quoted.display message ++ " \x7d\n"
  | .file defect => "Error: " ++ defect.describe ++ "\n"
  | .fault _ => "internal fault\n"

def ofFailure : Failure → Stop
  | .error e => .refused .input e.message
  | .fault f => .fault f

end Stop

namespace CommandLine

variable {m : Type → Type} [Monad m] [Host m]

/-- Go on with a result, or stop. -/
def orStop {ε β : Type} (stop : ε → Stop) (r : Except ε β) : ExceptT Stop m β :=
  ExceptT.mk (pure (r.mapError stop))

/-! ## Settings -/

/-- The first of some files that can be read. -/
def firstFile? : List (String × Settings.Format) → m (Option Settings.ConfigFile)
  | [] => return none
  | (path, format) :: rest => do
    match ← Host.readFile path with
    | .ok text => return some ⟨format, text⟩
    | .error _ => firstFile? rest

/-- A configuration file, the ending of whose name may be left out. -/
def readConfig (path : String) : ExceptT Stop m Settings.ConfigFile := do
  match ← Host.readFile path with
  | .ok text =>
    match Settings.ConfigFile.format? path with
    | some format => return ⟨format, text⟩
    | none => throw (.refused .input "configuration error: unknown file format")
  | .error _ =>
    match ← firstFile? (Settings.ConfigFile.candidates path) with
    | some file => return file
    | none => throw (.refused .input "configuration error: file not found")

/-- The settings that the arguments, the environment and a configuration file make. -/
def loadSettings (a : Arguments) : ExceptT Stop m Settings := do
  let file ← match a.config with
    | some path => some <$> readConfig path
    | none => pure none
  match Settings.load file (← Host.environment) with
  | .ok s => return s.override a.overrides
  | .error .malformed => throw (.refused .input "configuration error: invalid settings")
  | .error .unnamedKey => throw (.fault .unnamedKey)

/-! ## Sessions -/

/-- The lines of a text; the last may lack its line end. -/
def lines (text : String) : List String :=
  match (text.splitOn "\n").reverse with
  | "" :: rest => rest.reverse
  | rest => rest.reverse

/-- A session over the network of the settings. -/
def openSession (s : Settings) : ExceptT Stop m (Session Float32) := do
  let plan ← orStop (fun e => .refused .input e.message) s.plan
  let text ← orStop .file (← Host.readFile s.network.file)
  let some description := Description.parse? text
    | throw (.refused .input "network description error")
  let refuse := fun (e : EngineError) => Stop.refused .input e.message
  let network ← orStop refuse (description.network plan.weights)
  let session ← orStop refuse (Session.start plan network description.sampleInput)
  if let some path := plan.traceFile then orStop .file (← Host.createFile path)
  return session

/-- Write something to one of the standard streams or to the trace. -/
def write (traceFile : Option String) : Writing → ExceptT Stop m Unit
  | .output text => Host.print text
  | .errors text => Host.printError text
  | .trace line => do
    if let some path := traceFile then orStop .file (← Host.append path (line ++ "\n"))

/-- Run a session on the standard streams, and write its trace. -/
def runSession (s : Session Float32) : ExceptT Stop m (Session Float32) := do
  let pending ← if s.plan.stepping && s.plan.mode = .layers then lines <$> Host.readInput else pure []
  let (result, s) : Except Failure Unit × Session Float32 :=
    match Session.execute { s with console := { s.console with pending } } with
    | .ok () s => (.ok (), s)
    | .error failure s => (.error failure, s)
  s.console.written.toList.forM (write s.plan.traceFile)
  orStop .ofFailure result
  return s

/-- Print what a session came to. -/
def report (withRecords : Bool) (s : Session Float32) : ExceptT Stop m Unit := do
  if let some t := s.output then
    match Report.output? t 0 with
    | some text => Host.print text
    | none => throw (.fault .outOfRange)
  if withRecords then Host.print (Report.records s.records.toList)
  Host.print (Report.summary s.summary)

/-! ## The program -/

/-- The program up to its end or what stops it. -/
def program (arguments : List String) : ExceptT Stop m Unit := do
  let a ← orStop .usage (Arguments.parse arguments)
  let s ← loadSettings a
  orStop (fun e => .refused .data e.message) s.validate
  let session ← openSession s
  report a.records (← runSession session)

/-- Run the program; the result is its exit code. -/
def run (arguments : List String) : m UInt32 := do
  match ← (program arguments).run with
  | .ok () => return 0
  | .error stop =>
    Host.printError stop.report
    return stop.exitCode

/-- Run the program on a machine; its exit code, and the machine it leaves. -/
def runOn (machine : Machine) (arguments : List String) : UInt32 × Machine :=
  (run arguments : StateM Machine UInt32).run machine

end CommandLine

end ForwardPass

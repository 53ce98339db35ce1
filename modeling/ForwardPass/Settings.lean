import ForwardPass.Session
import ForwardPass.Settings.Environment
import ForwardPass.Settings.Format
import ForwardPass.Text.Blank

/-!
# Settings

What a run is told from outside: how to run, which network, and on which hardware blocks. Defaults, a
configuration file and the environment are layered in this order; options of the command line override
the result. `validate` refuses settings that cannot lead to a run, and `plan` makes of them what a
session needs. Each has tables of its own for the names that it knows.
-/

namespace ForwardPass

structure SimulationSettings where
  quiet : Bool := false
  stepMode : Bool := false
  /-- Empty for no trace. -/
  traceFile : String := ""
  mode : String := "layers"
deriving DecidableEq, Repr, Inhabited

structure NetworkSettings where
  file : String := ""
  weights : String := "fixed"
deriving DecidableEq, Repr, Inhabited

structure Settings where
  simulation : SimulationSettings := {}
  network : NetworkSettings := {}
  device : Blocks := {}
deriving DecidableEq, Repr, Inhabited

namespace Settings

/-! ## Loading -/

namespace Tree

/-- The fields of a section: a table, or an array with the fields in a fixed order. -/
def fields? (keys : List String) : Tree → Option (List (String × Tree))
  | .table entries => some entries
  | .array items => some (keys.zip items)
  | _ => none

/-- The field under a key, or a default if there is none. -/
def fieldOr {β : Type} (fields : List (String × Tree)) (key : String) (read? : Tree → Option β)
    (default : β) : Option β :=
  match fields.lookup key with
  | some v => read? v
  | none => some default

/-- The simulation section that a tree holds. -/
def simulation? (t : Tree) : Option SimulationSettings := do
  let fields ← t.fields? ["quiet", "step_mode", "trace_file", "mode"]
  let default : SimulationSettings := {}
  return {
    quiet := ← fieldOr fields "quiet" switch? default.quiet
    stepMode := ← fieldOr fields "step_mode" switch? default.stepMode
    traceFile := ← fieldOr fields "trace_file" text? default.traceFile
    mode := ← fieldOr fields "mode" text? default.mode }

/-- The network section that a tree holds. -/
def network? (t : Tree) : Option NetworkSettings := do
  let fields ← t.fields? ["file", "weights"]
  let default : NetworkSettings := {}
  return {
    file := ← fieldOr fields "file" text? default.file
    weights := ← fieldOr fields "weights" text? default.weights }

/-- The device section that a tree holds. -/
def device? (t : Tree) : Option Blocks := do
  let fields ← t.fields? ["convolution_hw", "inner_product_hw"]
  let default : Blocks := {}
  return {
    convolution := ← fieldOr fields "convolution_hw" number? default.convolution
    innerProduct := ← fieldOr fields "inner_product_hw" number? default.innerProduct }

/-- The settings that a tree holds. Keys that mean nothing here are skipped. -/
def settings? (t : Tree) : Option Settings := do
  let fields := t.entries
  return {
    simulation := ← fieldOr fields "simulation" simulation? {}
    network := ← fieldOr fields "network" network? {}
    device := ← fieldOr fields "device" device? {} }

end Tree

/-- The tree of the default settings. -/
def defaults : Tree :=
  let settings : Settings := {}
  let simulation := settings.simulation
  .table [
    ("simulation", .table [
      ("quiet", .boolean simulation.quiet),
      ("step_mode", .boolean simulation.stepMode),
      ("trace_file", .text simulation.traceFile),
      ("mode", .text simulation.mode)]),
    ("network", .table [
      ("file", .text settings.network.file),
      ("weights", .text settings.network.weights)]),
    ("device", .table [
      ("convolution_hw", .integer settings.device.convolution.toNat),
      ("inner_product_hw", .integer settings.device.innerProduct.toNat)])]

/-- The settings of a configuration file, if there is one, and an environment, over the defaults. -/
def load (file : Option ConfigFile) (environment : List (String × String)) :
    Except SourceDefect Settings := do
  let entries ← match file with
    | some file => file.entries
    | none => pure []
  let settings? := do
    let t ← defaults.layer entries
    -- The environment comes last, so that it wins over the file.
    (← t.layer (Environment.settings environment)).settings?
  match settings? with
  | some s => return s
  | none => throw .malformed

/-! ## Overriding -/

/-- What the command line says about the settings. -/
structure Overrides where
  quiet : Bool := false
  step : Bool := false
  graph : Bool := false
  traceFile : Option String := none
  network : Option String := none
  weights : Option String := none
deriving DecidableEq, Repr, Inhabited

/-- The settings with what the command line says. -/
def override (s : Settings) (o : Overrides) : Settings :=
  { s with
    simulation :=
      { quiet := o.quiet || s.simulation.quiet
        stepMode := o.step || s.simulation.stepMode
        traceFile := o.traceFile.getD s.simulation.traceFile
        mode := if o.graph then "graph" else s.simulation.mode }
    network :=
      { file := o.network.getD s.network.file
        weights := o.weights.getD s.network.weights } }

/-! ## Validating -/

/-- Why settings cannot lead to a run. Names are those in lower case. -/
inductive Defect where
  | mode (name : String)
  | weights (name : String)
  | noNetwork
  | sharedBlock (block : BlockId)
deriving DecidableEq, Repr

def Defect.message : Defect → String
  | .mode name => "unsupported simulation mode: " ++ name
  | .weights name => "unsupported weight init: " ++ name
  | .noNetwork =>
    "network file cannot be empty, please specify it through the configuration file or CLI parameters"
  | .sharedBlock block =>
    "convolution and inner-product blocks share hw id " ++ describeHex block.toNat

/-- Check the name of a mode, in letters of any case. -/
def checkMode (name : String) : Except Defect Unit :=
  match lowerCase name with
  | "layers" | "graph" => .ok ()
  | other => .error (.mode other)

/-- Check the name of a way to fill weights, in letters of any case. -/
def checkWeights (name : String) : Except Defect Unit :=
  match lowerCase name with
  | "fixed" | "zeros" => .ok ()
  | other => .error (.weights other)

/-- Check the settings; of several defects the first counts. -/
def validate (s : Settings) : Except Defect Unit := do
  checkMode s.simulation.mode
  checkWeights s.network.weights
  if (trim s.network.file.toList).isEmpty then throw .noNetwork
  if s.device.convolution = s.device.innerProduct then throw (.sharedBlock s.device.convolution)

/-! ## Planning -/

/-- A name that means nothing to a plan, in lower case. -/
inductive UnknownName where
  | mode (name : String)
  | weights (name : String)
deriving DecidableEq, Repr

def UnknownName.message : UnknownName → String
  | .mode name => "Unknown simulation mode: " ++ name
  | .weights name => "Unknown weight init: " ++ name

/-- The mode of a name, in letters of any case. -/
def readMode (name : String) : Except UnknownName RunMode :=
  match lowerCase name with
  | "layers" => .ok .layers
  | "graph" => .ok .graph
  | other => .error (.mode other)

/-- The way to fill weights of a name, in letters of any case. -/
def readWeights (name : String) : Except UnknownName WeightFill :=
  match lowerCase name with
  | "fixed" => .ok .pattern
  | "zeros" => .ok .zeros
  | other => .error (.weights other)

/-- How a session runs under the settings. -/
def plan (s : Settings) : Except UnknownName RunPlan := do
  let mode ← readMode s.simulation.mode
  let weights ← readWeights s.network.weights
  return {
    mode, weights
    quiet := s.simulation.quiet
    stepping := s.simulation.stepMode
    traceFile := if s.simulation.traceFile.isEmpty then none else some s.simulation.traceFile
    blocks := s.device }

end Settings

end ForwardPass

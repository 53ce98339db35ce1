import ForwardPass.Dataflow.Lowering
import ForwardPass.Description
import ForwardPass.Network.Pass
import ForwardPass.Session.Record
import ForwardPass.Session.StepCommand
import ForwardPass.Session.TypedLine

/-!
# Sessions

A session runs one network on one input: layer by layer, under the control of a step shell if asked for,
or as a dataflow graph. It keeps records of what it did, appends them to its trace, and holds the output
of the last run that finished. The session is the state, so that a run that fails shows how far it came.
-/

namespace ForwardPass

inductive RunMode where
  /-- The layers one after the other, in two shared buffers. -/
  | layers
  /-- The layers as operators of a dataflow graph. -/
  | graph
deriving DecidableEq, Repr, Inhabited

/-- The mode as settings and reports name it. -/
def RunMode.name : RunMode → String
  | .layers => "layers"
  | .graph => "graph"

/-- How a session is to run. -/
structure RunPlan where
  mode : RunMode := .layers
  quiet : Bool := false
  /-- Let a shell decide when the next layer runs; graphs run through. -/
  stepping : Bool := false
  traceFile : Option String := none
  weights : WeightFill := .pattern
  blocks : Blocks := {}
deriving DecidableEq, Repr, Inhabited

/-- Something that was written, and where. -/
inductive Writing where
  | output (text : String)
  | errors (text : String)
  /-- A line of the trace, without its line end. -/
  | trace (line : String)
deriving DecidableEq, Repr, Inhabited

/-- The line of the trace, if it is one. -/
def Writing.traceLine? : Writing → Option String
  | .trace line => some line
  | _ => none

/-- What a session reads and writes. -/
structure Console where
  /-- Lines that were not read yet. -/
  pending : List String := []
  /-- What was written, in its order. -/
  written : Array Writing := #[]
deriving DecidableEq, Repr, Inhabited

/-- With more that was written. -/
def Console.write (c : Console) (w : Array Writing) : Console := { c with written := c.written ++ w }

structure Session (α : Type) where
  plan : RunPlan
  run : Run α
  input : Tensor α
  records : Array Record := #[]
  /-- Layers, or operators, completed. -/
  completed : Nat := 0
  /-- Records that are in the trace. -/
  traced : Nat := 0
  output : Option (Tensor α) := none
  console : Console := {}

namespace Session

variable {α : Type} [Scalar α]

/-- A session with its input loaded. -/
def start (plan : RunPlan) (network : Network α) (input : Tensor α) :
    Except EngineError (Session α) := do
  let pass ← (Pass.start network).load input
  return { plan, run := ⟨pass, {}⟩, input }

/-! ## Records and console -/

omit [Scalar α] in
/-- Take a record stamped with the layers completed. -/
def record (s : Session α) (action subject : String) : Session α :=
  { s with records := s.records.push ⟨s.completed, action, subject⟩ }

omit [Scalar α] in
def write (s : Session α) (w : Array Writing) : Session α := { s with console := s.console.write w }

omit [Scalar α] in
/-- The lines of the trace. -/
def trace (s : Session α) : Array String := s.console.written.filterMap Writing.traceLine?

omit [Scalar α] in
/-- Append to the trace, if there is one, the records it does not have yet. -/
def writeTrace (s : Session α) : Session α :=
  let fresh := s.records.extract s.traced s.records.size
  let lines := fresh.map fun r => Writing.trace r.traceLine
  { s.write (if s.plan.traceFile.isSome then lines else #[]) with traced := s.records.size }

omit [Scalar α] in
def print (s : Session α) (text : String) : Session α := s.write #[.output text]

omit [Scalar α] in
def printError (s : Session α) (text : String) : Session α := s.write #[.errors text]

omit [Scalar α] in
def isDone (s : Session α) : Bool := s.run.pass.isDone

/-! ## Layer by layer -/

/-- Run the next layer. -/
def step : EStateM Failure (Session α) Unit := fun s =>
  let name := match s.run.pass.network.stages[s.run.pass.next]? with
    | some stage => stage.layer.name
    | none => s.run.pass.network.name
  match Pass.step s.plan.blocks s.run with
  | .error failure run => .error failure { s with run }
  | .ok live run =>
    let s := { s with run, completed := s.completed + 1 }
    .ok () (s.record "layer" (name ++ " -> " ++ live.describe)).writeTrace

/-- Run `count` layers, or as many as are left. -/
def steps : Nat → EStateM Failure (Session α) Unit
  | 0 => pure ()
  | count + 1 => do
    if (← get).isDone then return
    step
    steps count

omit [Scalar α] in
/-- Take the output of a pass whose layers have all run. -/
def finish : EStateM Failure (Session α) Unit := fun s =>
  match s.run.pass.output with
  | .error failure => .error failure s
  | .ok output =>
    let s := match s.run.pass.result with
      | some slot => s.record "result" slot.describe
      | none => s
    .ok () { s with output := some output }.writeTrace

/-- Run all layers that are left. -/
def proceed : EStateM Failure (Session α) Unit := do
  let pass := (← get).run.pass
  steps (pass.network.stages.length - pass.next)
  finish

/-- The prompt of the step shell. -/
def prompt : String := "(smiv) "

omit [Scalar α] in
/-- Announce the layer that runs next. -/
def announce (s : Session α) : Session α :=
  match s.run.pass.network.stages[s.run.pass.next]? with
  | some stage =>
    s.print ("next: layer " ++ toString s.run.pass.next ++ " (" ++ stage.layer.name ++ ")\n")
  | none => s

/-- What a line of the shell says. -/
def readCommand (line : String) : Except Failure (Except StepDefect StepCommand) :=
  match TypedLine.result? line.toList with
  | some cs => .ok (StepCommand.parse cs)
  | none => .error (.fault .splitCharacter)

/-- Obey the lines of the shell until all layers have run, a line says to quit, or the lines end. After
a line that is no command, the next line is read without a new announcement. -/
def converse (announced : Bool) : List String → EStateM Failure (Session α) Unit
  | [] => do
    if (← get).isDone then finish
    -- The lines ended: the prompt was shown, but there is nothing to obey.
    else modify fun s => (if announced then s else s.announce).print prompt
  | line :: rest => do
    if (← get).isDone then finish
    else
      modify fun s => (if announced then s else s.announce).print prompt
      -- The line is taken before it is understood, so that one that faults is taken too.
      modify fun s => { s with console := { s.console with pending := rest } }
      match readCommand line with
      | .error failure => throw failure
      | .ok (.error defect) =>
        modify (·.printError (defect.message ++ "\n"))
        converse true rest
      | .ok (.ok (.step count)) =>
        let pass := (← get).run.pass
        steps (min count (pass.network.stages.length - pass.next))
        converse false rest
      | .ok (.ok .proceed) => proceed
      | .ok (.ok .quit) => return

/-! ## Runs -/

/-- Run the network as a dataflow graph. -/
def runGraph : EStateM Failure (Session α) Unit := fun s =>
  let (graph, store) := s.run.pass.network.toGraph s.input
  -- The graph works on a store of its own; of what it did, only the ledger comes back.
  match graph.run s.plan.blocks ⟨⟨store, s.run.ledger⟩, []⟩ with
  | .error failure e => .error failure { s with run := { s.run with ledger := e.context.ledger } }
  | .ok id e =>
    let operators := graph.operators.size
    let s := { s with
      run := { s.run with ledger := e.context.ledger }
      completed := operators }
    let s := s.record "graph" (toString operators ++ " operators, output " ++ id.describe)
    match e.context.store.get id with
    | .error e => .error (.error e) s
    | .ok output => .ok () { s with output := some output }.writeTrace

/-- Run as planned. A pass that is complete is only reported once more. -/
def execute : EStateM Failure (Session α) Unit := do
  let s ← get
  match s.plan.mode with
  | .graph => runGraph
  | .layers =>
    if s.plan.stepping then
      modify (·.print "Step mode - Press Enter to run the next layer, 'q' to quit\n")
      converse false s.console.pending
    else proceed

end Session

end ForwardPass

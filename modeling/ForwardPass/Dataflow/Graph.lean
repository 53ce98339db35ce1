import ForwardPass.Dataflow.Order
import ForwardPass.Dataflow.Store
import ForwardPass.Ledger

/-!
# Running a dataflow graph

Operators run one at a time, in the order of their data dependencies, on a store of tensors and a
ledger. An operator runs only when all its inputs are there, and must leave its output there. The
operators that were started are part of the state, so that a run that fails shows how far it came.
-/

namespace ForwardPass

/-- What an operator works on. -/
structure Context (α : Type) where
  store : TensorStore α := {}
  ledger : Ledger := {}

structure Operator (α : Type) extends Wiring where
  /-- Read the inputs from the store and put the output there. -/
  run : Blocks → EStateM Failure (Context α) Unit

/-- A run of a graph: its context, and the operators started so far. -/
structure Execution (α : Type) where
  context : Context α
  started : List Nat := []

/-- The operators of a graph, in the order they were added. -/
structure Graph (α : Type) where
  operators : Array (Operator α) := #[]

namespace Graph

variable {α : Type}

/-- Add an operator; the result holds its index. -/
def add (g : Graph α) (op : Operator α) : Graph α × Nat :=
  (⟨g.operators.push op⟩, g.operators.size)

/-- The operators as the order sees them. -/
def wirings (g : Graph α) : List Wiring := g.operators.toList.map (·.toWiring)

/-- The indices of the operators in the order they run. -/
def order (g : Graph α) : Except EngineError (List Nat) := Dataflow.order g.wirings

/-- Run one operator: its inputs have to be there before, its output after. -/
def runOperator (blocks : Blocks) (index : Nat) (op : Operator α) :
    EStateM Failure (Execution α) Unit := fun e =>
  -- A missing input is found before the operator counts as started.
  match op.inputs.find? (fun id => !e.context.store.contains id) with
  | some missing => .error (.error (.unknownTensor missing)) e
  | none =>
    let started := e.started ++ [index]
    match op.run blocks e.context with
    | .error failure context => .error failure ⟨context, started⟩
    | .ok () context =>
      if context.store.contains op.output then .ok () ⟨context, started⟩
      else
        .error (.error (.invalidGraph (.nothingProduced op.name op.output))) ⟨context, started⟩

/-- Run the operators with these indices in turn; the result is the output of the last one. -/
def runAll (g : Graph α) (blocks : Blocks) :
    List Nat → Option TensorId → EStateM Failure (Execution α) (Option TensorId)
  | [], last => pure last
  | index :: rest, last =>
    match g.operators[index]? with
    | none => runAll g blocks rest last
    | some op => do
      runOperator blocks index op
      runAll g blocks rest (some op.output)

/-- Run every operator once; the result is the output of the last one. -/
def run (g : Graph α) (blocks : Blocks) : EStateM Failure (Execution α) TensorId := do
  match g.order with
  | .error e => throw (.error e)
  | .ok order =>
    match ← g.runAll blocks order none with
    | some output => return output
    | none => throw (.error (.invalidGraph .noOperators))

end Graph

end ForwardPass

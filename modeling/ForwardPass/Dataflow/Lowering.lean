import ForwardPass.Dataflow.Graph
import ForwardPass.Network

/-!
# Networks as dataflow graphs

A layer becomes an operator that reads its input, and its weights if it has any, and works in fresh
buffers of its own. A network becomes the chain of its layers over the input.
-/

namespace ForwardPass

variable {α : Type} [Scalar α]

/-- A layer as part of a graph. -/
structure LayerNode where
  layer : Layer
  images : Nat
  input : TensorId
  weights : Option TensorId
  output : TensorId
deriving DecidableEq, Repr

namespace LayerNode

/-- The buffer with the input, zeros behind it, and the weights. -/
def operands (n : LayerNode) (store : TensorStore α) : Except Failure (Array α × Array α) := do
  let input ← (store.get n.input).mapError Failure.error
  -- A graph is put together without a look at shapes, so each operator looks itself.
  if input.shape ≠ n.layer.inputs ∨ input.batch ≠ n.images then
    throw (.error (.shapeMismatch n.layer.name (.operand n.input input.batch input.shape)))
  let activations ← Buffer.put (Array.replicate (n.images * n.layer.footprint) 0) 0 input.data.toList
  match n.weights with
  | none => return (activations, #[])
  | some id =>
    let weights ← (store.get id).mapError Failure.error
    return (activations, weights.data)

omit [Scalar α] in
/-- Store a buffer as the output of the layer. -/
def publish (n : LayerNode) (data : Array α) (store : TensorStore α) :
    Except EngineError (TensorStore α) := do
  let output ← Tensor.ofPadded n.layer.name n.layer.outputs n.images data
  store.put n.output output

/-- Run the layer on the tensors of the store. -/
def run (n : LayerNode) (blocks : Blocks) : EStateM Failure (Context α) Unit := fun c =>
  match n.operands c.store with
  | .error failure => .error failure c
  | .ok (activations, weights) =>
    let result := Array.replicate (n.images * n.layer.footprint) 0
    match n.layer.run blocks weights n.images ⟨c.ledger, activations, result⟩ with
    | .error failure bench => .error failure { c with ledger := bench.ledger }
    | .ok landing bench =>
      let c := { c with ledger := bench.ledger }
      match n.publish (bench.target landing) c.store with
      | .error e => .error (.error e) c
      | .ok store => .ok () { c with store }

/-- The layer as an operator. -/
def toOperator (n : LayerNode) : Operator α :=
  { name := n.layer.name
    inputs := n.input :: n.weights.toList
    output := n.output
    run := n.run }

end LayerNode

namespace Network

/-- Add one stage behind the tensor `current`; the result holds its output. -/
def lowerStage (images : Nat) (stage : Stage α) (graph : Graph α) (store : TensorStore α)
    (current : TensorId) : Graph α × TensorStore α × TensorId :=
  let (store, weights) := match stage.weights with
    | some t => let (store, id) := store.add t; (store, some id)
    | none => (store, none)
  let (store, output) := store.reserve
  let node : LayerNode := ⟨stage.layer, images, current, weights, output⟩
  ((graph.add node.toOperator).1, store, output)

/-- The chain of the layers over `input`, and a store with the input and all weights. -/
def toGraph (n : Network α) (input : Tensor α) : Graph α × TensorStore α :=
  let (store, id) := TensorStore.add {} input
  let (graph, store, _) := n.stages.foldl
    (fun (graph, store, current) stage => lowerStage n.images stage graph store current)
    (({} : Graph α), store, id)
  (graph, store)

end Network

end ForwardPass

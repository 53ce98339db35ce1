import ForwardPass.Layer.Execution
import ForwardPass.Tensor

/-!
# Networks

A sequence of layers with their weights, checked when it is put together: consecutive layers agree on
shapes, and every layer that needs weights has as many as it needs.
-/

namespace ForwardPass

/-- A layer with its weights, if it has any. -/
structure Stage (α : Type) where
  layer : Layer
  weights : Option (Tensor α)

/-- The weights of a stage as a flat buffer. -/
def Stage.weightData {α : Type} (s : Stage α) : Array α :=
  match s.weights with
  | some t => t.data
  | none => #[]

structure Network (α : Type) where
  name : String
  images : Nat
  stages : List (Stage α)
  stages_ne_nil : stages ≠ []

namespace Network

variable {α : Type}

/-- The first layer that does not take what the one before it produces, as an error. -/
def checkChain : List Layer → Except EngineError Unit
  | first :: second :: rest =>
    if first.outputs ≠ second.inputs then
      .error (.shapeMismatch second.name (.brokenChain second.inputs first.name first.outputs))
    else checkChain (second :: rest)
  | _ => .ok ()

/-- Whether a layer has the weights it needs. -/
def checkWeights (stage : Stage α) : Except EngineError Unit :=
  match stage.weights with
  | none => if stage.layer.hasWeights then .error (.missingWeights stage.layer.name) else .ok ()
  | some t =>
    if t.data.size ≠ stage.layer.weightsSize then
      .error (.shapeMismatch stage.layer.name (.weightCount t.data.size stage.layer.weightsSize))
    else .ok ()

/-- Put a network together from its layers and one entry of weights for each. -/
def ofLayers (name : String) (images : Nat) (layers : List Layer)
    (weights : List (Option (Tensor α))) : Except EngineError (Network α) :=
  if layers = [] then .error (.shapeMismatch name .noLayers)
  else if weights.length ≠ layers.length then
    .error (.shapeMismatch name (.weightEntries weights.length layers.length))
  else do
    checkChain layers
    let stages := List.zipWith Stage.mk layers weights
    -- Shapes come before weights: a broken chain is reported even when weights are missing too.
    stages.forM checkWeights
    if h : stages ≠ [] then return ⟨name, images, stages, h⟩
    else throw (.shapeMismatch name .noLayers)

/-- The layers, in the order they run. -/
def layers (n : Network α) : List Layer := n.stages.map (·.layer)

/-- The shape of one image the network takes. -/
def inputShape (n : Network α) : Shape := (n.stages.head n.stages_ne_nil).layer.inputs

/-- The shape of one image the network produces. -/
def outputShape (n : Network α) : Shape := (n.stages.getLast n.stages_ne_nil).layer.outputs

/-- Elements of each of the two buffers a pass works in: room for the largest layer. -/
def bufferSize (n : Network α) : Nat :=
  n.images * (n.layers.foldl (fun most l => max most l.footprint) 0)

end Network

end ForwardPass

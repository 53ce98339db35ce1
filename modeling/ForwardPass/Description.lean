import ForwardPass.Network

/-!
# Network descriptions

A network as its author writes it: the input, and for each layer only what cannot be derived from the
layer before. `layers` threads the shapes from the input on; `network` fills the weights by a
deterministic pattern, or with zeros.
-/

namespace ForwardPass

/-- One layer of a description; a layer without a name is named for its kind and position. -/
inductive LayerDescription where
  | conv (name : Option String) (fieldSize stride padding kernels : Nat) (activation : Activation)
  | fc (name : Option String) (outputs : Nat) (activation : Activation)
  | pool (name : Option String) (fieldSize stride : Nat) (pooling : Pooling)
deriving DecidableEq, Repr

/-- The input of a network: one image of `height` planes. -/
structure InputDescription where
  rows : Nat
  cols : Nat
  height : Nat := 1
deriving DecidableEq, Repr

structure Description where
  name : String
  images : Nat := 1
  input : InputDescription
  layers : List LayerDescription
deriving DecidableEq, Repr

/-- How the weights of a network are filled. -/
inductive WeightFill where
  | pattern
  | zeros
deriving DecidableEq, Repr, Inhabited

/-! ## Layers -/

/-- The layer with the given input, as number `index` of its network. -/
def LayerDescription.layer (d : LayerDescription) (index : Nat) (inputs : Shape) :
    Except EngineError Layer :=
  match d with
  | .conv name fieldSize stride padding kernels activation =>
    Layer.convolution (name.getD ("conv" ++ toString index)) inputs fieldSize stride padding kernels
      activation
  | .fc name outputs activation =>
    .ok (.innerProduct (name.getD ("fc" ++ toString index)) inputs outputs activation)
  | .pool name fieldSize stride pooling =>
    Layer.poolingLayer (name.getD ("pool" ++ toString index)) inputs fieldSize stride pooling

namespace Description

def inputShape (d : Description) : Shape := .aligned d.input.rows d.input.cols d.input.height

/-- The layers from number `index` on, each reading what the one before produces. -/
def layersFrom (index : Nat) (inputs : Shape) : List LayerDescription → Except EngineError (List Layer)
  | [] => .ok []
  | d :: rest => do
    let layer ← d.layer index inputs
    return layer :: (← layersFrom (index + 1) layer.outputs rest)

def layerList (d : Description) : Except EngineError (List Layer) :=
  layersFrom 0 d.inputShape d.layers

/-! ## Networks -/

variable {α : Type} [Scalar α]

/-- The weights of a layer, if it needs any. -/
def weightsFor (fill : WeightFill) (l : Layer) : Option (Tensor α) :=
  if l.hasWeights then
    -- A convolution has one batch entry for each kernel, an inner product a single matrix.
    let batch := if l.kind = .convolution then l.kernelCount else 1
    let zeros := Tensor.zeros (l.name ++ ".weights") l.weights batch
    some (match fill with
      | .pattern => zeros.fill patternValue
      | .zeros => zeros)
  else none

/-- The network that is described. -/
def network (d : Description) (fill : WeightFill) : Except EngineError (Network α) := do
  let layers ← d.layerList
  Network.ofLayers d.name d.images layers (layers.map (weightsFor fill))

/-- A batch of images the network takes, with small values that are not negative. -/
def sampleInput (d : Description) : Tensor α :=
  (Tensor.zeros "input" d.inputShape d.images).fill fun i => Scalar.abs (patternValue (i + 3))

end Description

end ForwardPass

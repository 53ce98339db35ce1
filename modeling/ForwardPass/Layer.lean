import ForwardPass.Activation
import ForwardPass.Convolution.Schedule

/-!
# Layers

The configuration of one layer. The three constructors derive the shapes of output and weights from
the input, and refuse a window that does not fit. The fields stay open: what a layer may hold beyond
the constructors' promises is checked again where it runs.
-/

namespace ForwardPass

inductive LayerKind where
  | convolution
  | innerProduct
  | pooling
deriving DecidableEq, Repr, Inhabited

structure Layer where
  name : String
  kind : LayerKind
  /-- Shape of one image the layer receives. -/
  inputs : Shape
  /-- Shape of one image the layer produces. -/
  outputs : Shape
  /-- Convolution: one kernel, of which there are `outputs.height`. Inner product: one row per input
  element and a last row for the bias. -/
  weights : Shape
  fieldSize : Nat
  stride : Nat
  /-- Zeros around each plane before a convolution. -/
  border : Nat
  activation : Activation
  pooling : Pooling
deriving DecidableEq, Repr

namespace Layer

/-! ## Construction -/

/-- How many windows of `field` elements, `stride` apart, fit into `extent`. -/
def windowCount (layer : String) (extent field stride : Nat) : Except EngineError Nat :=
  if stride = 0 then .error (.unsupportedStride stride)
  else if field = 0 ∨ field > extent then
    .error (.shapeMismatch layer (.fieldOverExtent field extent))
  else .ok ((extent - field) / stride + 1)

/-- The shape a convolution reads: its input, inside a border if it has one. -/
def withBorder (inputs : Shape) (border : Nat) : Shape :=
  if border > 0 then inputs.bordered border else inputs

/-- A convolution by `kernels` square kernels. -/
def convolution (name : String) (inputs : Shape) (fieldSize stride border kernels : Nat)
    (activation : Activation) : Except EngineError Layer := do
  -- Only for its check of the stride; the number itself belongs to the schedule.
  let _ ← maxSumsPerFetch stride (.ofKernel fieldSize)
  let frame := withBorder inputs border
  let rows ← windowCount name frame.rows fieldSize stride
  let cols ← windowCount name frame.cols fieldSize stride
  return {
    name, inputs, fieldSize, stride, border, activation
    kind := .convolution
    outputs := .aligned rows cols kernels
    weights := .aligned fieldSize fieldSize inputs.height
    pooling := .none }

/-- A fully connected layer over every logical element of its input. -/
def innerProduct (name : String) (inputs : Shape) (outputs : Nat) (activation : Activation) : Layer :=
  { name, inputs, activation
    kind := .innerProduct
    outputs := .aligned 1 outputs 1
    weights := .aligned (inputs.logicalSize + 1) outputs 1
    fieldSize := 0
    stride := 0
    border := 0
    pooling := .none }

/-- A pooling layer over square windows. -/
def poolingLayer (name : String) (inputs : Shape) (fieldSize stride : Nat) (pooling : Pooling) :
    Except EngineError Layer := do
  let rows ← windowCount name inputs.rows fieldSize stride
  let cols ← windowCount name inputs.cols fieldSize stride
  return {
    name, inputs, fieldSize, stride, pooling
    kind := .pooling
    outputs := .aligned rows cols inputs.height
    weights := .nothing
    border := 0
    activation := .identity }

/-! ## Sizes -/

/-- The shape the convolution of this layer reads. -/
def frame (l : Layer) : Shape := withBorder l.inputs l.border

def kernelCount (l : Layer) : Nat := l.outputs.height

/-- Elements of the layer's weight buffer. -/
def weightsSize (l : Layer) : Nat :=
  match l.kind with
  | .convolution => l.kernelCount * l.weights.size
  | .innerProduct => l.weights.size
  | .pooling => 0

def hasWeights (l : Layer) : Bool := l.kind ≠ .pooling

/-- The most elements of one image the layer keeps in either shared buffer. -/
def footprint (l : Layer) : Nat := max (max l.inputs.size l.frame.size) l.outputs.size

end Layer

end ForwardPass

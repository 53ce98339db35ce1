import ForwardPass.Activation
import ForwardPass.Buffer

/-!
# Matrix product with bias

A fully connected layer: for each image the outputs start at the bias, which is the last row of the
weights, and the logical elements of the image are added in order, each times its row of the weights.
The activation is applied last. All of this happens in the row of the result that holds the outputs.
Pad lanes of the image and of the weights are not read.
-/

namespace ForwardPass.Dense

variable {α : Type} [Scalar α]

/-- The shapes of one product. -/
structure Shapes where
  input : Shape
  weights : Shape
  output : Shape
deriving DecidableEq, Repr

/-- The logical elements of one image, in the order channel, row, column. -/
def features (shape : Shape) (image : Array α) : List α :=
  shape.logicalOffsets.map fun i => image.getD i 0

/-- Add a row of the weights, times the element `x` of the image, into the outputs. -/
def addRow (x : α) (row : List α) (out : Array α) : Array α :=
  row.zipIdx.foldl (fun out (w, lane) => out.modify lane (· + x * w)) out

/-- Apply the activation to the first `count` outputs. -/
def activate (activation : Activation) (count : Nat) (out : Array α) : Array α :=
  (List.range count).foldl (fun out lane => out.modify lane activation.apply) out

/-- Work out the outputs of one image in the row that is to hold them. -/
def fillRow (shapes : Shapes) (activation : Activation) (weights bias image out : Array α) :
    Except Failure (Array α) := do
  -- Nothing is left of what the row held, and its pads stay zero.
  let out ← Buffer.put (Array.replicate out.size 0) 0 bias.toList
  let out ← (features shapes.input image).zipIdx.foldlM (fun out (x, feature) => do
    let row ← Buffer.slice weights (feature * shapes.weights.rowLanes) shapes.output.cols
    return addRow x row.toList out) out
  return activate activation shapes.output.cols out

/-- Multiply a batch of images by the weights into `result`. -/
def run (shapes : Shapes) (images : Nat) (activation : Activation)
    (activations weights result : Array α) : Except Failure (Array α) := do
  -- The bias stands behind all rows, so that with it every row of the weights is in the buffer.
  let bias ← Buffer.slice weights (shapes.input.logicalSize * shapes.weights.rowLanes)
    shapes.output.cols
  (List.range images).foldlM (fun result image => do
    let input ← Buffer.slice activations (image * shapes.input.size) shapes.input.size
    let out ← Buffer.slice result (image * shapes.output.size) shapes.output.size
    let out ← fillRow shapes activation weights bias input out
    Buffer.put result (image * shapes.output.size) out.toList) result

end ForwardPass.Dense

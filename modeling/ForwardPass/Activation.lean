import ForwardPass.Failure
import ForwardPass.Scalar

/-!
# Activation functions

The functions a layer applies to its output, element by element, and their application to the logical
elements of a padded buffer: pad lanes are left as they are.
-/

namespace ForwardPass

inductive Activation where
  | identity
  | relu
  | leakyRelu
  | elu
  | selu
  | tanh
  | sigmoid
deriving DecidableEq, Repr, Inhabited

namespace Activation

/-- The name of the function in descriptions. -/
def name : Activation → String
  | .identity => "none"
  | .relu => "relu"
  | .leakyRelu => "leaky_relu"
  | .elu => "elu"
  | .selu => "selu"
  | .tanh => "tanh"
  | .sigmoid => "sigmoid"

/-- All functions. -/
def all : List Activation := [.identity, .relu, .leakyRelu, .elu, .selu, .tanh, .sigmoid]

/-- The function of a name. -/
def ofName? (s : String) : Option Activation := all.find? (·.name = s)

variable {α : Type} [Scalar α]

/-- Exponential on the negative side, scaled by `slope`; the identity elsewhere. -/
def exponentialUnit (slope x : α) : α :=
  if Scalar.isNegative x then slope * (Scalar.exp x - 1.0) else x

/-- The value of the function at `x`. -/
def apply (f : Activation) (x : α) : α :=
  match f with
  | .identity => x
  | .relu => Scalar.larger x 0
  | .leakyRelu => if Scalar.isNegative x then 0.1 * x else x
  | .elu => exponentialUnit 1.0 x
  | .selu => 1.050701 * exponentialUnit 1.6732632 x
  | .tanh => Scalar.tanh x
  | .sigmoid => 1.0 / (1.0 + Scalar.exp (-x))

/-- Apply the function to every logical element of the first `images` images of `buffer`. The identity
asks nothing of the buffer; any other function needs rows of at least one lane and a buffer that holds
all the images. -/
def applyTo (f : Activation) (shape : Shape) (images : Nat) (buffer : Array α) :
    Except Failure (Array α) :=
  if f = .identity then .ok buffer
  else if buffer.size < images * shape.size then .error (.fault .outOfRange)
  else if shape.rowLanes = 0 then .error (.fault .emptyPieces)
  else .ok (buffer.mapIdx fun i x =>
    if i < images * shape.size && shape.isLogical i then f.apply x else x)

end Activation

end ForwardPass

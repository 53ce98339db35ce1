import ForwardPass.Shape

/-!
# Failures

What can stop a computation. An `EngineError` is a cause the caller can act on and comes with a
message. A `Fault` is a broken contract: the computation was asked for something no caller may ask for.
-/

namespace ForwardPass

/-! ## The words the causes use -/

/-- How a pooling layer reduces its windows. -/
inductive Pooling where
  | none
  | max
  | avg
deriving DecidableEq, Repr, Inhabited

/-- The pooling as messages show it. -/
def Pooling.describe : Pooling → String
  | .none => "None"
  | .max => "Max"
  | .avg => "Avg"

/-- The name of the pooling in descriptions. -/
def Pooling.name : Pooling → String
  | .none => "none"
  | .max => "max"
  | .avg => "avg"

/-- The pooling of a name. -/
def Pooling.ofName? (s : String) : Option Pooling :=
  [Pooling.none, .max, .avg].find? (·.name = s)

/-- Which array of a layer a buffer holds. -/
inductive Role where
  | activations
  | weights
  | result
deriving DecidableEq, Repr, Inhabited

/-- Hardware block of the accelerator. -/
abbrev BlockId : Type := UInt32

/-- A tensor of a dataflow graph. -/
structure TensorId where
  index : Nat
deriving DecidableEq, Repr, Inhabited

/-- The tensor as messages show it. -/
def TensorId.describe (id : TensorId) : String := "%" ++ toString id.index

/-! ## Causes -/

/-- Why two sizes or shapes do not fit. -/
inductive Mismatch where
  /-- A buffer of one convolution is too short. -/
  | operandShort (role : Role) (have_ need : Nat)
  /-- A buffer shared by the layers is too short for this one. -/
  | bufferShort (role : Role) (have_ need : Nat)
  | weightCount (have_ need : Nat)
  | unalignedRows (lanes : Nat)
  | kernelOverInput (kernelRows kernelCols rows cols : Nat)
  | outputExtent (rows cols yieldedRows yieldedCols : Nat)
  | fieldOverExtent (field extent : Nat)
  | valueCount (expected got : Nat)
  | paddedCount (have_ need : Nat)
  | noLayers
  | weightEntries (entries layers : Nat)
  | brokenChain (expected : Shape) (producer : String) (produced : Shape)
  | input (batch : Nat) (shape : Shape) (images : Nat) (expected : Shape)
  | operand (id : TensorId) (batch : Nat) (shape : Shape)
  | passFinished
  | passUnfinished
deriving DecidableEq, Repr

/-- Why a dataflow graph cannot run. -/
inductive GraphDefect where
  | twoProducers (tensor : TensorId) (first second : String)
  | nothingProduced (operator : String) (tensor : TensorId)
  | noOperators
deriving DecidableEq, Repr

inductive EngineError where
  | unsupportedStride (stride : Nat)
  | kernelTooWide (width : Nat)
  | unsupportedPooling (layer : String) (pooling : Pooling)
  | shapeMismatch (subject : String) (cause : Mismatch)
  | missingWeights (layer : String)
  | transfer (block : BlockId) (offset length available : Nat)
  | graphCycle (remaining : Nat)
  | invalidGraph (defect : GraphDefect)
  | unknownTensor (id : TensorId)
deriving DecidableEq, Repr

/-- A contract that only a mistaken caller breaks. -/
inductive Fault where
  /-- An element or slice outside its buffer. -/
  | outOfRange
  /-- A buffer cut into pieces of no elements. -/
  | emptyPieces
  /-- Accumulation budgets that the registers cannot hold. -/
  | budget
  /-- An extent below zero. -/
  | negativeExtent
  /-- A cut inside of a character. -/
  | splitCharacter
  /-- A setting under a key that names nothing. -/
  | unnamedKey
deriving DecidableEq, Repr

inductive Failure where
  | error (cause : EngineError)
  | fault (fault : Fault)
deriving DecidableEq, Repr

/-! ## Messages -/

/-- The role as the name of a shared buffer. -/
def Role.bufferName : Role → String
  | .activations => "activations"
  | .weights => "weights"
  | .result => "result"

/-- The role as the name of an operand of one convolution. -/
def Role.operandName : Role → String
  | .activations => "activation"
  | .weights => "kernel"
  | .result => "result"

/-- Two extents as messages show them. -/
def describeExtents (rows cols : Nat) : String := toString rows ++ "x" ++ toString cols

def Mismatch.message : Mismatch → String
  | .operandShort role have_ need =>
    role.operandName ++ " buffer holds " ++ toString have_ ++ " elements, needs " ++ toString need
  | .bufferShort role have_ need =>
    role.bufferName ++ " buffer holds " ++ toString have_ ++ " elements, layer needs " ++ toString need
  | .weightCount have_ need =>
    "weights hold " ++ toString have_ ++ " elements, layer needs " ++ toString need
  | .unalignedRows lanes => "padded input width " ++ toString lanes ++ " is not vector aligned"
  | .kernelOverInput kernelRows kernelCols rows cols =>
    describeExtents kernelRows kernelCols ++ " kernel over " ++ describeExtents rows cols ++ " input"
  | .outputExtent rows cols yieldedRows yieldedCols =>
    "output is " ++ describeExtents rows cols ++ ", convolution yields " ++
      describeExtents yieldedRows yieldedCols
  | .fieldOverExtent field extent =>
    "field size " ++ toString field ++ " does not fit input extent " ++ toString extent
  | .valueCount expected got => "expected " ++ toString expected ++ " values, got " ++ toString got
  | .paddedCount have_ need =>
    "buffer holds " ++ toString have_ ++ " elements, shape needs " ++ toString need
  | .noLayers => "network has no layers"
  | .weightEntries entries layers =>
    toString entries ++ " weight entries for " ++ toString layers ++ " layers"
  | .brokenChain expected producer produced =>
    "expects " ++ expected.describe ++ " but " ++ producer ++ " produces " ++ produced.describe
  | .input batch shape images expected =>
    "input is " ++ toString batch ++ " x " ++ shape.describe ++ ", network takes " ++
      toString images ++ " x " ++ expected.describe
  | .operand id batch shape =>
    "operand " ++ id.describe ++ " is " ++ toString batch ++ " x " ++ shape.describe
  | .passFinished => "forward pass already finished"
  | .passUnfinished => "forward pass has not finished"

def GraphDefect.message : GraphDefect → String
  | .twoProducers tensor first second =>
    "tensor " ++ tensor.describe ++ " produced by both " ++ first ++ " and " ++ second
  | .nothingProduced operator tensor => operator ++ " did not produce " ++ tensor.describe
  | .noOperators => "graph has no operators"

/-- A number in lower-case hexadecimal, marked as such. -/
def describeHex (n : Nat) : String := "0x" ++ String.ofList (Nat.toDigits 16 n)

def EngineError.message : EngineError → String
  | .unsupportedStride stride =>
    "unsupported convolution stride " ++ toString stride ++ " (supported: 1, 2, 4)"
  | .kernelTooWide width =>
    "kernel width " ++ toString width ++ " does not fit in a " ++ toString vectorLanes ++
      "-lane vector register"
  | .unsupportedPooling layer pooling =>
    "unsupported pooling kind " ++ pooling.describe ++ " in layer " ++ layer
  | .shapeMismatch subject cause => "layer " ++ subject ++ ": " ++ cause.message
  | .missingWeights layer => "layer " ++ layer ++ " requires weights but none were provided"
  | .transfer block offset length available =>
    "transfer of " ++ toString length ++ " bytes at offset " ++ toString offset ++ " on hw " ++
      describeHex block.toNat ++ " exceeds " ++ toString available ++ " bytes"
  | .graphCycle remaining =>
    "operator graph has a cycle (" ++ toString remaining ++ " operators never became ready)"
  | .invalidGraph defect => "invalid operator graph: " ++ defect.message
  | .unknownTensor id => "unknown tensor id " ++ toString id.index

end ForwardPass

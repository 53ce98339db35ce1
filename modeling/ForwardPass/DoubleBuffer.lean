import ForwardPass.Scalar

/-!
# Double buffers

The two equally long buffers a forward pass works in. One is live: it holds the latest layer's output
and is the next layer's input. A layer that writes across makes the other buffer live; a layer that
works in place does not.
-/

namespace ForwardPass

/-- One of the two buffers; `activations` holds the input before the first layer runs. -/
inductive Slot where
  | activations
  | result
deriving DecidableEq, Repr, Inhabited

def Slot.other : Slot → Slot
  | .activations => .result
  | .result => .activations

/-- The slot as records and reports show it. -/
def Slot.describe : Slot → String
  | .activations => "Activations"
  | .result => "Result"

/-- Which of its two buffers a layer leaves its output in. -/
inductive Landing where
  /-- The buffer it read its input from. -/
  | inPlace
  /-- The other buffer. -/
  | across
deriving DecidableEq, Repr, Inhabited

structure DoubleBuffer (α : Type) where
  activations : Array α
  result : Array α
  live : Slot := .activations

namespace DoubleBuffer

variable {α : Type}

/-- Two buffers of `size` zeros. -/
def zeros [Scalar α] (size : Nat) : DoubleBuffer α :=
  { activations := Array.replicate size 0, result := Array.replicate size 0 }

def size (b : DoubleBuffer α) : Nat := b.activations.size

def buffer (b : DoubleBuffer α) : Slot → Array α
  | .activations => b.activations
  | .result => b.result

/-- Replace the contents of one slot. -/
def setBuffer (b : DoubleBuffer α) (data : Array α) : Slot → DoubleBuffer α
  | .activations => { b with activations := data }
  | .result => { b with result := data }

/-- The buffer the next layer reads. -/
def liveBuffer (b : DoubleBuffer α) : Array α := b.buffer b.live

/-- The buffer that is not live. -/
def otherBuffer (b : DoubleBuffer α) : Array α := b.buffer b.live.other

/-- Replace element `i` of one slot, if there is one. -/
def write? (b : DoubleBuffer α) (slot : Slot) (i : Nat) (value : α) : Option (DoubleBuffer α) :=
  if i < (b.buffer slot).size then some (b.setBuffer ((b.buffer slot).setIfInBounds i value) slot)
  else none

/-- Clear both buffers, copy `data` to the front of `activations` as far as there is room, and make
that slot live. -/
def reset [Scalar α] (b : DoubleBuffer α) (data : Array α) : DoubleBuffer α :=
  -- Input that does not fit is cut off, and what is left of either buffer is zero.
  let n := min data.size b.size
  { activations := data.extract 0 n ++ Array.replicate (b.activations.size - n) 0
    result := Array.replicate b.result.size 0
    live := .activations }

/-- Take note of where a layer's output landed. -/
def commit (b : DoubleBuffer α) : Landing → DoubleBuffer α
  | .inPlace => b
  | .across => { b with live := b.live.other }

end DoubleBuffer

end ForwardPass

import ForwardPass.Tensor

/-!
# Tensor stores

The tensors a dataflow graph reads and writes, by id. An id can be reserved before the tensor exists.
-/

namespace ForwardPass

structure TensorStore (α : Type) where
  slots : Array (Option (Tensor α)) := #[]

namespace TensorStore

variable {α : Type}

/-- Store a tensor under a fresh id. -/
def add (s : TensorStore α) (t : Tensor α) : TensorStore α × TensorId :=
  (⟨s.slots.push (some t)⟩, ⟨s.slots.size⟩)

/-- A fresh id for a tensor that comes later. -/
def reserve (s : TensorStore α) : TensorStore α × TensorId :=
  (⟨s.slots.push none⟩, ⟨s.slots.size⟩)

/-- The tensor stored under an id, if there is one. -/
def get? (s : TensorStore α) (id : TensorId) : Option (Tensor α) := (s.slots[id.index]?).join

def contains (s : TensorStore α) (id : TensorId) : Bool := (s.get? id).isSome

/-- The tensor stored under an id. -/
def get (s : TensorStore α) (id : TensorId) : Except EngineError (Tensor α) :=
  match s.get? id with
  | some t => .ok t
  | none => .error (.unknownTensor id)

/-- Store a tensor under an id that was added or reserved. -/
def put (s : TensorStore α) (id : TensorId) (t : Tensor α) : Except EngineError (TensorStore α) :=
  if id.index < s.slots.size then .ok ⟨s.slots.setIfInBounds id.index (some t)⟩
  else .error (.unknownTensor id)

end TensorStore

end ForwardPass

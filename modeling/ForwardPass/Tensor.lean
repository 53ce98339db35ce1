import ForwardPass.Buffer

/-!
# Tensors

A named batch of images of one shape, stored flat with pad lanes. The element count is part of the type;
that pad lanes are zero is not, because a padded buffer is taken as it is. `ofDense` and `toDense` go
between the stored form and the logical values in the order image, channel, row, column.
-/

namespace ForwardPass

/-- For activations `batch` counts images, for the weights of a convolution it counts kernels. -/
structure Tensor (α : Type) where
  name : String
  shape : Shape
  batch : Nat
  data : Array α
  size_data : data.size = batch * shape.size

namespace Tensor

variable {α : Type}

/-- Where element `[image][chan][row][col]` is stored. -/
def position (shape : Shape) (image chan row col : Nat) : Nat :=
  image * shape.size + shape.offset chan row col

/-- Where the logical elements of a batch are stored, in order. -/
def positions (shape : Shape) (batch : Nat) : List Nat :=
  (List.range batch).flatMap fun image =>
    shape.logicalOffsets.map fun offset => image * shape.size + offset

section Construction

variable [Scalar α]

/-- The tensor of zeros. -/
def zeros (name : String) (shape : Shape) (batch : Nat) : Tensor α :=
  { name, shape, batch
    data := Array.replicate (batch * shape.size) 0
    size_data := by simp }

omit [Scalar α] in
/-- Give logical element number `i` the value `f i`; pad lanes keep theirs. -/
def fill (t : Tensor α) (f : Nat → α) : Tensor α :=
  let data := (positions t.shape t.batch).zipIdx.foldl
    (fun data (at_, i) => data.setIfInBounds at_ (f i)) t.data
  { t with
    data
    size_data := by
      have size_foldl : ∀ (l : List (Nat × Nat)) (a : Array α),
          (l.foldl (fun data (at_, i) => data.setIfInBounds at_ (f i)) a).size = a.size := by
        intro l
        induction l with
        | nil => simp
        | cons p l ih => intro a; simp [ih]
      exact (size_foldl _ _).trans t.size_data }

/-- The tensor with these logical values. -/
def ofDense (name : String) (shape : Shape) (batch : Nat) (values : List α) :
    Except EngineError (Tensor α) :=
  let expected := batch * shape.logicalSize
  if values.length ≠ expected then
    .error (.shapeMismatch name (.valueCount expected values.length))
  else
    let values := values.toArray
    -- Starting from zeros is what makes the pad lanes zero.
    .ok ((zeros name shape batch).fill fun i => values.getD i 0)

omit [Scalar α] in
/-- The tensor stored in a padded buffer, of which elements past the end are dropped. -/
def ofPadded (name : String) (shape : Shape) (batch : Nat) (data : Array α) :
    Except EngineError (Tensor α) :=
  if h : data.size < batch * shape.size then
    .error (.shapeMismatch name (.paddedCount data.size (batch * shape.size)))
  else
    .ok { name, shape, batch
          data := data.extract 0 (batch * shape.size)
          size_data := by simp; omega }

end Construction

/-! ## Elements -/

/-- Element `[image][chan][row][col]`, if the stored data reaches that far. -/
def get? (t : Tensor α) (image chan row col : Nat) : Option α :=
  t.data[position t.shape image chan row col]?

/-- Replace the stored element `i`, if there is one. -/
def write? (t : Tensor α) (i : Nat) (value : α) : Option (Tensor α) :=
  if i < t.data.size then
    some { t with data := t.data.setIfInBounds i value, size_data := by simp [t.size_data] }
  else none

/-- Replace element `[image][chan][row][col]`, if the stored data reaches that far. -/
def set? (t : Tensor α) (image chan row col : Nat) (value : α) : Option (Tensor α) :=
  t.write? (position t.shape image chan row col) value

/-- The logical values, without pads. -/
def toDense [Scalar α] (t : Tensor α) : List α :=
  (positions t.shape t.batch).map fun i => t.data.getD i 0

/-- The logical values of one image, if the batch has it. -/
def image? [Scalar α] (t : Tensor α) (image : Nat) : Option (List α) :=
  let size := t.shape.logicalSize
  let values := t.toDense
  if (image + 1) * size ≤ values.length then some ((values.drop (image * size)).take size) else none

/-- Whether two tensors have the same name, shape, batch and elements. -/
def agrees [BEq α] (t u : Tensor α) : Bool :=
  t.name = u.name && t.shape = u.shape && t.batch = u.batch && t.data == u.data

end Tensor

end ForwardPass

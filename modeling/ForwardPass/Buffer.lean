import ForwardPass.Failure

/-!
# Buffers

Flat arrays of elements, read and written in slices. `slice` and `put` refuse a slice that is not
inside the buffer; `store` is the write itself, and `getElem?_store` says what it changes.
-/

namespace ForwardPass.Buffer

variable {α : Type}

/-- The elements `start`, `start + 1`, … of which there are `count`. -/
def slice (buffer : Array α) (start count : Nat) : Except Failure (Array α) :=
  if start + count ≤ buffer.size then .ok (buffer.extract start (start + count))
  else .error (.fault .outOfRange)

/-- Write `values` from position `start` on; what would land past the end is dropped. -/
def store (buffer : Array α) (start : Nat) : List α → Array α
  | [] => buffer
  | v :: values => store (buffer.setIfInBounds start v) (start + 1) values

/-- Write `values` from position `start` on. -/
def put (buffer : Array α) (start : Nat) (values : List α) : Except Failure (Array α) :=
  if start + values.length ≤ buffer.size then .ok (store buffer start values)
  else .error (.fault .outOfRange)

@[simp]
theorem size_store (buffer : Array α) (start : Nat) (values : List α) :
    (store buffer start values).size = buffer.size := by
  induction values generalizing buffer start with
  | nil => rfl
  | cons v values ih => simp [store, ih]

/-- A write changes the elements it names and no others. -/
theorem getElem?_store (buffer : Array α) (start : Nat) (values : List α) (i : Nat)
    (h : start + values.length ≤ buffer.size) :
    (store buffer start values)[i]? =
      if start ≤ i ∧ i < start + values.length then values[i - start]? else buffer[i]? := by
  induction values generalizing buffer start with
  | nil =>
    rw [List.length_nil, if_neg (by omega)]
    rfl
  | cons v values ih =>
    simp only [List.length_cons] at h ⊢
    rw [store, ih _ _ (by simp; omega), Array.getElem?_setIfInBounds]
    grind

/-- The elements of a buffer that a vector register takes from position `start` on. -/
def fetch (buffer : Array α) (start : Nat) : Except Failure (LaneVector α) :=
  if h : start + vectorLanes ≤ buffer.size then
    .ok (Vector.ofFn fun i => buffer[start + i.val])
  else .error (.fault .outOfRange)

end ForwardPass.Buffer

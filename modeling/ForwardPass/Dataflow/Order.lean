import ForwardPass.Failure

/-!
# The order of a dataflow graph

Operators are known to the order by the tensors they read and the tensor they produce. A counter for each
operator says how many of its inputs still have to be produced. An operator is ready when its counter stands
at zero, and among those that are ready the earliest added runs first. What never becomes ready lies on a
cycle or behind one.
-/

namespace ForwardPass

/-- An operator as the order sees it. -/
structure Wiring where
  name : String
  inputs : List TensorId
  output : TensorId
deriving DecidableEq, Repr

namespace Dataflow

/-! ## Producers -/

/-- Enter an operator under the tensor it produces, which no other may produce. -/
def addProducer (operators : List Wiring) (producer : List (TensorId × Nat)) :
    Wiring × Nat → Except EngineError (List (TensorId × Nat))
  | (w, idx) =>
    match producer.lookup w.output with
    | some prev =>
      let first := (operators[prev]?.map Wiring.name).getD ""
      .error (.invalidGraph (.twoProducers w.output first w.name))
    | none => .ok ((w.output, idx) :: producer)

/-- Which operator produces each tensor. -/
def producers (operators : List Wiring) : Except EngineError (List (TensorId × Nat)) :=
  operators.zipIdx.foldlM (addProducer operators) []

/-! ## Links -/

/-- What ties operators together: which ones read from each, and how many inputs of each others produce. An
operator that reads one tensor twice is listed twice and counts both. -/
structure Links where
  readers : Array (List Nat)
  missing : Array Nat

/-- Count one input of an operator, when there is an operator that produces it. -/
def Links.add (links : Links) (producer : List (TensorId × Nat)) (reader : Nat) (id : TensorId) : Links :=
  match producer.lookup id with
  | none => links
  | some parent =>
    { readers := links.readers.modify parent (· ++ [reader])
      missing := links.missing.modify reader (· + 1) }

/-- The links between all operators. -/
def link (producer : List (TensorId × Nat)) (operators : List Wiring) : Links :=
  operators.zipIdx.foldl
    (fun links (w, idx) => w.inputs.foldl (fun links id => links.add producer idx id) links)
    { readers := Array.replicate operators.length [], missing := Array.replicate operators.length 0 }

/-! ## Taking -/

/-- Put an index into an ascending list that holds each index once. -/
def insertIndex (i : Nat) : List Nat → List Nat
  | [] => [i]
  | j :: rest => if i < j then i :: j :: rest else if i = j then j :: rest else j :: insertIndex i rest

/-- Where the order stands: how many inputs each operator misses, and which ones are ready, ascending. -/
structure Frontier where
  missing : Array Nat
  ready : List Nat

namespace Frontier

/-- Nothing has run, so those are ready that need nothing others produce. -/
def start (links : Links) (count : Nat) : Frontier where
  missing := links.missing
  ready := (List.range count).filter fun idx => links.missing[idx]? = some 0

/-- One input of an operator is there. With the last one it gets ready. -/
def release (s : Frontier) (reader : Nat) : Frontier :=
  match s.missing[reader]? with
  | some (left + 1) =>
    { missing := s.missing.setIfInBounds reader left
      ready := if left = 0 then insertIndex reader s.ready else s.ready }
  -- No operator gets more inputs than were counted.
  | _ => s

/-- How many operators are ready or may still get ready. -/
def pending (s : Frontier) : Nat := s.ready.length + s.missing.countP (0 < ·)

theorem length_insertIndex_le (i : Nat) (l : List Nat) : (insertIndex i l).length ≤ l.length + 1 := by
  induction l with
  | nil => simp [insertIndex]
  | cons j rest ih =>
    simp only [insertIndex]
    split
    · simp
    split
    · simp
    · simpa using ih

/-- An operator that gets ready has no counter above zero any more. -/
theorem pending_release_le (s : Frontier) (reader : Nat) : (s.release reader).pending ≤ s.pending := by
  unfold release
  split
  · next left hleft =>
    obtain ⟨hlt, hget⟩ := Array.getElem?_eq_some_iff.1 hleft
    have hcount : 0 < s.missing.countP (0 < ·) :=
      Array.countP_pos_iff.2 ⟨s.missing[reader], Array.getElem_mem hlt, by simp [hget]⟩
    have hlength := length_insertIndex_le reader s.ready
    simp only [pending, Array.setIfInBounds, dif_pos hlt, Array.countP_set hlt, hget]
    by_cases hlast : left = 0
    · subst hlast
      rw [if_pos rfl, if_pos (by decide), if_neg (by decide)]
      omega
    · have hpos := Nat.pos_of_ne_zero hlast
      rw [if_neg hlast, if_pos (decide_eq_true (Nat.succ_pos left)), if_pos (decide_eq_true hpos)]
      omega
  · exact Nat.le_refl _

theorem pending_foldl_release_le (readers : List Nat) (s : Frontier) :
    (readers.foldl release s).pending ≤ s.pending := by
  induction readers generalizing s with
  | nil => exact Nat.le_refl _
  | cons reader readers ih => exact Nat.le_trans (ih _) (pending_release_le s reader)

end Frontier

/-- Take the operators that are ready, earliest first, each with what its output makes ready. -/
def takeAll (readers : Array (List Nat)) (s : Frontier) : List Nat :=
  match _ready : s.ready with
  | [] => []
  | idx :: rest =>
    idx :: takeAll readers ((readers[idx]?.getD []).foldl Frontier.release { s with ready := rest })
termination_by s.pending
decreasing_by
  refine Nat.lt_of_le_of_lt (Frontier.pending_foldl_release_le _ _) ?_
  simp [Frontier.pending, _ready]

/-- The indices of the operators in the order they run. -/
def order (operators : List Wiring) : Except EngineError (List Nat) := do
  let producer ← producers operators
  let links := link producer operators
  let order := takeAll links.readers (.start links operators.length)
  if order.length < operators.length then throw (.graphCycle (operators.length - order.length))
  return order

end Dataflow

end ForwardPass

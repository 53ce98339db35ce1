import ForwardPass.Proofs.Dataflow.LayerGraph
import ForwardPass.Proofs.Exact

/-!
# The turns of a run

A run of a graph of layers gives its operators their turns in the order, and ends with the first that cannot
run or is stopped. `Turns` is the history of such a run: an operator at its turn finds every input, and
what a producer in the graph has stored is still there. All slots that no turn wrote are as they were.
-/

namespace ForwardPass

variable {α : Type} [Scalar α] {nodes : List LayerNode} {blocks : Blocks} {start left : Context α}
  {n : LayerNode} {k : Nat} {order rest : List Nat}

/-! ## Turns -/

/-- An operator at its turn: what it found, and what it left. -/
structure Turn (α : Type) where
  index : Nat
  node : LayerNode
  found : Context α
  left : Context α

variable {turns : List (Turn α)}

/-- Whatever the operator reads and some operator of the graph produces is the tensor that one stored at its
turn, which is among these. -/
def Delivered (nodes : List LayerNode) (turns : List (Turn α)) (n : LayerNode)
    (store : TensorStore α) : Prop :=
  ∀ id ∈ n.inputs, ∀ (j : Nat) (producer : LayerNode), nodes[j]? = some producer →
    producer.output = id → ∃ t ∈ turns, t.index = j ∧ store.get? id = t.left.store.get? id

/-- Turns of operators that ran, one after the other: each finds what the one before it left. -/
inductive Turns (nodes : List LayerNode) (blocks : Blocks) (start : Context α) :
    List (Turn α) → Context α → Prop where
  | start : Turns nodes blocks start [] start
  | turn {turns : List (Turn α)} {t : Turn α} (earlier : Turns nodes blocks start turns t.found)
      (node : nodes[t.index]? = some t.node)
      (present : ∀ id ∈ t.node.inputs, t.found.store.contains id = true)
      (delivered : Delivered nodes turns t.node t.found.store)
      (run : t.node.run blocks t.found = .ok () t.left) :
      Turns nodes blocks start (turns ++ [t]) t.left

namespace Turns

theorem node_of_mem (h : Turns nodes blocks start turns left) {t : Turn α} (ht : t ∈ turns) :
    nodes[t.index]? = some t.node := by
  induction h with
  | start => cases ht
  | turn earlier node present delivered run ih =>
    rcases List.mem_append.1 ht with ht | ht
    · exact ih ht
    · rw [List.mem_singleton] at ht
      exact ht ▸ node

/-- Slots that no turn wrote are as they were. -/
theorem frame (h : Turns nodes blocks start turns left) {id : TensorId}
    (hid : ∀ t ∈ turns, t.node.output ≠ id) :
    left.store.slots[id.index]? = start.store.slots[id.index]? := by
  induction h with
  | start => rfl
  | @turn turns t earlier node present delivered run ih =>
    have hperform := ((t.node.run_ends blocks t.found).of_ok run).1
    have hne := hid t (List.mem_append_right _ (List.mem_singleton_self t))
    rw [LayerNode.slots_of_perform hperform hne.symm]
    exact ih fun u hu => hid u (List.mem_append_left _ hu)

/-- What an operator stored at its turn stays there, because it is the only one to write it. -/
theorem kept (h : Turns nodes blocks start turns left) (houtputs : (nodes.map (·.output)).Nodup)
    (hindices : (turns.map Turn.index).Nodup) {t : Turn α} (ht : t ∈ turns) :
    left.store.get? t.node.output = t.left.store.get? t.node.output := by
  induction h with
  | start => cases ht
  | @turn turns u earlier node present delivered run ih =>
    rw [List.map_append, List.nodup_append] at hindices
    rcases List.mem_append.1 ht with ht | ht
    · have hindex : t.index ≠ u.index :=
        hindices.2.2 t.index (List.mem_map_of_mem ht) u.index (List.mem_singleton_self _)
      have hne : t.node.output ≠ u.node.output := fun heq =>
        hindex (LayerNode.index_eq houtputs (earlier.node_of_mem ht) node heq)
      have hperform := ((u.node.run_ends blocks u.found).of_ok run).1
      have hslot := LayerNode.slots_of_perform hperform hne
      rw [TensorStore.get?, hslot]
      exact ih hindices.1 ht
    · rw [List.mem_singleton] at ht
      rw [ht]

end Turns

/-- The next operator of an order finds what its producers have stored. -/
theorem Turns.delivered (h : Turns nodes blocks start turns left)
    (houtputs : (nodes.map (·.output)).Nodup)
    (hlegal : Dataflow.Legal (nodes.map LayerNode.wiring) order)
    (horder : order = turns.map Turn.index ++ k :: rest) (hn : nodes[k]? = some n) :
    Delivered nodes turns n left.store := by
  have hnodup : order.Nodup := hlegal.perm.nodup_iff.2 List.nodup_range
  rw [horder, List.nodup_append] at hnodup
  intro id hid j producer hj hout
  -- The producer stands before the operator in the order, so it has had its turn.
  have hbefore := hlegal.behind _ _ _ horder j (LayerNode.feeds hj hn (hout ▸ hid))
  obtain ⟨t, ht, rfl⟩ := List.mem_map.1 hbefore
  have hproducer : producer = t.node := Option.some.inj (hj.symm.trans (h.node_of_mem ht))
  refine ⟨t, ht, rfl, ?_⟩
  rw [← hout, hproducer]
  exact h.kept houtputs hnodup.1 ht

/-! ## The end of a run -/

namespace Graph

/-- How a run may end whose order is `order`, after these turns: with the output of the last operator, once
all have had theirs; without any operator; or at the next operator, because an input of it is missing or
because it is stopped. -/
inductive Ending (nodes : List LayerNode) (blocks : Blocks) (order : List Nat) (turns : List (Turn α))
    (left : Context α) : EStateM.Result Failure (Execution α) TensorId → Prop where
  | completed {k : Nat} {n : LayerNode} (all : turns.map Turn.index = order)
      (last : order.getLast? = some k) (node : nodes[k]? = some n) :
      Ending nodes blocks order turns left (.ok n.output ⟨left, order⟩)
  | empty (nothing : order = []) (idle : turns = []) :
      Ending nodes blocks order turns left (.error (.error (.invalidGraph .noOperators)) ⟨left, []⟩)
  | missing {k : Nat} {n : LayerNode} {rest : List Nat} {before after : List TensorId} {id : TensorId}
      (next : order = turns.map Turn.index ++ k :: rest) (node : nodes[k]? = some n)
      (inputs : n.inputs = before ++ id :: after)
      (first : ∀ id ∈ before, left.store.contains id = true) (absent : left.store.contains id = false) :
      Ending nodes blocks order turns left
        (.error (.error (.unknownTensor id)) ⟨left, turns.map Turn.index⟩)
  | stopped {k : Nat} {n : LayerNode} {rest : List Nat} {failure : Failure} {ledger : Ledger}
      (next : order = turns.map Turn.index ++ k :: rest) (node : nodes[k]? = some n)
      (present : ∀ id ∈ n.inputs, left.store.contains id = true)
      (delivered : Delivered nodes turns n left.store)
      (run : n.run blocks left = .error failure ⟨left.store, ledger⟩) :
      Ending nodes blocks order turns left
        (.error failure ⟨⟨left.store, ledger⟩, turns.map Turn.index ++ [k]⟩)

/-- After the turns made so far, the run goes on to its end. -/
theorem runAll_ending (houtputs : (nodes.map (·.output)).Nodup)
    (hlegal : Dataflow.Legal (nodes.map LayerNode.wiring) order)
    (hturns : Turns nodes blocks start turns left) (horder : order = turns.map Turn.index ++ rest) :
    ∃ turns' left', Turns nodes blocks start turns' left' ∧ Ending nodes blocks order turns' left'
      (((ofNodes nodes).runAll blocks rest (turns.getLast?.map (·.node.output)) >>= answer)
        ⟨left, turns.map Turn.index⟩) := by
  induction rest generalizing turns left with
  | nil =>
    rw [List.append_nil] at horder
    refine ⟨turns, left, hturns, ?_⟩
    cases hlast : turns.getLast? with
    | none =>
      rw [List.getLast?_eq_none_iff] at hlast
      subst hlast
      exact .empty horder rfl
    | some t =>
      have ht := List.mem_of_getLast? hlast
      have hindex : order.getLast? = some t.index := by rw [horder, List.getLast?_map, hlast, Option.map_some]
      rw [← horder]
      exact .completed horder.symm hindex (hturns.node_of_mem ht)
  | cons k rest ih =>
    obtain ⟨n, hn⟩ := LayerNode.exists_of_legal hlegal (horder ▸ List.mem_append_cons_self)
    have hdelivered := hturns.delivered houtputs hlegal horder hn
    rw [runAll_cons (getElem?_ofNodes hn)]
    have hturned := runOperator_turned blocks k n ⟨left, turns.map Turn.index⟩
    generalize hresult : runOperator blocks k n.toOperator
      (⟨left, turns.map Turn.index⟩ : Execution α) = result at hturned
    cases hturned with
    | missing inputs first absent =>
      refine ⟨turns, left, hturns, ?_⟩
      rw [bind_of_error (bind_of_error hresult _)]
      exact .missing horder hn inputs first absent
    | stopped present run =>
      refine ⟨turns, left, hturns, ?_⟩
      rw [bind_of_error (bind_of_error hresult _)]
      exact .stopped horder hn present hdelivered run
    | @ran after present run =>
      have hturn : Turns nodes blocks start (turns ++ [⟨k, n, left, after⟩]) after :=
        .turn (t := ⟨k, n, left, after⟩) hturns hn present hdelivered run
      obtain ⟨turns', left', hturns', hending⟩ := ih hturn (by simp [horder])
      refine ⟨turns', left', hturns', ?_⟩
      rw [List.map_append, List.map_singleton, List.getLast?_concat, Option.map_some] at hending
      rw [bind_assoc, bind_of_ok hresult]
      exact hending

/-- A run of a graph of layers, for any of their tensor ids and any contents of the store. Without an order
it fails for that reason and runs nothing. Otherwise every operator is in the order once, those that had
their turn ran in that order on final data, and it ends as `Ending` says; the slots of all tensors that none
of them produces are untouched. Without operators there is nothing to answer. -/
theorem run_turns (nodes : List LayerNode) (blocks : Blocks) (start : Context α) :
    (∀ cause, (ofNodes nodes : Graph α).order = .error cause →
      (ofNodes nodes).run blocks ⟨start, []⟩ = .error (.error cause) ⟨start, []⟩) ∧
    (∀ order, (ofNodes nodes : Graph α).order = .ok order →
      order.Perm (List.range nodes.length) ∧ (nodes.map (·.output)).Nodup ∧
      ∃ turns left, Turns nodes blocks start turns left ∧
        Ending nodes blocks order turns left ((ofNodes nodes).run blocks ⟨start, []⟩) ∧
        ∀ id, (∀ t ∈ turns, t.node.output ≠ id) →
          left.store.slots[id.index]? = start.store.slots[id.index]?) ∧
    (nodes = [] → (ofNodes nodes).run blocks ⟨start, []⟩ =
      .error (.error (.invalidGraph .noOperators)) ⟨start, []⟩) := by
  refine ⟨fun cause horder => run_of_unordered horder, fun order horder => ?_, ?_⟩
  · obtain ⟨houtputs, hlegal⟩ := legal_of_order horder
    have hperm := hlegal.perm
    rw [List.length_map] at hperm
    have hstart : Turns nodes blocks start [] start := .start
    obtain ⟨turns, left, hturns, hending⟩ := runAll_ending houtputs hlegal hstart rfl
    rw [run_eq horder]
    exact ⟨hperm, houtputs, turns, left, hturns, hending, fun id hid => hturns.frame hid⟩
  · rintro rfl
    have horder : (ofNodes [] : Graph α).order = .ok [] := by
      rw [order_ofNodes]
      exact Dataflow.order_eq_ok ⟨fun _ hw => (List.not_mem_nil hw).elim, .nil⟩
    rw [run_eq horder]
    rfl

/-- Two layers that pool single pixels, added the wrong way round: the second reads the image, and the first
reads what the second makes. The id of the last tensor was not reserved. -/
def swapped : List LayerNode :=
  let pixel : Layer := {
    name := "pixel"
    kind := .pooling
    inputs := ⟨1, 1, 1, 7⟩
    outputs := ⟨1, 1, 1, 7⟩
    weights := .nothing
    fieldSize := 1
    stride := 1
    border := 0
    activation := .identity
    pooling := .max }
  [⟨pixel, 1, ⟨1⟩, none, ⟨2⟩⟩, ⟨pixel, 1, ⟨0⟩, none, ⟨1⟩⟩]

/-- A store with the image alone; the tensor between the layers is reserved. -/
def imageStore : TensorStore Int :=
  ⟨#[some ⟨"image", ⟨1, 1, 1, 7⟩, 1, #[6, 0, 0, 0, 0, 0, 0, 0], rfl⟩, none]⟩

theorem run_turns_swapped :
    (@ofNodes Int integers swapped).order = .ok [1, 0] ∧
      ∃ turns left, @Turns Int integers swapped {} ⟨imageStore, {}⟩ turns left ∧
        @Ending Int integers swapped {} [1, 0] turns left
          ((@ofNodes Int integers swapped).run {} ⟨⟨imageStore, {}⟩, []⟩) ∧
        left.store.slots[0]? = imageStore.slots[0]? := by
  have horder : (@ofNodes Int integers swapped).order = .ok [1, 0] := by
    rw [@order_ofNodes Int integers]
    decide +kernel
  obtain ⟨-, hordered, -⟩ := @run_turns Int integers swapped {} ⟨imageStore, {}⟩
  obtain ⟨-, -, turns, left, hturns, hending, hframe⟩ := hordered [1, 0] horder
  refine ⟨horder, turns, left, hturns, hending, hframe ⟨0⟩ fun t ht => ?_⟩
  -- No layer of the graph produces the image.
  let := integers
  have hnode := List.mem_of_getElem? (hturns.node_of_mem ht)
  have houtputs : ∀ n ∈ swapped, n.output ≠ ⟨0⟩ := by decide
  exact houtputs t.node hnode

end Graph

end ForwardPass

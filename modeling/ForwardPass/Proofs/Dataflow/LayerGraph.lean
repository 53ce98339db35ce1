import ForwardPass.Proofs.Dataflow.Effect
import ForwardPass.Proofs.Dataflow.Order

/-!
# Graphs of layers

`ofNodes` is the graph of some layers. Its order is legal for what the layers read and produce, and each of
its operators has one of three turns: it is not started, because an input of it is missing; it is stopped;
or it runs, and then its output is there.
-/

namespace ForwardPass

/-! ## Layers by their index -/

namespace LayerNode

variable {nodes : List LayerNode} {n m : LayerNode} {i j k : Nat} {l : List Nat}

/-- Where tensors have one producer each, two operators with one output are one. -/
theorem index_eq (houtputs : (nodes.map (·.output)).Nodup) (hn : nodes[i]? = some n)
    (hm : nodes[j]? = some m) (heq : n.output = m.output) : i = j := by
  have hlt : i < (nodes.map (·.output)).length := by
    rw [List.length_map]
    exact (List.getElem?_eq_some_iff.1 hn).1
  apply (List.getElem?_inj hlt houtputs).1
  rw [List.getElem?_map, List.getElem?_map, hn, hm, Option.map_some, Option.map_some, heq]

/-- One layer feeds another when it produces what that one reads. -/
theorem feeds (hn : nodes[i]? = some n) (hm : nodes[j]? = some m) (h : n.output ∈ m.inputs) :
    Dataflow.Feeds (nodes.map wiring) i j := by
  refine ⟨n.wiring, m.wiring, ?_, ?_, h⟩
  · rw [List.getElem?_map, hn, Option.map_some]
  · rw [List.getElem?_map, hm, Option.map_some]

/-- An order consists of indices of layers. -/
theorem exists_of_legal (hlegal : Dataflow.Legal (nodes.map wiring) l) (hk : k ∈ l) :
    ∃ n, nodes[k]? = some n := by
  have hlt := List.mem_range.1 (hlegal.perm.mem_iff.1 hk)
  rw [List.length_map] at hlt
  exact ⟨_, List.getElem?_eq_getElem hlt⟩

end LayerNode

/-! ## The graph -/

namespace Graph

variable {α : Type} [Scalar α] {nodes : List LayerNode} {n : LayerNode} {k : Nat} {blocks : Blocks}
  {e : Execution α}

/-- The graph of these layers, added in turn. -/
def ofNodes (nodes : List LayerNode) : Graph α :=
  nodes.foldl (fun graph n => (graph.add n.toOperator).1) {}

theorem operators_ofNodes (nodes : List LayerNode) :
    (ofNodes nodes : Graph α).operators = (nodes.map LayerNode.toOperator).toArray := by
  have hadded (graph : Graph α) : (nodes.foldl (fun graph n => (graph.add n.toOperator).1) graph).operators =
      graph.operators ++ (nodes.map LayerNode.toOperator).toArray := by
    induction nodes generalizing graph with
    | nil => simp
    | cons n nodes ih =>
      rw [List.foldl_cons, ih]
      simp [add]
  rw [ofNodes, hadded]
  simp

theorem order_ofNodes (nodes : List LayerNode) :
    (ofNodes nodes : Graph α).order = Dataflow.order (nodes.map LayerNode.wiring) := by
  rw [order, wirings, operators_ofNodes, List.toList_toArray, List.map_map]
  rfl

/-- An order of the graph is legal, and every tensor has one producer then. -/
theorem legal_of_order {l : List Nat} (h : (ofNodes nodes : Graph α).order = .ok l) :
    (nodes.map (·.output)).Nodup ∧ Dataflow.Legal (nodes.map LayerNode.wiring) l := by
  rw [order_ofNodes] at h
  obtain ⟨houtputs, hlegal⟩ := Dataflow.legal_of_order h
  rw [List.map_map] at houtputs
  exact ⟨houtputs, hlegal⟩

theorem getElem?_ofNodes (hn : nodes[k]? = some n) :
    (ofNodes nodes : Graph α).operators[k]? = some n.toOperator := by
  rw [operators_ofNodes, List.getElem?_toArray, List.getElem?_map, hn]
  rfl

/-! ## Turns of its operators -/

/-- How the turn of an operator may end. It is not started while an input is missing; it may be stopped, and
leaves the store as it was then; or it runs. -/
inductive Turned (blocks : Blocks) (k : Nat) (n : LayerNode) (e : Execution α) :
    EStateM.Result Failure (Execution α) Unit → Prop where
  | missing {before after : List TensorId} {id : TensorId} (inputs : n.inputs = before ++ id :: after)
      (first : ∀ id ∈ before, e.context.store.contains id = true)
      (absent : e.context.store.contains id = false) :
      Turned blocks k n e (.error (.error (.unknownTensor id)) e)
  | stopped {failure : Failure} {ledger : Ledger}
      (present : ∀ id ∈ n.inputs, e.context.store.contains id = true)
      (run : n.run blocks e.context = .error failure ⟨e.context.store, ledger⟩) :
      Turned blocks k n e (.error failure ⟨⟨e.context.store, ledger⟩, e.started ++ [k]⟩)
  | ran {left : Context α} (present : ∀ id ∈ n.inputs, e.context.store.contains id = true)
      (run : n.run blocks e.context = .ok () left) :
      Turned blocks k n e (.ok () ⟨left, e.started ++ [k]⟩)

theorem runOperator_turned (blocks : Blocks) (k : Nat) (n : LayerNode) (e : Execution α) :
    Turned blocks k n e (runOperator blocks k n.toOperator e) := by
  have hends := n.run_ends blocks e.context
  have hinputs : (n.toOperator (α := α)).inputs = n.inputs := rfl
  have hrunner : (n.toOperator (α := α)).run = n.run := rfl
  unfold runOperator
  rw [hinputs, hrunner]
  cases hfind : n.inputs.find? (fun id => !e.context.store.contains id) with
  | some id =>
    obtain ⟨habsent, before, after, hinputs, hfirst⟩ := List.find?_eq_some_iff_append.1 hfind
    exact .missing hinputs (fun id hid => by simpa using hfirst id hid) (by simpa using habsent)
  | none =>
    have hpresent : ∀ id ∈ n.inputs, e.context.store.contains id = true := by
      simpa using hfind
    dsimp only
    cases hrun : n.run blocks e.context with
    | error failure context =>
      obtain ⟨-, hstore⟩ := hends.of_error hrun
      obtain ⟨store, ledger⟩ := context
      cases hstore
      exact .stopped hpresent hrun
    | ok _ context =>
      -- What the operator has stored is there, so its output is not missed.
      have hproduced : context.store.contains (n.toOperator (α := α)).output = true :=
        LayerNode.contains_of_perform (hends.of_ok hrun).1
      dsimp only
      rw [if_pos hproduced]
      exact .ran hpresent hrun

end Graph

end ForwardPass

import ForwardPass.Proofs.Dataflow.Operator
import ForwardPass.Proofs.Dataflow.Order
import ForwardPass.Proofs.Network.Composition

/-!
# Lowered networks

The graph of a network is the chain of its stages, so its operators run in the order they were added. A run
of the chain follows the meaning of the stages as a pass does: it makes the same batches, leaves the same
ledger and meets the same obstacle, although each of its operators works in buffers of its own.
-/

namespace ForwardPass

/-! ## The chain -/

namespace Stage

variable {α : Type}

/-- The operator of a stage that reads the tensor `current`, which is the latest in its store. -/
def node (s : Stage α) (images current : Nat) : LayerNode :=
  match s.weights with
  | some _ => ⟨s.layer, images, ⟨current⟩, some ⟨current + 1⟩, ⟨current + 2⟩⟩
  | none => ⟨s.layer, images, ⟨current⟩, none, ⟨current + 1⟩⟩

/-- What a stage adds to the store: its weights, if it has any, and an id for its output. -/
def slots (s : Stage α) : List (Option (Tensor α)) :=
  match s.weights with
  | some t => [some t, none]
  | none => [none]

/-- The operators of stages, the first of which reads `current`. -/
def nodes (images : Nat) : List (Stage α) → Nat → List LayerNode
  | [], _ => []
  | s :: rest, current => s.node images current :: nodes images rest (s.node images current).output.index

theorem node_layer (s : Stage α) (images current : Nat) : (s.node images current).layer = s.layer := by
  unfold node
  split <;> rfl

theorem node_images (s : Stage α) (images current : Nat) : (s.node images current).images = images := by
  unfold node
  split <;> rfl

theorem node_input (s : Stage α) (images current : Nat) : (s.node images current).input = ⟨current⟩ := by
  unfold node
  split <;> rfl

/-- The output of a stage is the last of its slots. -/
theorem node_output (s : Stage α) (images current : Nat) :
    (s.node images current).output.index = current + s.slots.length := by
  unfold node slots
  split <;> rfl

/-- What an operator of a chain reads was there before its output. -/
theorem node_inputs_lt (s : Stage α) (images current : Nat) :
    ∀ id ∈ (s.node images current).input :: (s.node images current).weights.toList,
      id.index < (s.node images current).output.index := by
  unfold node
  split <;> simp

theorem length_nodes (images : Nat) (stages : List (Stage α)) (current : Nat) :
    (nodes images stages current).length = stages.length := by
  induction stages generalizing current with
  | nil => rfl
  | cons s rest ih => simp [nodes, ih]

/-- The outputs of a chain lie behind the tensor it starts from. -/
theorem lt_output {images current : Nat} {stages : List (Stage α)} :
    ∀ n ∈ nodes images stages current, current < n.output.index := by
  induction stages generalizing current with
  | nil =>
    intro n hn
    cases hn
  | cons s rest ih =>
    have hfirst : current < (s.node images current).output.index := by
      have := s.node_inputs_lt images current _ (List.mem_cons_self ..)
      rwa [node_input] at this
    intro n hn
    rcases List.mem_cons.1 hn with rfl | hn
    · exact hfirst
    · exact Nat.lt_trans hfirst (ih n hn)

variable [Scalar α]

/-- The operators of a chain are in order. -/
theorem nodes_inOrder (images : Nat) (stages : List (Stage α)) (current : Nat) :
    Dataflow.InOrder ((nodes images stages current).map fun n => (n.toOperator (α := α)).toWiring) := by
  induction stages generalizing current with
  | nil => exact ⟨fun w hw => (List.not_mem_nil hw).elim, List.Pairwise.nil⟩
  | cons s rest ih =>
    have hreads := s.node_inputs_lt images current
    have hrest := ih (s.node images current).output.index
    refine ⟨fun w hw hmem => ?_, List.pairwise_cons.2 ⟨fun later hlater => ?_, hrest.later⟩⟩
    · rcases List.mem_cons.1 hw with rfl | hw
      · exact Nat.lt_irrefl _ (hreads _ hmem)
      · exact hrest.fresh w hw hmem
    · -- Ids grow along the chain: what the first operator touches lies before every later output.
      obtain ⟨n, hn, rfl⟩ := List.mem_map.1 hlater
      have hbehind := lt_output n hn
      refine ⟨fun hmem => ?_, fun heq => ?_⟩
      · exact Nat.lt_asymm hbehind (hreads _ hmem)
      · exact Nat.ne_of_lt hbehind (congrArg TensorId.index heq)

end Stage

/-! ## The graph -/

namespace Network

variable {α : Type} [Scalar α]

theorem lowerStage_eq (s : Stage α) (images : Nat) (graph : Graph α) (store : TensorStore α)
    {current : Nat} (hstore : store.slots.size = current + 1) :
    lowerStage images s graph store ⟨current⟩ =
      (⟨graph.operators.push (s.node images current).toOperator⟩, ⟨store.slots ++ s.slots.toArray⟩,
        (s.node images current).output) := by
  unfold lowerStage Stage.node Stage.slots
  cases s.weights with
  | none => simp [TensorStore.reserve, Graph.add, hstore]
  | some t =>
    have hpush (slots : Array (Option (Tensor α))) :
        (slots.push (some t)).push none = slots ++ #[some t, none] := by
      apply Array.ext'
      simp
    simp [TensorStore.add, TensorStore.reserve, Graph.add, hstore, hpush]

/-- Stages that are lowered add their operators to the graph and their slots to the store. -/
theorem lowerStages_eq (images : Nat) (stages : List (Stage α)) (graph : Graph α)
    (store : TensorStore α) {current : Nat} (hstore : store.slots.size = current + 1) :
    ∃ last, stages.foldl (fun lowered s => lowerStage images s lowered.1 lowered.2.1 lowered.2.2)
        (graph, store, ⟨current⟩) =
      (⟨graph.operators ++ ((Stage.nodes images stages current).map (·.toOperator)).toArray⟩,
        ⟨store.slots ++ (stages.flatMap Stage.slots).toArray⟩, last) := by
  induction stages generalizing graph store current with
  | nil => exact ⟨⟨current⟩, by simp [Stage.nodes]⟩
  | cons s rest ih =>
    have hgrown : (store.slots ++ s.slots.toArray).size = (s.node images current).output.index + 1 := by
      simp only [Stage.node_output, Array.size_append, hstore, List.size_toArray]
      omega
    obtain ⟨last, hlast⟩ := ih ⟨graph.operators.push (s.node images current).toOperator⟩
      ⟨store.slots ++ s.slots.toArray⟩ hgrown
    refine ⟨last, ?_⟩
    rw [List.foldl_cons, lowerStage_eq s images graph store hstore]
    refine hlast.trans ?_
    simp [Stage.nodes]

/-- The graph of a network is the chain of its stages over the input. -/
theorem toGraph_eq (n : Network α) (input : Tensor α) :
    n.toGraph input = (⟨((Stage.nodes n.images n.stages 0).map (·.toOperator)).toArray⟩,
      ⟨(some input :: n.stages.flatMap Stage.slots).toArray⟩) := by
  obtain ⟨last, hlast⟩ := lowerStages_eq n.images n.stages {} ⟨#[some input]⟩
    (show 1 = 0 + 1 from rfl)
  refine (congrArg (fun lowered => (lowered.1, lowered.2.1)) hlast).trans ?_
  simp

end Network

/-! ## The store of a run -/

namespace Stage

variable {α : Type} {store : TensorStore α} {images current : Nat} {shape : Shape} {x : Batch α}
  {s : Stage α} {rest : List (Stage α)}

/-- A store before the stages `rest`: the latest tensor is the batch carried so far, and behind it are the
slots of these stages, as they were lowered. -/
structure Pending (store : TensorStore α) (images current : Nat) (shape : Shape) (x : Batch α)
    (rest : List (Stage α)) : Prop where
  carries : store.Carries ⟨current⟩ shape images x
  later : store.slots.toList.drop (current + 1) = rest.flatMap slots

/-- The next stage finds its input and its weights, and the id of its output. -/
theorem Pending.reads (h : Pending store images current s.layer.inputs x (s :: rest))
    (hw : s.weightData.size = s.layer.weightsSize) :
    (s.node images current).Reads store s.weightData x ∧
      (s.node images current).output.index < store.slots.size := by
  have hlater := h.later
  unfold node
  cases hweights : s.weights with
  | none =>
    rw [List.flatMap_cons, slots, hweights] at hlater
    have hdata : s.weightData = #[] := by rw [weightData, hweights]
    obtain ⟨houtput, -⟩ := getElem?_of_drop hlater
    exact ⟨⟨h.carries, hw, hdata⟩, (List.getElem?_eq_some_iff.1 houtput).1⟩
  | some t =>
    rw [List.flatMap_cons, slots, hweights] at hlater
    have hdata : t.data = s.weightData := by rw [weightData, hweights]
    obtain ⟨hslot, hlater⟩ := getElem?_of_drop hlater
    obtain ⟨houtput, -⟩ := getElem?_of_drop hlater
    rw [Array.getElem?_toList] at hslot
    exact ⟨⟨h.carries, hw, t, TensorStore.get?_of_getElem? hslot, hdata⟩,
      (List.getElem?_eq_some_iff.1 houtput).1⟩

/-- The output of the next stage becomes the latest tensor. -/
theorem Pending.stored (h : Pending store images current shape x (s :: rest)) {y : Batch α}
    (houtput : (s.node images current).output.index < store.slots.size) :
    Pending ((s.node images current).stored store y) images (s.node images current).output.index
      s.layer.outputs y rest where
  carries := by
    have hcarries := LayerNode.stored_carries (y := y) houtput
    rwa [node_layer, node_images] at hcarries
  later := by
    -- The output is the last slot of its stage, so the slots of the later stages are untouched.
    have hlater : store.slots.toList.drop ((s.node images current).output.index + 1) =
        rest.flatMap slots := by
      rw [node_output, Nat.add_right_comm, ← List.drop_drop, h.later, List.flatMap_cons,
        List.drop_left]
    rw [LayerNode.stored, Array.toList_setIfInBounds, List.drop_set_of_lt (Nat.lt_succ_self _)]
    exact hlater

variable [Scalar α]

/-- A stage without an obstacle is taken off the front. -/
theorem Pending.runOperator_completes (h : Pending store images current s.layer.inputs x (s :: rest))
    (hl : s.layer.Consistent) (hw : s.weightData.size = s.layer.weightsSize)
    (hnone : s.layer.obstacle? images = none) (blocks : Blocks) (index : Nat) (ledger : Ledger)
    (started : List Nat) :
    ∃ store', Graph.runOperator blocks index ((s.node images current).toOperator (α := α))
        ⟨⟨store, ledger⟩, started⟩ =
          .ok () ⟨⟨store', s.layer.account blocks images ledger⟩, started ++ [index]⟩ ∧
      Pending store' images (s.node images current).output.index s.layer.outputs (s.apply x) rest := by
  obtain ⟨hreads, houtput⟩ := h.reads hw
  have hrun := hreads.runOperator_completes (by rwa [node_layer]) (by rwa [node_layer, node_images])
    houtput blocks index ledger started
  rw [node_layer, node_images] at hrun
  exact ⟨_, hrun, h.stored houtput⟩

/-- A stage with an obstacle is stopped by it. -/
theorem Pending.runOperator_refused (h : Pending store images current s.layer.inputs x (s :: rest))
    (hl : s.layer.Consistent) (hw : s.weightData.size = s.layer.weightsSize) {e : EngineError}
    (he : s.layer.obstacle? images = some e) (blocks : Blocks) (index : Nat) (ledger : Ledger)
    (started : List Nat) :
    Graph.runOperator blocks index ((s.node images current).toOperator (α := α))
        ⟨⟨store, ledger⟩, started⟩ =
      .error (.error e) ⟨⟨store, s.layer.refusedAccount blocks images ledger⟩, started ++ [index]⟩ := by
  obtain ⟨hreads, -⟩ := h.reads hw
  have hrun := hreads.runOperator_refused (by rwa [node_layer]) (by rwa [node_layer, node_images])
    blocks index ledger started
  rwa [node_layer, node_images] at hrun

end Stage

/-! ## Runs -/

namespace Graph

variable {α : Type} [Scalar α] {g : Graph α} {n : Network α} {store : TensorStore α} {k current : Nat}
  {x : Batch α} {last : Option TensorId}

/-- Operators without an obstacle are run through, and the last of them stores the batch of all stages. -/
theorem runAll_completes (hn : n.Sound) {rest : List (Stage α)} (hrest : n.stages.drop k = rest)
    (hk : k ≤ n.stages.length)
    (hops : g.operators.toList.drop k = (Stage.nodes n.images rest current).map (·.toOperator))
    (hpending : Stage.Pending store n.images current (n.shapeAt k) x rest)
    (hlast : rest = [] → last = some ⟨current⟩) (hnone : Stage.obstacle? n.images rest = none)
    (blocks : Blocks) (ledger : Ledger) (started : List Nat) :
    ∃ id e, g.runAll blocks (List.range' k rest.length) last ⟨⟨store, ledger⟩, started⟩ =
        .ok (some id) e ∧
      id = ((Stage.nodes n.images rest current).map (·.output)).getLastD ⟨current⟩ ∧
      e.context.ledger = Stage.accounts blocks n.images rest ledger ∧
      e.context.store.Carries id n.outputShape n.images (Stage.applyAll rest x) := by
  -- The same induction as for a pass, with the store in place of the two buffers.
  induction rest generalizing k current store x last ledger started with
  | nil =>
    obtain rfl : k = n.stages.length := Nat.le_antisymm hk (List.drop_eq_nil_iff.1 hrest)
    have hcarries := hpending.carries
    rw [n.shapeAt_length] at hcarries
    rw [hlast rfl]
    exact ⟨⟨current⟩, _, rfl, rfl, rfl, hcarries⟩
  | cons s rest ih =>
    obtain ⟨hs, hrest'⟩ := getElem?_of_drop hrest
    obtain ⟨hop, hops'⟩ := getElem?_of_drop hops
    rw [Array.getElem?_toList] at hop
    have hmem := List.mem_of_getElem? hs
    have hlt : k < n.stages.length := (List.getElem?_eq_some_iff.1 hs).1
    have hall := Stage.obstacle?_eq_none_iff.1 hnone
    have hstage := hall s (List.mem_cons_self ..)
    rw [Network.shapeAt, hs] at hpending
    obtain ⟨store', hstep, hpending'⟩ := hpending.runOperator_completes (hn.consistent s hmem)
      (hn.weights s hmem) hstage blocks k ledger started
    rw [← hn.shapeAt_succ hs] at hpending'
    obtain ⟨id, e, hrun, hid, hledger, hcarries⟩ := ih hrest' hlt hops' hpending' (fun _ => rfl)
      (Stage.obstacle?_eq_none_iff.2 fun t ht => hall t (List.mem_cons_of_mem s ht))
      (s.layer.account blocks n.images ledger) (started ++ [k])
    refine ⟨id, e, ?_, ?_, ?_, hcarries⟩
    · rw [List.length_cons, List.range'_succ, runAll_cons hop, bind_of_ok hstep]
      exact hrun
    · rw [hid, Stage.nodes, List.map_cons, List.getLastD_cons]
    · rw [hledger, Stage.accounts, hstage]

/-- The first operator with an obstacle stops the run. -/
theorem runAll_refused (hn : n.Sound) {rest : List (Stage α)} (hrest : n.stages.drop k = rest)
    (hops : g.operators.toList.drop k = (Stage.nodes n.images rest current).map (·.toOperator))
    (hpending : Stage.Pending store n.images current (n.shapeAt k) x rest) {before : Nat}
    {e : EngineError} (he : Stage.obstacle? n.images rest = some (before, e)) (blocks : Blocks)
    (ledger : Ledger) (started : List Nat) (last : Option TensorId) :
    ∃ run, g.runAll blocks (List.range' k rest.length) last ⟨⟨store, ledger⟩, started⟩ =
        .error (.error e) run ∧
      run.context.ledger = Stage.accounts blocks n.images rest ledger := by
  induction rest generalizing k current store x last ledger started before with
  | nil => cases he
  | cons s rest ih =>
    obtain ⟨hs, hrest'⟩ := getElem?_of_drop hrest
    obtain ⟨hop, hops'⟩ := getElem?_of_drop hops
    rw [Array.getElem?_toList] at hop
    have hmem := List.mem_of_getElem? hs
    rw [Network.shapeAt, hs] at hpending
    rw [Stage.obstacle?] at he
    rw [List.length_cons, List.range'_succ, runAll_cons hop, Stage.accounts]
    cases hstage : s.layer.obstacle? n.images with
    | some e' =>
      rw [hstage] at he
      cases he
      have hstep := hpending.runOperator_refused (hn.consistent s hmem) (hn.weights s hmem) hstage
        blocks k ledger started
      exact ⟨_, bind_of_error hstep _, rfl⟩
    | none =>
      rw [hstage] at he
      obtain ⟨⟨before, e'⟩, hbefore, heq⟩ := Option.map_eq_some_iff.1 he
      cases heq
      obtain ⟨store', hstep, hpending'⟩ := hpending.runOperator_completes (hn.consistent s hmem)
        (hn.weights s hmem) hstage blocks k ledger started
      rw [← hn.shapeAt_succ hs] at hpending'
      rw [bind_of_ok hstep]
      exact ih hrest' hops' hpending' hbefore _ _ _

end Graph

namespace Network

variable {α : Type} [Scalar α]

/-- The stages of a network run in their order. -/
theorem order_toGraph (n : Network α) (input : Tensor α) :
    (n.toGraph input).1.order = .ok (List.range n.stages.length) := by
  have horder := Dataflow.order_eq_ok (Stage.nodes_inOrder n.images n.stages 0)
  rw [List.length_map, Stage.length_nodes] at horder
  rw [toGraph_eq, Graph.order, Graph.wirings]
  simpa [Function.comp_def] using horder

/-- The graph begins with the input, before all stages. -/
theorem pending_toGraph (n : Network α) {input : Tensor α} (hi : Pass.Fits n input) :
    Stage.Pending (n.toGraph input).2 n.images 0 (n.shapeAt 0) (n.inputShape.read input.data) n.stages := by
  rw [toGraph_eq, n.shapeAt_zero]
  refine ⟨⟨input, rfl, hi.shape, hi.batch, ?_⟩, rfl⟩
  exact n.inputShape.holds_read (by rw [input.size_data, hi.shape, hi.batch])

/-- The operators of the graph, from the first stage on. -/
theorem operators_toGraph (n : Network α) (input : Tensor α) :
    (n.toGraph input).1.operators.toList.drop 0 =
      (Stage.nodes n.images n.stages 0).map (·.toOperator) := by
  rw [toGraph_eq]
  rfl

/-- The output of the last operator. -/
theorem last_output_toGraph (n : Network α) (input : Tensor α) :
    (n.toGraph input).1.operators.back?.map (·.output) =
      some (((Stage.nodes n.images n.stages 0).map (·.output)).getLastD ⟨0⟩) := by
  have hne : Stage.nodes n.images n.stages 0 ≠ [] := by
    intro hnil
    have hlength := Stage.length_nodes n.images n.stages 0
    rw [hnil] at hlength
    exact n.stages_ne_nil (List.length_eq_zero_iff.1 hlength.symm)
  rw [toGraph_eq, List.back?_toArray, List.getLast?_map, Option.map_map, List.getLastD_eq_getLast?,
    List.getLast?_map, List.getLast?_eq_some_getLast hne]
  rfl

/-- The graph of a network without an obstacle runs through. -/
theorem run_toGraph_completes {n : Network α} (hn : n.Sound) {input : Tensor α} (hi : Pass.Fits n input)
    (hnone : Stage.obstacle? n.images n.stages = none) (blocks : Blocks) (ledger : Ledger) :
    ∃ id e, (n.toGraph input).1.run blocks ⟨⟨(n.toGraph input).2, ledger⟩, []⟩ = .ok id e ∧
      (n.toGraph input).1.operators.back?.map (·.output) = some id ∧
      e.context.ledger = Stage.accounts blocks n.images n.stages ledger ∧
      e.context.store.Carries id n.outputShape n.images
        (Stage.applyAll n.stages (n.inputShape.read input.data)) := by
  have hlast : n.stages = [] → none = some (⟨0⟩ : TensorId) := fun hnil => absurd hnil n.stages_ne_nil
  obtain ⟨id, e, hrun, rfl, hledger, hcarries⟩ := Graph.runAll_completes hn List.drop_zero
    (Nat.zero_le _) (n.operators_toGraph input) (n.pending_toGraph hi) hlast hnone blocks ledger []
  refine ⟨_, e, Graph.run_of_ok (n.order_toGraph input) ?_, n.last_output_toGraph input, hledger, hcarries⟩
  rw [List.range_eq_range']
  exact hrun

/-- The graph of a network is stopped by the first obstacle. -/
theorem run_toGraph_refused {n : Network α} (hn : n.Sound) {input : Tensor α} (hi : Pass.Fits n input)
    {before : Nat} {cause : EngineError}
    (hfirst : Stage.obstacle? n.images n.stages = some (before, cause)) (blocks : Blocks)
    (ledger : Ledger) :
    ∃ e, (n.toGraph input).1.run blocks ⟨⟨(n.toGraph input).2, ledger⟩, []⟩ =
        .error (.error cause) e ∧
      e.context.ledger = Stage.accounts blocks n.images n.stages ledger := by
  obtain ⟨e, hrun, hledger⟩ := Graph.runAll_refused hn List.drop_zero (n.operators_toGraph input)
    (n.pending_toGraph hi) hfirst blocks ledger [] none
  refine ⟨e, Graph.run_of_error (n.order_toGraph input) ?_, hledger⟩
  rw [List.range_eq_range']
  exact hrun

/-! ## Two ways to run a network -/

/-- A pass and a run of a graph end alike: with one output, which the last operator of the graph has
stored, or with one error, and in either case with one ledger. -/
inductive EndAlike (g : Graph α) :
    EStateM.Result Failure (Run α) Slot → EStateM.Result Failure (Execution α) TensorId → Prop where
  | completed {slot : Slot} {run : Run α} {id : TensorId} {e : Execution α} {t u : Tensor α}
      (output : run.pass.output = .ok t) (stored : e.context.store.get? id = some u)
      (shape : u.shape = t.shape) (batch : u.batch = t.batch) (data : u.data = t.data)
      (last : g.operators.back?.map (·.output) = some id)
      (ledger : e.context.ledger = run.ledger) : EndAlike g (.ok slot run) (.ok id e)
  | stopped {cause : EngineError} {run : Run α} {e : Execution α}
      (ledger : e.context.ledger = run.ledger) :
      EndAlike g (.error (.error cause) run) (.error (.error cause) e)

omit [Scalar α] in
/-- A tensor that stores a batch is that batch, apart from its name. -/
theorem data_eq_of_holds {t : Tensor α} {x : Batch α} (h : t.shape.Holds t.batch t.data x) :
    t.data = t.shape.tabulate t.batch x := by
  rw [← h.extract_eq, ← t.size_data, Array.extract_size]

/-- The operators of a network run in the order of its layers, and a run of them ends as a pass does,
whatever the buffers of the pass held before. -/
theorem toGraph_endAlike {name : String} {images : Nat} {layers : List Layer}
    {weights : List (Option (Tensor α))} {n : Network α} {p : Pass α} {input : Tensor α}
    (h : ofLayers name images layers weights = .ok n) (hlayers : ∀ l ∈ layers, l.Constructed)
    (hp : p.Over n) (hi : Pass.Fits n input) (blocks : Blocks) (ledger : Ledger) :
    (n.toGraph input).1.order = .ok (List.range n.stages.length) ∧
      EndAlike (n.toGraph input).1 (Pass.forward blocks input ⟨p, ledger⟩)
        ((n.toGraph input).1.run blocks ⟨⟨(n.toGraph input).2, ledger⟩, []⟩) := by
  have hn := sound_of_ofLayers h fun l hl => (hlayers l hl).consistent
  refine ⟨n.order_toGraph input, ?_⟩
  cases hobstacle : Stage.obstacle? n.images n.stages with
  -- Both runs are told by the stages alone: by the same obstacle, batch and accounts.
  | none =>
    obtain ⟨p', hforward, hat⟩ := hp.forward_completes blocks ledger hn hi hobstacle
    obtain ⟨id, e, hrun, hlast, hledger, u, hstored, hshape, hbatch, hholds⟩ :=
      run_toGraph_completes hn hi hobstacle blocks ledger
    rw [hforward, hrun]
    refine .completed hat.output_eq hstored hshape hbatch ?_ hlast hledger
    rw [← hshape, ← hbatch] at hholds
    rw [data_eq_of_holds hholds, hshape, hbatch]
    rfl
  | some first =>
    obtain ⟨before, cause⟩ := first
    obtain ⟨p', hforward, -⟩ := hp.forward_refused blocks ledger hn hi hobstacle
    obtain ⟨e, hrun, hledger⟩ := run_toGraph_refused hn hi hobstacle blocks ledger
    rw [hforward, hrun]
    exact .stopped hledger

/-- A finished pass over the small network, in buffers with stale values. -/
def stalePass : Pass Int where
  network := Pass.small
  buffers := ⟨Array.replicate Pass.small.bufferSize 7, Array.replicate Pass.small.bufferSize (-7), .result⟩
  next := 3
  result := some .result

theorem toGraph_endAlike_small :
    ofLayers "small" 1 Pass.smallLayers Pass.smallWeights = .ok Pass.small ∧
      (∀ l ∈ Pass.smallLayers, l.Constructed) ∧ stalePass.Over Pass.small ∧
      Pass.Fits Pass.small (Pass.counting "input" ⟨2, 3, 1, 5⟩ 1 1) ∧
      let input := Pass.counting "input" ⟨2, 3, 1, 5⟩ 1 1
      let lowered := @toGraph Int integers Pass.small input
      let ended := lowered.1.run {} ⟨⟨lowered.2, {}⟩, []⟩
      lowered.1.order = .ok [0, 1, 2] ∧
      EndAlike lowered.1 (@Pass.forward Int integers {} input ⟨stalePass, {}⟩) ended ∧
      (match ended with
        | .ok id _ => some id
        | .error _ _ => none) = some ⟨5⟩ := by
  have hconstructed : ∀ l ∈ Pass.smallLayers, l.Constructed := fun l hl =>
    (Pass.regular_smallLayers l hl).constructed
  have hover : stalePass.Over Pass.small := ⟨rfl, Array.size_replicate, Array.size_replicate⟩
  have hfits : Pass.Fits Pass.small (Pass.counting "input" ⟨2, 3, 1, 5⟩ 1 1) := ⟨rfl, rfl⟩
  obtain ⟨horder, halike⟩ := @toGraph_endAlike Int integers "small" 1 _ Pass.smallWeights _ _ _ rfl
    hconstructed hover hfits {} {}
  exact ⟨rfl, hconstructed, hover, hfits, horder, halike, by decide +kernel⟩

end Network

end ForwardPass

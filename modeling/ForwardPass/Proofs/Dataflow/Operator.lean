import ForwardPass.Dataflow.Lowering
import ForwardPass.Proofs.Layer.Execution

/-!
# Layers as operators

An operator works in fresh buffers, which are as long as its layer needs. What it reads from the store is
all that its run depends on, so it does what its layer does in any other buffers, and stores the batch the
layer makes.
-/

namespace ForwardPass

variable {α : Type} {store : TensorStore α} {x y : Batch α} {images : Nat}

/-! ## Stores -/

namespace TensorStore

/-- A batch of images of this shape is stored under the id. -/
def Carries (store : TensorStore α) (id : TensorId) (shape : Shape) (images : Nat) (x : Batch α) : Prop :=
  ∃ t, store.get? id = some t ∧ t.shape = shape ∧ t.batch = images ∧ shape.Holds images t.data x

theorem get?_of_getElem? {id : TensorId} {t : Tensor α} (h : store.slots[id.index]? = some (some t)) :
    store.get? id = some t := by
  rw [get?, h]
  rfl

theorem get_eq_ok {id : TensorId} {t : Tensor α} (h : store.get? id = some t) : store.get id = .ok t := by
  rw [get, h]

theorem contains_of_get? {id : TensorId} {t : Tensor α} (h : store.get? id = some t) :
    store.contains id = true := by
  rw [contains, h]
  rfl

end TensorStore

namespace LayerNode

variable {n : LayerNode} {weights data : Array α}

/-! ## Reading -/

/-- The store has what the layer reads: a batch of its input shape, and weights as many as it needs. -/
structure Reads (n : LayerNode) (store : TensorStore α) (weights : Array α) (x : Batch α) : Prop where
  input : store.Carries n.input n.layer.inputs n.images x
  size : weights.size = n.layer.weightsSize
  weights : match n.weights with
    | none => weights = #[]
    | some id => ∃ t, store.get? id = some t ∧ t.data = weights

/-- Every tensor an operator reads is there. -/
theorem Reads.inputs_contained (h : n.Reads store weights x) :
    ∀ id ∈ n.input :: n.weights.toList, store.contains id = true := by
  intro id hid
  rcases List.mem_cons.1 hid with rfl | hid
  · obtain ⟨t, ht, -⟩ := h.input
    exact TensorStore.contains_of_get? ht
  · have hweights := h.weights
    rw [Option.mem_toList] at hid
    rw [hid] at hweights
    obtain ⟨t, ht, -⟩ := hweights
    exact TensorStore.contains_of_get? ht

variable [Scalar α]

/-- The operands are the weights and a fresh buffer that begins with the batch. -/
theorem Reads.operands_eq (h : n.Reads store weights x) :
    ∃ activations, n.operands store = .ok (activations, weights) ∧
      activations.size = n.images * n.layer.footprint ∧
      n.layer.inputs.Holds n.images activations x := by
  obtain ⟨t, ht, hshape, hbatch, hholds⟩ := h.input
  have hsize : t.data.size = n.images * n.layer.inputs.size := by
    rw [t.size_data, hshape, hbatch]
  have hroom : t.data.size ≤ n.images * n.layer.footprint := by
    rw [hsize]
    exact Nat.mul_le_mul_left _ n.layer.inputs_size_le
  -- The batch is put at the front of fresh zeros, which have room for the layer's footprint.
  obtain ⟨activations, hput, hwritten⟩ : Yields
      (Buffer.put (Array.replicate (n.images * n.layer.footprint) (0 : α)) 0 t.data.toList)
      (Buffer.Written _ (Buffer.Within 0 t.data.size) fun i => t.data.getD i 0) := by
    refine Buffer.put_yields Array.length_toList ?_ fun j hj => ?_
    · rw [Nat.zero_add, Array.size_replicate]
      exact hroom
    · simp [hj]
  refine ⟨activations, ?_, hwritten.size.trans Array.size_replicate, hholds.of_prefix fun i hi => ?_⟩
  · have hfits : ¬ (t.shape ≠ n.layer.inputs ∨ t.batch ≠ n.images) := by
      simp [hshape, hbatch]
    have hweights := h.weights
    unfold operands
    simp only [TensorStore.get_eq_ok ht, Except.mapError, bind, Except.bind, if_neg hfits, hput]
    cases hid : n.weights with
    | none =>
      rw [hid] at hweights
      rw [hweights]
      rfl
    | some id =>
      rw [hid] at hweights
      obtain ⟨u, hu, rfl⟩ := hweights
      simp only [TensorStore.get_eq_ok hu]
      rfl
  · have hlt : i < t.data.size := hsize ▸ hi
    rw [hwritten.inside i ⟨Nat.zero_le i, by omega⟩]
    simp [hlt]

/-- The workbench of an operator, with its fresh buffers. -/
def bench (n : LayerNode) (ledger : Ledger) (activations : Array α) : Workbench α :=
  ⟨ledger, activations, Array.replicate (n.images * n.layer.footprint) 0⟩

theorem Reads.ready (h : n.Reads store weights x) {activations : Array α}
    (hsize : activations.size = n.images * n.layer.footprint) (ledger : Ledger) :
    n.layer.Ready n.images weights (n.bench ledger activations) where
  activations := Nat.le_of_eq hsize.symm
  result := Nat.le_of_eq Array.size_replicate.symm
  weights := Nat.le_of_eq h.size.symm

/-! ## Publishing -/

omit [Scalar α] in
/-- The store once the layer has put its batch there. -/
def stored (n : LayerNode) (store : TensorStore α) (y : Batch α) : TensorStore α :=
  ⟨store.slots.setIfInBounds n.output.index
    (some (.ofBatch n.layer.name n.layer.outputs n.images y))⟩

omit [Scalar α] in
theorem publish_eq_ok (hy : n.layer.outputs.Holds n.images data y)
    (houtput : n.output.index < store.slots.size) : n.publish data store = .ok (n.stored store y) := by
  unfold publish
  rw [Tensor.ofPadded_eq_ok hy]
  exact if_pos houtput

omit [Scalar α] in
theorem stored_get? (houtput : n.output.index < store.slots.size) :
    (n.stored store y).get? n.output = some (.ofBatch n.layer.name n.layer.outputs n.images y) := by
  refine TensorStore.get?_of_getElem? ?_
  rw [stored, Array.getElem?_setIfInBounds_self_of_lt houtput]

omit [Scalar α] in
theorem stored_carries (houtput : n.output.index < store.slots.size) :
    (n.stored store y).Carries n.output n.layer.outputs n.images y :=
  ⟨_, stored_get? houtput, rfl, rfl, Shape.holds_tabulate ..⟩

/-! ## Running -/

theorem Reads.run_completes (h : n.Reads store weights x) (hl : n.layer.Consistent)
    (hnone : n.layer.obstacle? n.images = none) (houtput : n.output.index < store.slots.size)
    (blocks : Blocks) (ledger : Ledger) :
    n.run blocks ⟨store, ledger⟩ = .ok () ⟨n.stored store (n.layer.apply weights x),
      n.layer.account blocks n.images ledger⟩ := by
  obtain ⟨activations, hoperands, hsize, hholds⟩ := h.operands_eq
  obtain ⟨landing, w, hrun, hlanded⟩ :=
    Layer.run_completes blocks hl (h.ready hsize ledger) hnone hholds
  rw [bench] at hrun
  unfold run
  simp only [hoperands, hrun, publish_eq_ok hlanded.holds houtput]
  rw [hlanded.ledger]
  rfl

theorem Reads.run_refused (h : n.Reads store weights x) (hl : n.layer.Consistent) {e : EngineError}
    (he : n.layer.obstacle? n.images = some e) (blocks : Blocks) (ledger : Ledger) :
    n.run blocks ⟨store, ledger⟩ = .error (.error e)
      ⟨store, n.layer.refusedAccount blocks n.images ledger⟩ := by
  obtain ⟨activations, hoperands, hsize, -⟩ := h.operands_eq
  obtain ⟨w, hrun, hrefused⟩ := Layer.run_refused blocks hl (h.ready hsize ledger) he
  rw [bench] at hrun
  unfold run
  simp only [hoperands, hrun]
  rw [hrefused.ledger]
  rfl

/-- An operator whose inputs are there is started. -/
theorem Reads.runOperator_eq (h : n.Reads store weights x) (blocks : Blocks) (index : Nat)
    (ledger : Ledger) (started : List Nat) :
    Graph.runOperator blocks index (n.toOperator (α := α)) ⟨⟨store, ledger⟩, started⟩ =
      match n.run blocks ⟨store, ledger⟩ with
      | .error failure context => .error failure ⟨context, started ++ [index]⟩
      | .ok () context =>
        if context.store.contains n.output then .ok () ⟨context, started ++ [index]⟩
        else .error (.error (.invalidGraph (.nothingProduced n.layer.name n.output)))
          ⟨context, started ++ [index]⟩ := by
  have hnone : (n.input :: n.weights.toList).find? (fun id => !store.contains id) = none := by
    rw [List.find?_eq_none]
    intro id hid
    simp [h.inputs_contained id hid]
  unfold Graph.runOperator
  simp only [toOperator, hnone]
  rfl

/-- An operator without an obstacle stores the batch its layer makes. -/
theorem Reads.runOperator_completes (h : n.Reads store weights x) (hl : n.layer.Consistent)
    (hnone : n.layer.obstacle? n.images = none) (houtput : n.output.index < store.slots.size)
    (blocks : Blocks) (index : Nat) (ledger : Ledger) (started : List Nat) :
    Graph.runOperator blocks index (n.toOperator (α := α)) ⟨⟨store, ledger⟩, started⟩ =
      .ok () ⟨⟨n.stored store (n.layer.apply weights x), n.layer.account blocks n.images ledger⟩,
        started ++ [index]⟩ := by
  rw [h.runOperator_eq, h.run_completes hl hnone houtput]
  exact if_pos (TensorStore.contains_of_get? (stored_get? houtput))

/-- An operator with an obstacle is stopped by it. -/
theorem Reads.runOperator_refused (h : n.Reads store weights x) (hl : n.layer.Consistent)
    {e : EngineError} (he : n.layer.obstacle? n.images = some e) (blocks : Blocks) (index : Nat)
    (ledger : Ledger) (started : List Nat) :
    Graph.runOperator blocks index (n.toOperator (α := α)) ⟨⟨store, ledger⟩, started⟩ =
      .error (.error e) ⟨⟨store, n.layer.refusedAccount blocks n.images ledger⟩, started ++ [index]⟩ := by
  rw [h.runOperator_eq, h.run_refused hl he]

end LayerNode

/-! ## Runs of a graph -/

namespace Graph

variable {g : Graph α} {blocks : Blocks} {order : List Nat} {e e' : Execution α}

theorem runAll_cons {index : Nat} {op : Operator α} (hop : g.operators[index]? = some op)
    (blocks : Blocks) (rest : List Nat) (last : Option TensorId) :
    g.runAll blocks (index :: rest) last =
      (runOperator blocks index op >>= fun _ => g.runAll blocks rest (some op.output)) := by
  rw [runAll, hop]

/-- What a run answers once it is through with all operators. -/
def answer : Option TensorId → EStateM Failure (Execution α) TensorId
  | some output => pure output
  | none => throw (.error (.invalidGraph .noOperators))

/-- A run goes through its operators in their order. -/
theorem run_eq (horder : g.order = .ok order) (blocks : Blocks) :
    g.run blocks = g.runAll blocks order none >>= answer := by
  unfold run
  rw [horder]
  rfl

theorem run_of_ok (horder : g.order = .ok order) {id : TensorId}
    (h : g.runAll blocks order none e = .ok (some id) e') : g.run blocks e = .ok id e' := by
  rw [run_eq horder, bind_of_ok h]
  rfl

theorem run_of_error (horder : g.order = .ok order) {failure : Failure}
    (h : g.runAll blocks order none e = .error failure e') : g.run blocks e = .error failure e' := by
  rw [run_eq horder, bind_of_error h]

/-- Without an order nothing is run. -/
theorem run_of_unordered {cause : EngineError} (horder : g.order = .error cause) :
    g.run blocks e = .error (.error cause) e := by
  unfold run
  rw [horder]
  rfl

/-- An operator that gives a result has left its output in the store. -/
theorem contains_of_runOperator {index : Nat} {op : Operator α}
    (h : runOperator blocks index op e = .ok () e') : e'.context.store.contains op.output = true := by
  unfold runOperator at h
  split at h
  · cases h
  · dsimp only at h
    split at h
    · cases h
    · split at h
      · next hcontains =>
        cases h
        exact hcontains
      · cases h

/-- What operators answer with is in the store behind the last of them. -/
theorem contains_of_runAll {last out : Option TensorId} (hlast : ∀ id ∈ last, e.context.store.contains id)
    (h : g.runAll blocks order last e = .ok out e') : ∀ id ∈ out, e'.context.store.contains id = true := by
  induction order generalizing last e with
  | nil =>
    cases h
    exact hlast
  | cons index rest ih =>
    cases hop : g.operators[index]? with
    | none =>
      rw [runAll, hop] at h
      exact ih hlast h
    | some op =>
      rw [runAll_cons hop] at h
      obtain ⟨_, between, hran, hrest⟩ := bind_eq_ok_from h
      refine ih (fun id hid => ?_) hrest
      cases hid
      exact contains_of_runOperator hran

/-- What a run answers with is in the store. -/
theorem exists_get_of_run {id : TensorId} (h : g.run blocks e = .ok id e') :
    ∃ t, e'.context.store.get id = .ok t := by
  cases horder : g.order with
  | error cause =>
    rw [run_of_unordered horder] at h
    cases h
  | ok order =>
    rw [run_eq horder] at h
    obtain ⟨out, between, hran, hanswer⟩ := bind_eq_ok_from h
    cases out with
    | none => cases hanswer
    | some output =>
      cases hanswer
      have hcontains := contains_of_runAll (fun id hid => (Option.not_mem_none id hid).elim) hran _ rfl
      obtain ⟨t, ht⟩ := Option.isSome_iff_exists.1 hcontains
      exact ⟨t, TensorStore.get_eq_ok ht⟩

end Graph

end ForwardPass

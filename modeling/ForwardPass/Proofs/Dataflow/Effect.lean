import ForwardPass.Proofs.Dataflow.Operator

/-!
# What an operator does to a store

A layer as an operator reads the tensors of its inputs and writes the one of its output. `make` is the tensor
it makes, which has nothing to do with the ledger, and `perform` puts it in the store. A run of the operator
is that and its accounts; one that is stopped leaves the store alone.
-/

namespace ForwardPass

variable {α : Type}

/-! ## Stores -/

namespace TensorStore

variable {store store' : TensorStore α} {id id' : TensorId} {t t' : Tensor α}

/-- The store with this tensor under the id, if the id was given out. -/
def set (store : TensorStore α) (id : TensorId) (t : Tensor α) : TensorStore α :=
  ⟨store.slots.setIfInBounds id.index (some t)⟩

@[simp]
theorem size_set (store : TensorStore α) (id : TensorId) (t : Tensor α) :
    (store.set id t).slots.size = store.slots.size := Array.size_setIfInBounds

theorem index_ne (h : id ≠ id') : id.index ≠ id'.index := by
  intro heq
  apply h
  cases id
  cases id'
  exact congrArg TensorId.mk heq

theorem get?_set_self (h : id.index < store.slots.size) : (store.set id t).get? id = some t := by
  apply get?_of_getElem?
  rw [set, Array.getElem?_setIfInBounds_self_of_lt h]

/-- A tensor is stored in its own slot. -/
theorem slots_set_of_ne (h : id' ≠ id) : (store.set id t).slots[id'.index]? = store.slots[id'.index]? := by
  rw [set, Array.getElem?_setIfInBounds_ne (index_ne h.symm)]

theorem get?_set_of_ne (h : id' ≠ id) : (store.set id t).get? id' = store.get? id' := by
  rw [get?, get?, slots_set_of_ne h]

theorem set_comm (h : id ≠ id') : (store.set id t).set id' t' = (store.set id' t').set id t := by
  have hne := index_ne h
  simp only [set, Array.setIfInBounds_comm _ _ hne]

theorem get_congr (h : store.get? id = store'.get? id) : store.get id = store'.get id := by
  rw [get, get, h]

end TensorStore

namespace LayerNode

variable {n : LayerNode} {store store' : TensorStore α}

/-- The tensors the layer reads, in the order it asks for them. -/
def inputs (n : LayerNode) : List TensorId := n.input :: n.weights.toList

/-- The layer as the order sees it. -/
def wiring (n : LayerNode) : Wiring := ⟨n.layer.name, n.inputs, n.output⟩

theorem input_mem (n : LayerNode) : n.input ∈ n.inputs := List.mem_cons_self ..

theorem weights_mem {id : TensorId} (h : n.weights = some id) : id ∈ n.inputs := by
  simp [inputs, h]

variable [Scalar α]

/-! ## The tensor an operator makes -/

/-- What a layer reads is all its operands depend on. -/
theorem operands_congr (h : ∀ id ∈ n.inputs, store.get? id = store'.get? id) :
    n.operands store = n.operands store' := by
  have hinput := TensorStore.get_congr (h n.input n.input_mem)
  unfold operands
  rw [hinput]
  cases hweights : n.weights with
  | none => rfl
  | some id =>
    have hid := TensorStore.get_congr (h id (weights_mem hweights))
    simp only [hid]

/-- Operands are read from tensors that are there. -/
theorem contains_of_operands {found : Array α × Array α} (h : n.operands store = .ok found) :
    ∀ id ∈ n.inputs, store.contains id = true := by
  unfold operands at h
  cases hinput : store.get? n.input with
  | none => simp [TensorStore.get, hinput, Except.mapError, bind, Except.bind] at h
  | some t =>
    simp only [TensorStore.get_eq_ok hinput, Except.mapError, bind, Except.bind] at h
    split at h
    · cases h
    split at h
    · cases h
    have hthere := TensorStore.contains_of_get? hinput
    cases hid : n.weights with
    | none => simp [inputs, hid, hthere]
    | some id =>
      rw [hid] at h
      cases hweights : store.get? id with
      | none => simp [TensorStore.get, hweights] at h
      | some u => simp [inputs, hid, hthere, TensorStore.contains_of_get? hweights]

/-- The tensor the layer makes of the tensors in a store. -/
def make (n : LayerNode) (store : TensorStore α) : Except Failure (Tensor α) := do
  let (activations, weights) ← n.operands store
  match n.layer.attempt weights n.images activations (Array.replicate (n.images * n.layer.footprint) 0) with
  | .error failure _ => .error failure
  | .ok landing (activations, result) =>
    (Tensor.ofPadded n.layer.name n.layer.outputs n.images
      (Workbench.target ⟨{}, activations, result⟩ landing)).mapError Failure.error

theorem make_congr (h : ∀ id ∈ n.inputs, store.get? id = store'.get? id) : n.make store = n.make store' := by
  rw [make, make, operands_congr h]

theorem contains_of_make {t : Tensor α} (h : n.make store = .ok t) :
    ∀ id ∈ n.inputs, store.contains id = true := by
  cases hoperands : n.operands store with
  | error failure =>
    rw [make, hoperands] at h
    cases h
  | ok found => exact contains_of_operands hoperands

/-! ## The store it leaves -/

/-- What the operator makes of a store, unless it is stopped. -/
def perform (n : LayerNode) (store : TensorStore α) : Option (TensorStore α) :=
  match n.make store with
  | .ok t => if n.output.index < store.slots.size then some (store.set n.output t) else none
  | .error _ => none

theorem perform_eq_some : n.perform store = some store' ↔
    ∃ t, n.make store = .ok t ∧ n.output.index < store.slots.size ∧ store.set n.output t = store' := by
  unfold perform
  cases n.make store with
  | ok t => simp
  | error failure => simp

theorem perform_of_make {t : Tensor α} (h : n.make store = .ok t) :
    n.perform store =
      if n.output.index < store.slots.size then some (store.set n.output t) else none := by
  rw [perform, h]

theorem perform_of_error {failure : Failure} (h : n.make store = .error failure) :
    n.perform store = none := by
  rw [perform, h]

/-- What the operator publishes is what it performs. -/
theorem publish_ends {data : Array α} (h : n.make store =
    (Tensor.ofPadded n.layer.name n.layer.outputs n.images data).mapError Failure.error) :
    Ends (n.publish data store) (fun store' => n.perform store = some store')
      fun _ => n.perform store = none := by
  unfold publish
  cases hdata : Tensor.ofPadded n.layer.name n.layer.outputs n.images data with
  | error e =>
    rw [hdata] at h
    exact perform_of_error h
  | ok t =>
    rw [hdata] at h
    have hperform := perform_of_make h
    by_cases houtput : n.output.index < store.slots.size
    · rw [if_pos houtput] at hperform
      have hput : store.put n.output t = .ok (store.set n.output t) := if_pos houtput
      simp only [bind, Except.bind, hput]
      exact hperform
    · rw [if_neg houtput] at hperform
      have hput : store.put n.output t = .error (.unknownTensor n.output) := if_neg houtput
      simp only [bind, Except.bind, hput]
      exact hperform

/-- Without one of its inputs an operator is stopped. -/
theorem perform_of_absent {id : TensorId} (hid : id ∈ n.inputs) (habsent : store.contains id = false) :
    n.perform store = none := by
  cases hmake : n.make store with
  | error failure => exact perform_of_error hmake
  | ok t =>
    have hthere := contains_of_make hmake id hid
    rw [habsent] at hthere
    cases hthere

/-- A run does to the store what the operator performs, and to the ledger what the layer accounts for. One
that is stopped leaves the store alone. -/
theorem run_ends (n : LayerNode) (blocks : Blocks) (c : Context α) :
    EndsFrom (n.run blocks) c
      (fun _ c' => n.perform c.store = some c'.store ∧
        c'.ledger = n.layer.account blocks n.images c.ledger)
      fun _ c' => n.perform c.store = none ∧ c'.store = c.store := by
  unfold EndsFrom run
  cases hoperands : n.operands c.store with
  | error failure =>
    have hmake : n.make c.store = .error failure := by
      rw [make, hoperands]
      rfl
    exact ⟨perform_of_error hmake, rfl⟩
  | ok found =>
    obtain ⟨activations, weights⟩ := found
    have hends := n.layer.run_ends blocks weights n.images (n.bench c.ledger activations)
    dsimp only
    cases hrun : n.layer.run blocks weights n.images (n.bench c.ledger activations) with
    | error failure w =>
      have hattempt := hends.of_error hrun
      rw [bench] at hrun hattempt
      have hmake : n.make c.store = .error failure := by
        simp only [make, hoperands, hattempt, bind, Except.bind]
      rw [hrun]
      exact ⟨perform_of_error hmake, rfl⟩
    | ok landing w =>
      obtain ⟨hledger, hattempt⟩ := hends.of_ok hrun
      rw [bench] at hrun hattempt
      have hmake : n.make c.store = (Tensor.ofPadded n.layer.name n.layer.outputs n.images
          (w.target landing)).mapError Failure.error := by
        simp only [make, hoperands, hattempt, bind, Except.bind]
        cases landing <;> rfl
      have hpublish := publish_ends hmake
      rw [hrun]
      dsimp only
      cases hstore : n.publish (w.target landing) c.store with
      | error e => exact ⟨hpublish.of_error hstore, rfl⟩
      | ok store => exact ⟨hpublish.of_ok hstore, hledger⟩

/-- An operator that ran has stored its output. -/
theorem contains_of_perform (h : n.perform store = some store') : store'.contains n.output = true := by
  obtain ⟨t, -, houtput, rfl⟩ := perform_eq_some.1 h
  exact TensorStore.contains_of_get? (TensorStore.get?_set_self houtput)

/-- It has left all other slots alone. -/
theorem slots_of_perform (h : n.perform store = some store') {id : TensorId} (hid : id ≠ n.output) :
    store'.slots[id.index]? = store.slots[id.index]? := by
  obtain ⟨t, -, -, rfl⟩ := perform_eq_some.1 h
  exact TensorStore.slots_set_of_ne hid

end LayerNode

end ForwardPass

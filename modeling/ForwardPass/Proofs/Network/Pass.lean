import ForwardPass.Network.Pass
import ForwardPass.Proofs.Layer.Execution
import ForwardPass.Proofs.Network.Stages

/-!
# Forward passes

A pass follows the meaning of its stages: `At` is its invariant, which says that the live buffer begins
with the batch carried so far and says nothing of what else the buffers hold. A step takes the invariant
from one stage to the next, unless the stage has an obstacle; from this follows what a whole pass does.
-/

namespace ForwardPass.Pass

variable {α : Type} [Scalar α] {p : Pass α} {n : Network α} {x : Batch α} {k : Nat}
  {blocks : Blocks} {ledger : Ledger}

/-! ## The invariant -/

/-- A pass over `n` in buffers of the size the network asks for. -/
structure Over (p : Pass α) (n : Network α) : Prop where
  network : p.network = n
  activations : p.buffers.activations.size = n.bufferSize
  result : p.buffers.result.size = n.bufferSize

/-- A pass before stage `k`, with the batch carried so far. The output is marked behind the last
stage only. -/
structure At (p : Pass α) (n : Network α) (k : Nat) (x : Batch α) : Prop where
  sized : p.Over n
  next : p.next = k
  marked : p.result = if k < n.stages.length then none else some p.buffers.live
  holds : (n.shapeAt k).Holds n.images p.buffers.liveBuffer x

/-- A pass that stopped at stage `k`. -/
structure StoppedAt (p : Pass α) (n : Network α) (k : Nat) : Prop where
  sized : p.Over n
  next : p.next = k
  marked : p.result = none

/-- A pass that has just been started works in buffers of the size its network asks for. -/
theorem over_start (n : Network α) : (start n).Over n where
  network := rfl
  activations := Array.size_replicate
  result := Array.size_replicate

omit [Scalar α] in
theorem Over.size_buffer (h : p.Over n) (slot : Slot) : (p.buffers.buffer slot).size = n.bufferSize := by
  cases slot with
  | activations => exact h.activations
  | result => exact h.result

omit [Scalar α] in
theorem Over.setBuffers (h : p.Over n) {live other : Array α} (hlive : live.size = n.bufferSize)
    (hother : other.size = n.bufferSize) : (p.setBuffers live other).Over n := by
  obtain ⟨network, ⟨activations, result, slot⟩, next, marked⟩ := p
  cases slot with
  | activations => exact ⟨h.network, hlive, hother⟩
  | result => exact ⟨h.network, hother, hlive⟩

omit [Scalar α] in
theorem Over.advance (h : p.Over n) (landing : Landing) : (p.advance landing).Over n := by
  cases landing <;> exact ⟨h.network, h.activations, h.result⟩

omit [Scalar α] in
/-- What a layer leaves where it landed is live next. -/
theorem liveBuffer_advance (p : Pass α) (w : Workbench α) (landing : Landing) :
    ((p.setBuffers w.activations w.result).advance landing).buffers.liveBuffer = w.target landing := by
  obtain ⟨network, ⟨activations, result, slot⟩, next, marked⟩ := p
  cases slot <;> cases landing <;> rfl

omit [Scalar α] in
theorem result_advance (p : Pass α) (landing : Landing) :
    (p.advance landing).result =
      if p.next + 1 < p.network.stages.length then p.result
      else some (p.advance landing).buffers.live := by
  unfold advance
  dsimp only
  split <;> split <;> first | omega | rfl

/-! ## One step -/

/-- The workbench a step hands to its layer. -/
def bench (p : Pass α) (ledger : Ledger) : Workbench α :=
  ⟨ledger, p.buffers.liveBuffer, p.buffers.otherBuffer⟩

omit [Scalar α] in
/-- The workbench of a step has room for its layer. -/
theorem Over.ready (hn : n.Weighted) (h : p.Over n) {s : Stage α} (hs : s ∈ n.stages) (ledger : Ledger) :
    s.layer.Ready n.images s.weightData (p.bench ledger) where
  activations := by
    rw [bench, DoubleBuffer.liveBuffer, h.size_buffer]
    exact n.footprint_le hs
  result := by
    rw [bench, DoubleBuffer.otherBuffer, h.size_buffer]
    exact n.footprint_le hs
  weights := Nat.le_of_eq (hn s hs).symm

omit [Scalar α] in
/-- The workbench of a step holds what its layer reads. -/
theorem At.bench_holds (h : p.At n k x) {s : Stage α} (hs : n.stages[k]? = some s) (ledger : Ledger) :
    s.layer.inputs.Holds n.images (p.bench ledger).activations x := by
  have hholds := h.holds
  rwa [Network.shapeAt, hs] at hholds

omit [Scalar α] in
theorem At.stage (h : p.At n k x) {s : Stage α} (hs : n.stages[k]? = some s) :
    p.network.stages[p.next]? = some s := by
  rw [h.sized.network, h.next, hs]

/-- A step is a run of its layer on the workbench. -/
theorem step_eq {s : Stage α} (hs : p.network.stages[p.next]? = some s) (blocks : Blocks)
    (ledger : Ledger) :
    step blocks ⟨p, ledger⟩ =
      match s.layer.run blocks s.weightData p.network.images (p.bench ledger) with
      | .ok landing w =>
        .ok ((p.setBuffers w.activations w.result).advance landing).buffers.live
          ⟨(p.setBuffers w.activations w.result).advance landing, w.ledger⟩
      | .error failure w => .error failure ⟨p.setBuffers w.activations w.result, w.ledger⟩ := by
  unfold step
  dsimp only
  rw [hs]
  rfl

/-- A step over a stage without an obstacle carries the batch on. -/
theorem At.step_completes (blocks : Blocks) (ledger : Ledger) (hn : n.Sound) (h : p.At n k x)
    {s : Stage α} (hs : n.stages[k]? = some s) (hnone : s.layer.obstacle? n.images = none) :
    ∃ p', step blocks ⟨p, ledger⟩ = .ok p'.buffers.live
        ⟨p', s.layer.account blocks n.images ledger⟩ ∧ p'.At n (k + 1) (s.apply x) := by
  have hmem := List.mem_of_getElem? hs
  have hlt : k < n.stages.length := (List.getElem?_eq_some_iff.1 hs).1
  obtain ⟨landing, w, hrun, hlanded⟩ := Layer.run_completes blocks (hn.consistent s hmem)
    (h.sized.ready hn.weights hmem ledger) hnone (h.bench_holds hs ledger)
  have hover : (p.setBuffers w.activations w.result).Over n :=
    h.sized.setBuffers (hlanded.activations.trans (h.sized.size_buffer _))
      (hlanded.result.trans (h.sized.size_buffer _))
  refine ⟨(p.setBuffers w.activations w.result).advance landing, ?_, hover.advance landing, ?_, ?_, ?_⟩
  · have hledger : w.ledger = s.layer.account blocks n.images ledger := hlanded.ledger
    rw [step_eq (h.stage hs), h.sized.network, hrun, ← hledger]
  · exact congrArg (· + 1) h.next
  · have hmarked : (p.setBuffers w.activations w.result).result = none := by
      have := h.marked
      rwa [if_pos hlt] at this
    rw [result_advance, hmarked, hover.network]
    exact if_congr (by rw [show (p.setBuffers w.activations w.result).next = k from h.next]) rfl rfl
  · rw [hn.shapeAt_succ hs, liveBuffer_advance]
    exact hlanded.holds

/-- A step over a stage with an obstacle is stopped by it. -/
theorem At.step_refused (blocks : Blocks) (ledger : Ledger) (hn : n.Sound) (h : p.At n k x)
    {s : Stage α} (hs : n.stages[k]? = some s) {e : EngineError}
    (he : s.layer.obstacle? n.images = some e) :
    ∃ p', step blocks ⟨p, ledger⟩ = .error (.error e)
        ⟨p', s.layer.refusedAccount blocks n.images ledger⟩ ∧ p'.StoppedAt n k := by
  have hmem := List.mem_of_getElem? hs
  have hlt : k < n.stages.length := (List.getElem?_eq_some_iff.1 hs).1
  obtain ⟨w, hrun, hrefused⟩ := Layer.run_refused blocks (hn.consistent s hmem)
    (h.sized.ready hn.weights hmem ledger) he
  refine ⟨p.setBuffers w.activations w.result, ?_, ?_, h.next, ?_⟩
  · have hledger : w.ledger = s.layer.refusedAccount blocks n.images ledger := hrefused.ledger
    rw [step_eq (h.stage hs), h.sized.network, hrun, ← hledger]
  · exact h.sized.setBuffers (hrefused.activations.trans (h.sized.size_buffer _))
      (hrefused.result.trans (h.sized.size_buffer _))
  · have hmarked := h.marked
    rwa [if_pos hlt] at hmarked

/-! ## All steps -/

/-- Before the last stage has run, the next of many steps is a step. -/
theorem At.steps_succ (h : p.At n k x) (hlt : k < n.stages.length) (count : Nat) :
    steps blocks (count + 1) ⟨p, ledger⟩ =
      (step blocks >>= fun _ => steps blocks count) ⟨p, ledger⟩ := by
  have hdone : ¬ p.isDone = true := by
    rw [isDone, h.sized.network, h.next]
    simpa using hlt
  rw [steps, bind_get, if_neg hdone]

/-- Stages without an obstacle are run through. -/
theorem At.steps_completes (blocks : Blocks) (ledger : Ledger) (hn : n.Sound)
    {rest : List (Stage α)} (hrest : n.stages.drop k = rest) (hk : k ≤ n.stages.length) (h : p.At n k x)
    (hnone : Stage.obstacle? n.images rest = none) :
    ∃ p', steps blocks rest.length ⟨p, ledger⟩ =
        .ok () ⟨p', Stage.accounts blocks n.images rest ledger⟩ ∧
      p'.At n n.stages.length (Stage.applyAll rest x) := by
  -- The invariant is carried along the stages that are left; `k` counts those that are done.
  induction rest generalizing k p x ledger with
  | nil =>
    obtain rfl : k = n.stages.length := Nat.le_antisymm hk (List.drop_eq_nil_iff.1 hrest)
    exact ⟨p, rfl, h⟩
  | cons s rest ih =>
    obtain ⟨hs, hrest'⟩ := getElem?_of_drop hrest
    have hlt : k < n.stages.length := (List.getElem?_eq_some_iff.1 hs).1
    have hall := Stage.obstacle?_eq_none_iff.1 hnone
    have hstage := hall s (List.mem_cons_self ..)
    obtain ⟨p₁, hstep, hat⟩ := h.step_completes blocks ledger hn hs hstage
    obtain ⟨p₂, hsteps, hat'⟩ := ih _ hrest' hlt hat
      (Stage.obstacle?_eq_none_iff.2 fun t ht => hall t (List.mem_cons_of_mem s ht))
    refine ⟨p₂, ?_, hat'⟩
    rw [List.length_cons, h.steps_succ hlt, bind_of_ok hstep, Stage.accounts, hstage]
    exact hsteps

/-- The first stage with an obstacle stops the run. -/
theorem At.steps_refused (blocks : Blocks) (ledger : Ledger) (hn : n.Sound)
    {rest : List (Stage α)} (hrest : n.stages.drop k = rest) (h : p.At n k x) {before : Nat}
    {e : EngineError} (he : Stage.obstacle? n.images rest = some (before, e)) :
    ∃ p', steps blocks rest.length ⟨p, ledger⟩ =
        .error (.error e) ⟨p', Stage.accounts blocks n.images rest ledger⟩ ∧
      p'.StoppedAt n (k + before) := by
  induction rest generalizing k p x ledger before with
  | nil => cases he
  | cons s rest ih =>
    obtain ⟨hs, hrest'⟩ := getElem?_of_drop hrest
    have hlt : k < n.stages.length := (List.getElem?_eq_some_iff.1 hs).1
    rw [Stage.obstacle?] at he
    rw [List.length_cons, h.steps_succ hlt, Stage.accounts]
    cases hstage : s.layer.obstacle? n.images with
    | some e' =>
      -- The first stage that is left stops the run, before any other is looked at.
      rw [hstage] at he
      cases he
      obtain ⟨p₁, hstep, hstopped⟩ := h.step_refused blocks ledger hn hs hstage
      exact ⟨p₁, bind_of_error hstep _, hstopped⟩
    | none =>
      rw [hstage] at he
      obtain ⟨⟨before, e'⟩, hrest'', heq⟩ := Option.map_eq_some_iff.1 he
      cases heq
      obtain ⟨p₁, hstep, hat⟩ := h.step_completes blocks ledger hn hs hstage
      obtain ⟨p₂, hsteps, hstopped⟩ := ih _ hrest' hat hrest''
      refine ⟨p₂, ?_, ?_⟩
      · rw [bind_of_ok hstep]
        exact hsteps
      · rwa [Nat.add_assoc, Nat.add_comm 1 before] at hstopped

/-! ## A whole pass -/

/-- An input fits a network when it has its input shape and its number of images. -/
structure Fits (n : Network α) (input : Tensor α) : Prop where
  shape : input.shape = n.inputShape
  batch : input.batch = n.images

omit [Scalar α] in
/-- An input that fits has room in the buffers. -/
theorem Fits.size_le {input : Tensor α} (hi : Fits n input) : input.data.size ≤ n.bufferSize := by
  rw [input.size_data, hi.shape, hi.batch]
  exact Nat.le_trans (Nat.mul_le_mul_left _ (Layer.inputs_size_le _))
    (n.footprint_le (List.head_mem n.stages_ne_nil))

/-- Loading clears what it does not fill. -/
theorem reset_activations (b : DoubleBuffer α) {data : Array α} (h : data.size ≤ b.activations.size) :
    (b.reset data).activations = data ++ Array.replicate (b.activations.size - data.size) 0 := by
  have hmin : min data.size b.size = data.size := Nat.min_eq_left h
  rw [DoubleBuffer.reset, hmin, Array.extract_size]

/-- An input that fits is loaded. -/
theorem Over.load_eq (h : p.Over n) {input : Tensor α} (hi : Fits n input) :
    p.load input = .ok { p with buffers := p.buffers.reset input.data, next := 0, result := none } := by
  unfold Pass.load
  rw [h.network, if_neg (by simp [hi.shape, hi.batch])]

/-- An input that does not fit is refused. -/
theorem Over.load_refused (h : p.Over n) {input : Tensor α} (hi : ¬ Fits n input) :
    p.load input = .error (.shapeMismatch n.name
      (.input input.batch input.shape n.images n.inputShape)) := by
  have hmisfit : input.shape ≠ n.inputShape ∨ input.batch ≠ n.images :=
    not_and_or.1 fun h => hi ⟨h.1, h.2⟩
  unfold Pass.load
  rw [h.network, if_pos hmisfit]

/-- Loading keeps the sizes of both buffers. -/
theorem Over.reset (h : p.Over n) {input : Tensor α} (hi : Fits n input) :
    Over { p with buffers := p.buffers.reset input.data, next := 0, result := none } n where
  network := h.network
  activations := by
    have hfits := hi.size_le
    dsimp only
    rw [reset_activations p.buffers (h.activations.symm ▸ hfits), Array.size_append,
      Array.size_replicate, h.activations]
    omega
  result := (Array.size_replicate ..).trans h.result

/-- Loading an input that fits goes back to the first stage, whatever the buffers held. -/
theorem Over.load (h : p.Over n) {input : Tensor α} (hi : Fits n input) :
    ∃ p', p.load input = .ok p' ∧ p'.At n 0 (n.inputShape.read input.data) := by
  have hactivations := reset_activations p.buffers (h.activations.symm ▸ hi.size_le)
  have hheld : n.inputShape.Holds n.images input.data (n.inputShape.read input.data) :=
    n.inputShape.holds_read (by rw [input.size_data, hi.shape, hi.batch])
  refine ⟨_, h.load_eq hi, h.reset hi, rfl, ?_, ?_⟩
  · exact (if_pos (List.length_pos_iff.2 n.stages_ne_nil)).symm
  · -- The input lies at the front, and no shape asks for more than the input holds.
    rw [n.shapeAt_zero]
    refine hheld.of_prefix fun i hlt => ?_
    have hlt' : i < input.data.size := by rwa [input.size_data, hi.shape, hi.batch]
    change (p.buffers.reset input.data).activations[i]? = _
    rw [hactivations, Array.getElem?_append_left hlt']

/-- A whole pass is its steps from where the input is loaded. -/
theorem forward_eq {input : Tensor α} {p₀ : Pass α} (hload : p.load input = .ok p₀) :
    forward blocks input ⟨p, ledger⟩ =
      (steps blocks (p₀.network.stages.length - p₀.next) >>= fun _ =>
        get >>= fun run => pure run.pass.buffers.live) ⟨p₀, ledger⟩ := by
  unfold forward
  rw [bind_get]
  dsimp only
  rw [hload]
  rfl

/-- Without an obstacle a whole pass goes through, and the live buffer holds the batch of all stages. -/
theorem Over.forward_completes (blocks : Blocks) (ledger : Ledger) (hn : n.Sound)
    (h : p.Over n) {input : Tensor α} (hi : Fits n input)
    (hnone : Stage.obstacle? n.images n.stages = none) :
    ∃ p', forward blocks input ⟨p, ledger⟩ = .ok p'.buffers.live
        ⟨p', Stage.accounts blocks n.images n.stages ledger⟩ ∧
      p'.At n n.stages.length (Stage.applyAll n.stages (n.inputShape.read input.data)) := by
  obtain ⟨p₀, hload, hat⟩ := h.load hi
  obtain ⟨p', hsteps, hat'⟩ := hat.steps_completes blocks ledger hn rfl
    (Nat.zero_le _) hnone
  refine ⟨p', ?_, hat'⟩
  rw [forward_eq hload, hat.sized.network, hat.next, Nat.sub_zero]
  exact bind_of_ok hsteps _

/-- The first obstacle stops a whole pass. -/
theorem Over.forward_refused (blocks : Blocks) (ledger : Ledger) (hn : n.Sound)
    (h : p.Over n) {input : Tensor α} (hi : Fits n input) {before : Nat} {e : EngineError}
    (he : Stage.obstacle? n.images n.stages = some (before, e)) :
    ∃ p', forward blocks input ⟨p, ledger⟩ = .error (.error e)
        ⟨p', Stage.accounts blocks n.images n.stages ledger⟩ ∧ p'.StoppedAt n before := by
  obtain ⟨p₀, hload, hat⟩ := h.load hi
  obtain ⟨p', hsteps, hstopped⟩ := hat.steps_refused blocks ledger hn rfl he
  rw [Nat.zero_add] at hstopped
  refine ⟨p', ?_, hstopped⟩
  rw [forward_eq hload, hat.sized.network, hat.next, Nat.sub_zero]
  exact bind_of_error hsteps _

/-! ## The output -/

omit [Scalar α] in
/-- Behind the last stage the output is the batch that was carried there. -/
theorem At.output_eq (h : p.At n n.stages.length x) :
    p.output = .ok (.ofBatch "output" n.outputShape n.images x) := by
  have hmarked : p.result = some p.buffers.live := by
    have := h.marked
    rwa [if_neg (Nat.lt_irrefl _)] at this
  have hheld := h.holds
  rw [n.shapeAt_length] at hheld
  have hsize : 0 + n.images * n.outputShape.size ≤ p.buffers.liveBuffer.size := by
    rw [Nat.zero_add]
    exact hheld.le_size
  -- What the live buffer holds behind the output, from earlier and larger layers, is cut off.
  have hslice : n.outputShape.Holds n.images
      (p.buffers.liveBuffer.extract 0 (0 + n.images * n.outputShape.size)) x :=
    hheld.of_prefix fun i hi => by rw [Buffer.getElem?_extract hi, Nat.zero_add]
  unfold output
  rw [hmarked, h.sized.network]
  dsimp only
  rw [← DoubleBuffer.liveBuffer, Buffer.slice_eq_ok hsize]
  change (Tensor.ofPadded "output" n.outputShape n.images _).mapError Failure.error = _
  rw [Tensor.ofPadded_eq_ok hslice]
  rfl

end ForwardPass.Pass

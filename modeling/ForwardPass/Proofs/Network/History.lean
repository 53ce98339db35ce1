import Mathlib.Algebra.Group.Nat.Even
import ForwardPass.Proofs.Network.Composition
import ForwardPass.Proofs.Network.Step

/-!
# Histories

A pass is used by loading inputs into it, taking single steps and running what is left, in any order, and
each of these may be refused on the way. `Reached` are the passes that a history of such calls leads to, and
`Tracked` is their invariant: the counter, the live slot and the mark of the output, which different calls
change, never disagree.
-/

namespace ForwardPass

variable {α : Type}

/-! ## Crossings -/

/-- How many of the first `k` layers of a network leave their output in the buffer they do not read. -/
def Network.crossings (n : Network α) (k : Nat) : Nat :=
  (n.layers.take k).countP fun l => l.landing = .across

theorem Network.crossings_succ {n : Network α} {k : Nat} {s : Stage α} (hs : n.stages[k]? = some s) :
    n.crossings (k + 1) = n.crossings k + if s.layer.landing = .across then 1 else 0 := by
  have hlayer : n.layers[k]? = some s.layer := by simp [layers, hs]
  simp [crossings, List.take_add_one, hlayer, List.countP_cons]

theorem Layer.landing_eq_across_iff {l : Layer} :
    l.landing = .across ↔ ¬ (l.kind = .convolution ∧ l.border > 0) := by
  simp [landing]

theorem Slot.other_eq_activations_iff {slot : Slot} : slot.other = .activations ↔ ¬ slot = .activations := by
  cases slot <;> simp [other]

namespace Pass

variable {p : Pass α} {n : Network α}

/-! ## The invariant -/

/-- What counter, live slot and mark of a pass over `n` have to do with each other. -/
structure Tracked (p : Pass α) (n : Network α) : Prop where
  sized : p.Over n
  next_le : p.next ≤ n.stages.length
  marked : p.result = if p.next < n.stages.length then none else some p.buffers.live
  live : p.buffers.live = .activations ↔ Even (n.crossings p.next)

/-- Whatever lies in them, buffers of the right size keep the invariant. -/
theorem Tracked.setBuffers (h : p.Tracked n) {live other : Array α} (hlive : live.size = n.bufferSize)
    (hother : other.size = n.bufferSize) : (p.setBuffers live other).Tracked n where
  sized := h.sized.setBuffers hlive hother
  next_le := h.next_le
  marked := by
    rw [live_setBuffers]
    exact h.marked
  live := by
    rw [live_setBuffers]
    exact h.live

/-- A layer that has run moves the counter on, and the live slot and the mark with it. -/
theorem Tracked.advance (h : p.Tracked n) {s : Stage α} (hs : n.stages[p.next]? = some s) :
    (p.advance s.layer.landing).Tracked n where
  sized := h.sized.advance s.layer.landing
  next_le := (List.getElem?_eq_some_iff.1 hs).1
  marked := by
    have hlt : p.next < n.stages.length := (List.getElem?_eq_some_iff.1 hs).1
    rw [result_advance, h.marked, if_pos hlt, h.sized.network]
    rfl
  live := by
    change (p.buffers.commit s.layer.landing).live = .activations ↔ Even (n.crossings (p.next + 1))
    rw [Network.crossings_succ hs]
    -- A layer that works in place neither changes the live slot nor is it counted.
    cases s.layer.landing with
    | inPlace => simpa [DoubleBuffer.commit] using h.live
    | across => simp [DoubleBuffer.commit, Slot.other_eq_activations_iff, Nat.even_add_one, h.live]

theorem Tracked.isSome_result_iff (h : p.Tracked n) : p.result.isSome ↔ p.next = n.stages.length := by
  have hle := h.next_le
  rw [h.marked]
  split <;> simp <;> omega

theorem Tracked.eq_live_of_result (h : p.Tracked n) {slot : Slot} (hslot : p.result = some slot) :
    slot = p.buffers.live := by
  rw [h.marked] at hslot
  split at hslot
  · cases hslot
  · exact (Option.some.inj hslot).symm

/-- Without a mark there is no output. -/
theorem output_eq_error (h : p.result = none) :
    p.output = .error (.error (.shapeMismatch p.network.name .passUnfinished)) := by
  unfold output
  rw [h]

/-- Behind the last layer, and only there, the output can be copied. -/
theorem Tracked.output_iff (h : p.Tracked n) : (∃ t, p.output = .ok t) ↔ p.next = n.stages.length := by
  constructor
  · rintro ⟨t, ht⟩
    refine h.isSome_result_iff.1 ?_
    cases hresult : p.result with
    | none =>
      rw [output_eq_error hresult] at ht
      cases ht
    | some slot => rfl
  · intro hdone
    have hroom : n.images * n.outputShape.size ≤ n.bufferSize :=
      Nat.le_trans (Nat.mul_le_mul_left _ (Layer.outputs_size_le _))
        (n.footprint_le (List.getLast_mem n.stages_ne_nil))
    have hslice : 0 + n.images * n.outputShape.size ≤ (p.buffers.buffer p.buffers.live).size := by
      rwa [h.sized.size_buffer, Nat.zero_add]
    obtain ⟨t, ht⟩ : ∃ t, Tensor.ofPadded "output" n.outputShape n.images
        ((p.buffers.buffer p.buffers.live).extract 0 (0 + n.images * n.outputShape.size)) = .ok t :=
      ⟨_, dif_neg (by rw [Array.size_extract]; omega)⟩
    refine ⟨t, ?_⟩
    unfold output
    rw [h.marked, if_neg (by simp [hdone]), h.sized.network]
    dsimp only
    rw [Buffer.slice_eq_ok hslice]
    change (Tensor.ofPadded "output" n.outputShape n.images _).mapError Failure.error = _
    rw [ht]
    rfl

variable [Scalar α] {blocks : Blocks} {ledger : Ledger} {input : Tensor α}

/-! ## Calls -/

/-- Load an input into the pass of a run. -/
def reload (input : Tensor α) : EStateM Failure (Run α) Unit := do
  match (← get).pass.load input with
  | .error e => throw (.error e)
  | .ok pass => modify fun run => { run with pass }

theorem reload_eq (input : Tensor α) (run : Run α) :
    reload input run = match run.pass.load input with
      | .error e => .error (.error e) run
      | .ok pass => .ok () { run with pass } := by
  unfold reload
  rw [bind_get]
  cases run.pass.load input <;> rfl

/-- A whole pass loads its input and runs what is left then, which is every layer. -/
theorem forward_eq_reload (blocks : Blocks) (input : Tensor α) :
    forward blocks input = (reload input >>= fun _ => finish blocks) := by
  funext run
  have hreload := reload_eq input run
  unfold forward
  rw [bind_get]
  dsimp only
  cases hload : run.pass.load input with
  | error e =>
    rw [hload] at hreload
    rw [bind_of_error hreload]
    rfl
  | ok pass =>
    rw [hload] at hreload
    rw [bind_of_ok hreload]
    rfl

/-- What a pass may be asked for. -/
inductive Call (α : Type) where
  /-- Load an input. -/
  | load (input : Tensor α)
  /-- Run the next layer. -/
  | step
  /-- Run every layer that is left. -/
  | finish
  /-- Load an input and run every layer. -/
  | forward (input : Tensor α)

namespace Call

def perform (blocks : Blocks) : Call α → EStateM Failure (Run α) Unit
  | .load input => reload input
  | .step => discard (Pass.step blocks)
  | .finish => discard (Pass.finish blocks)
  | .forward input => discard (Pass.forward blocks input)

/-- The run that a call leaves, whether it gave a result or was refused. A call that breaks a contract
leaves none. -/
def after (c : Call α) (blocks : Blocks) (run : Run α) : Option (Run α) :=
  match c.perform blocks run with
  | .ok () run => some run
  | .error (.error _) run => some run
  | .error (.fault _) _ => none

end Call

/-- The passes over `n` that calls lead to. Every call may use hardware blocks and a ledger of its own. -/
inductive Reached (n : Network α) : Pass α → Prop where
  | start : Reached n (start n)
  | call {p : Pass α} {run : Run α} (c : Call α) (blocks : Blocks) (ledger : Ledger) (reached : Reached n p)
      (after : c.after blocks ⟨p, ledger⟩ = some run) : Reached n run.pass

theorem Reached.get (h : Reached n p) {c : Call α} (hafter : (c.after blocks ⟨p, ledger⟩).isSome) :
    Reached n ((c.after blocks ⟨p, ledger⟩).get hafter).pass :=
  .call c blocks ledger h (Option.some_get hafter).symm

/-! ## What keeps the invariant -/

theorem tracked_start (n : Network α) : (start n).Tracked n where
  sized := over_start n
  next_le := Nat.zero_le _
  marked := (if_pos (List.length_pos_iff.2 n.stages_ne_nil)).symm
  live := by simp [start, DoubleBuffer.zeros, Network.crossings]

/-- Whatever a pass over `n` was used for, loading takes it back to where a pass starts. -/
theorem Over.tracked_of_load (h : p.Over n) {p' : Pass α} (hload : p.load input = .ok p') :
    p'.Tracked n ∧ p'.next = 0 := by
  by_cases hi : Fits n input
  · rw [h.load_eq hi] at hload
    cases hload
    refine ⟨⟨h.reset hi, Nat.zero_le _, ?_, ?_⟩, rfl⟩
    · exact (if_pos (List.length_pos_iff.2 n.stages_ne_nil)).symm
    · simp [DoubleBuffer.reset, Network.crossings]
  · rw [h.load_refused hi] at hload
    cases hload

/-- How a computation that keeps a property of its pass may end: after a broken contract there is no pass
to speak of. -/
def Keeps {β : Type} (I : Pass α → Prop) (x : EStateM Failure (Run α) β) (run : Run α) : Prop :=
  EndsFrom x run (fun _ run => I run.pass) fun failure run => failure.IsFault ∨ I run.pass

/-- A property that is kept by loading an input and by running a layer. -/
structure Kept (I : Pass α → Prop) : Prop where
  load : ∀ {p p' : Pass α} {input : Tensor α}, I p → p.load input = .ok p' → I p'
  step : ∀ {p : Pass α}, I p → ∀ blocks ledger, Keeps I (Pass.step blocks) ⟨p, ledger⟩

namespace Kept

variable {I : Pass α → Prop}

theorem steps (hI : Kept I) (h : I p) (blocks : Blocks) (ledger : Ledger) (count : Nat) :
    Keeps I (Pass.steps blocks count) ⟨p, ledger⟩ := by
  -- Each step starts from whatever pass and ledger the one before it left.
  induction count generalizing p ledger with
  | zero => exact h
  | succ count ih =>
    rw [Pass.steps]
    refine EndsFrom.bind_get ?_
    dsimp only
    split
    · exact h
    · exact (hI.step h blocks ledger).bind fun _ run hrun => ih hrun run.ledger

theorem finish (hI : Kept I) (h : I p) (blocks : Blocks) (ledger : Ledger) :
    Keeps I (Pass.finish blocks) ⟨p, ledger⟩ := by
  unfold Pass.finish
  refine EndsFrom.bind_get ?_
  exact (hI.steps h blocks ledger _).bind fun _ run hrun => hrun

theorem reload (hI : Kept I) (h : I p) (ledger : Ledger) (input : Tensor α) :
    Keeps I (Pass.reload input) ⟨p, ledger⟩ := by
  unfold Keeps EndsFrom
  rw [reload_eq]
  dsimp only
  cases hload : p.load input with
  | ok p' => exact hI.load h hload
  | error e => exact .inr h

theorem forward (hI : Kept I) (h : I p) (blocks : Blocks) (ledger : Ledger) (input : Tensor α) :
    Keeps I (Pass.forward blocks input) ⟨p, ledger⟩ := by
  rw [forward_eq_reload]
  exact (hI.reload h ledger input).bind fun _ run hrun => hI.finish hrun blocks run.ledger

theorem perform (hI : Kept I) (h : I p) (c : Call α) (blocks : Blocks) (ledger : Ledger) :
    Keeps I (c.perform blocks) ⟨p, ledger⟩ := by
  cases c with
  | load input => exact hI.reload h ledger input
  | step => exact (hI.step h blocks ledger).bind fun _ run hrun => hrun
  | finish => exact (hI.finish h blocks ledger).bind fun _ run hrun => hrun
  | forward input => exact (hI.forward h blocks ledger input).bind fun _ run hrun => hrun

end Kept

/-- What is kept by every call and holds at the start holds after every history. -/
theorem Reached.kept {I : Pass α → Prop} (hI : Kept I) (hstart : I (Pass.start n)) (h : Reached n p) :
    I p := by
  induction h with
  | start => exact hstart
  | @call p run c blocks ledger reached after ih =>
    have hkeeps := hI.perform ih c blocks ledger
    unfold Call.after at after
    split at after
    · next heq =>
      cases after
      exact hkeeps.of_ok heq
    · next heq =>
      cases after
      exact (hkeeps.of_error heq).resolve_left Failure.not_isFault_error
    · cases after

theorem Tracked.kept (hn : n.Weighted) : Kept fun p : Pass α => p.Tracked n where
  load h hload := (h.sized.tracked_of_load hload).1
  step {p} h blocks ledger := by
    have hstepped := h.sized.stepped hn blocks ledger
    unfold Keeps EndsFrom
    generalize Pass.step blocks ⟨p, ledger⟩ = ending at hstepped
    cases hstepped with
    | finished last => exact .inr h
    | ran stage sound live_size other_size => exact (h.setBuffers live_size other_size).advance stage
    | refused stage defect other_size kept =>
      exact .inr (h.setBuffers (h.sized.size_buffer _) other_size)
    | broken stage sound isFault => exact .inl isFault

/-- Every history keeps the invariant. -/
theorem Reached.tracked (hn : n.Weighted) (h : Reached n p) : p.Tracked n :=
  h.kept (Tracked.kept hn) (tracked_start n)

/-! ## Bookkeeping -/

/-- With no layer left there is nothing to finish. -/
theorem finish_of_done (hdone : p.next = p.network.stages.length) (blocks : Blocks) (ledger : Ledger) :
    Pass.finish blocks ⟨p, ledger⟩ = .ok p.buffers.live ⟨p, ledger⟩ := by
  unfold Pass.finish
  rw [bind_get, hdone, Nat.sub_self]
  rfl

/-- What the counter, the mark, the live slot and the buffers have to do with each other after any history,
and what may still be asked of the pass. -/
theorem Reached.bookkeeping {name : String} {images : Nat} {layers : List Layer}
    {weights : List (Option (Tensor α))} (h : Network.ofLayers name images layers weights = .ok n)
    (hp : Reached n p) :
    p.next ≤ layers.length ∧
    (p.result.isSome ↔ p.next = layers.length) ∧
    (∀ slot, p.result = some slot → slot = p.buffers.live) ∧
    ((∃ t, p.output = .ok t) ↔ p.next = layers.length) ∧
    (p.buffers.live = .activations ↔
      Even ((layers.take p.next).countP fun l => ¬ (l.kind = .convolution ∧ l.border > 0))) ∧
    (∃ l ∈ layers, p.buffers.activations.size = images * l.footprint ∧
      p.buffers.result.size = images * l.footprint ∧ ∀ l' ∈ layers, l'.footprint ≤ l.footprint) ∧
    (∀ blocks ledger slot run, Pass.step blocks ⟨p, ledger⟩ = .ok slot run →
      run.pass.next = p.next + 1) ∧
    (p.next = layers.length → ∀ blocks ledger,
      (∃ e, Pass.step blocks ⟨p, ledger⟩ = .error (.error e) ⟨p, ledger⟩) ∧
      Pass.finish blocks ⟨p, ledger⟩ = .ok p.buffers.live ⟨p, ledger⟩) := by
  have hn := Network.weighted_of_ofLayers h
  have htracked := hp.tracked hn
  obtain ⟨rfl, -, rfl, -⟩ := Network.ofLayers_eq_ok h
  rw [← n.length_stages]
  refine ⟨htracked.next_le, htracked.isSome_result_iff, fun slot => htracked.eq_live_of_result,
    htracked.output_iff, ?_, ?_, ?_, ?_⟩
  · rw [htracked.live, Network.crossings]
    simp only [Layer.landing_eq_across_iff]
  · obtain ⟨l, hl, hsize, hlargest⟩ := n.exists_bufferSize_eq
    exact ⟨l, hl, htracked.sized.activations.trans hsize, htracked.sized.result.trans hsize, hlargest⟩
  · intro blocks ledger slot run hstep
    exact htracked.sized.next_of_step hn hstep
  · intro hdone blocks ledger
    have hlast : p.network.stages[p.next]? = none := by
      rw [htracked.sized.network, hdone]
      exact List.getElem?_eq_none (Nat.le_refl _)
    refine ⟨⟨_, step_eq_of_none hlast blocks ledger⟩, finish_of_done ?_ blocks ledger⟩
    rw [htracked.sized.network, hdone]

/-- A whole pass. -/
def passed : Run Int :=
  (@Call.after Int integers (.forward (counting "input" ⟨2, 3, 1, 5⟩ 1 1)) {}
    ⟨@start Int integers small, {}⟩).get (by decide +kernel)

/-- A whole pass and a step too many, which is refused. -/
def overrun : Run Int :=
  (@Call.after Int integers .step {} ⟨passed.pass, passed.ledger⟩).get (by decide +kernel)

theorem reached_passed : @Reached Int integers small passed.pass :=
  @Reached.get Int _ _ integers _ _ (@Reached.start Int integers small) _ _

theorem reached_overrun : @Reached Int integers small overrun.pass :=
  @Reached.get Int _ _ integers _ _ reached_passed _ _

theorem bookkeeping_overrun :
    Network.ofLayers "small" 1 smallLayers smallWeights = .ok small ∧
      @Reached Int integers small overrun.pass ∧ overrun.pass.next = 3 ∧
      overrun.pass.result = some overrun.pass.buffers.live ∧ (∃ t, overrun.pass.output = .ok t) ∧
      overrun.pass.buffers.live = .activations ∧
      ∀ blocks ledger, @Pass.finish Int integers blocks ⟨overrun.pass, ledger⟩ =
        .ok overrun.pass.buffers.live ⟨overrun.pass, ledger⟩ := by
  have hnext : overrun.pass.next = 3 := by decide +kernel
  obtain ⟨-, hmarked, hlive, houtput, hparity, -, -, hdone⟩ :=
    @Reached.bookkeeping Int _ _ integers "small" 1 smallLayers smallWeights rfl reached_overrun
  obtain ⟨slot, hslot⟩ := Option.isSome_iff_exists.1 (hmarked.2 hnext)
  refine ⟨rfl, reached_overrun, hnext, ?_, houtput.2 hnext, hparity.2 ?_, fun blocks ledger => ?_⟩
  · rw [hslot, hlive slot hslot]
  · rw [hnext]
    decide
  · exact (hdone hnext blocks ledger).2

/-! ## Refused calls -/

/-- Behind a refused step the pass is as far as before, and its input is still there. -/
theorem Over.keeps_of_refused (hn : n.Weighted) (h : p.Over n) {e : EngineError} {run : Run α}
    (hstep : Pass.step blocks ⟨p, ledger⟩ = .error (.error e) run) :
    run.pass.Over n ∧ run.pass.buffers.live = p.buffers.live ∧ run.pass.next = p.next ∧
      run.pass.result = p.result ∧ run.pass.buffers.liveBuffer = p.buffers.liveBuffer ∧
      (run.pass.buffers.otherBuffer = p.buffers.otherBuffer ∨
        ∃ s, n.stages[p.next]? = some s ∧ s.layer.landing = .inPlace) := by
  rcases h.kept_of_refused hn hstep with hpass | ⟨s, other, hs, hsize, hpass, hkept⟩
  · rw [hpass]
    exact ⟨h, rfl, rfl, rfl, rfl, .inl rfl⟩
  · rw [hpass]
    refine ⟨h.setBuffers (h.size_buffer _) hsize, by simp, rfl, rfl, by simp, ?_⟩
    cases hlanding : s.layer.landing with
    | across => exact .inl (by simpa using hkept hlanding)
    | inPlace => exact .inr ⟨s, hs, hlanding⟩

/-- A refused load leaves everything as it was. -/
theorem Over.reload_keeps (h : p.Over n) {failure : Failure} {run : Run α}
    (hload : reload input ⟨p, ledger⟩ = .error failure run) : run = ⟨p, ledger⟩ := by
  rw [reload_eq] at hload
  dsimp only at hload
  by_cases hi : Fits n input
  · rw [h.load_eq hi] at hload
    cases hload
  · rw [h.load_refused hi] at hload
    cases hload
    rfl

/-- A refused call loses nothing: the pass is where it was and what it carries is still there, so that the
step is refused again for the same reason. Only a layer with a border leaves traces, in the other buffer. -/
theorem Reached.refused_keeps {name : String} {images : Nat} {layers : List Layer}
    {weights : List (Option (Tensor α))} (h : Network.ofLayers name images layers weights = .ok n)
    (hp : Reached n p) :
    (∀ blocks ledger e run, Pass.step blocks ⟨p, ledger⟩ = .error (.error e) run →
      run.pass.network = p.network ∧ run.pass.buffers.live = p.buffers.live ∧
      run.pass.next = p.next ∧ run.pass.result = p.result ∧
      run.pass.buffers.liveBuffer = p.buffers.liveBuffer ∧
      (run.pass.buffers.otherBuffer = p.buffers.otherBuffer ∨
        ∃ l, layers[p.next]? = some l ∧ l.kind = .convolution ∧ l.border > 0) ∧
      ∀ blocks' ledger', ∃ again, Pass.step blocks' ⟨run.pass, ledger'⟩ = .error (.error e) again) ∧
    (∀ blocks ledger input failure run,
      (Call.load input).perform blocks ⟨p, ledger⟩ = .error failure run → run = ⟨p, ledger⟩) := by
  have hn := Network.weighted_of_ofLayers h
  have hover := (hp.tracked hn).sized
  obtain ⟨-, -, rfl, -⟩ := Network.ofLayers_eq_ok h
  refine ⟨fun blocks ledger e run hstep => ?_, fun _ _ _ _ _ hload => hover.reload_keeps hload⟩
  obtain ⟨hover', hlive, hnext, hresult, hkept, hother⟩ := hover.keeps_of_refused hn hstep
  refine ⟨hover'.network.trans hover.network.symm, hlive, hnext, hresult, hkept,
    hother.imp_right ?_, fun blocks' ledger' => ?_⟩
  · rintro ⟨s, hs, hlanding⟩
    have hborder : s.layer.kind = .convolution ∧ s.layer.border > 0 := by
      by_contra hnot
      rw [Layer.landing_eq_across_iff.2 hnot] at hlanding
      cases hlanding
    exact ⟨s.layer, by simp [Network.layers, hs], hborder⟩
  · -- The same layer is next, and that alone decides.
    rw [hover'.refused_iff hn, hnext, ← hover.refused_iff hn blocks ledger]
    exact ⟨run, hstep⟩

/-- A bordered convolution that no constructor makes: its kernel is one row, and too wide. -/
def wideLayers : List Layer := [
  { name := "wide", kind := .convolution, inputs := ⟨1, 1, 1, 7⟩, outputs := ⟨1, 1, 1, 7⟩,
    weights := ⟨1, 9, 1, 7⟩, fieldSize := 9, stride := 1, border := 1, activation := .identity,
    pooling := .none }]

def wideWeights : List (Option (Tensor Int)) := [some (counting "wide" ⟨1, 9, 1, 7⟩ 1 1)]

def wide : Network Int where
  name := "wide"
  images := 1
  stages := List.zipWith Stage.mk wideLayers wideWeights
  stages_ne_nil := by simp [wideLayers, wideWeights]

/-- The pass that was refused at the wide field. -/
def stuck : Run Int :=
  (@Call.after Int integers (.forward (counting "input" ⟨1, 1, 1, 7⟩ 1 1)) {}
    ⟨@start Int integers wide, {}⟩).get (by decide +kernel)

theorem refused_keeps_stuck :
    Network.ofLayers "wide" 1 wideLayers wideWeights = .ok wide ∧
      @Reached Int integers wide stuck.pass ∧
      ∃ run, @Pass.step Int integers {} ⟨stuck.pass, {}⟩ = .error (.error (.kernelTooWide 9)) run ∧
        run.pass.buffers.liveBuffer = stuck.pass.buffers.liveBuffer ∧
        ∀ blocks ledger, ∃ again, @Pass.step Int integers blocks ⟨run.pass, ledger⟩ =
          .error (.error (.kernelTooWide 9)) again := by
  have hput : Network.ofLayers "wide" 1 wideLayers wideWeights = .ok wide := rfl
  have hreached : @Reached Int integers wide stuck.pass :=
    @Reached.get Int _ _ integers _ _ (@Reached.start Int integers wide) _ _
  have hover := (@Reached.tracked Int _ _ integers (Network.weighted_of_ofLayers hput) hreached).sized
  obtain ⟨run, hstep⟩ := (@Over.refused_iff Int integers _ _ (Network.weighted_of_ofLayers hput) hover
    {} {} (.kernelTooWide 9)).2 (by decide +kernel)
  obtain ⟨hkeeps, -⟩ := @Reached.refused_keeps Int _ _ integers _ _ _ _ hput hreached
  obtain ⟨-, -, -, -, hkept, -, hagain⟩ := hkeeps {} {} _ run hstep
  exact ⟨hput, hreached, run, hstep, hkept, hagain⟩

end Pass

end ForwardPass

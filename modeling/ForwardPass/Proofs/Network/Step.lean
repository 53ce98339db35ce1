import ForwardPass.Proofs.Layer.Separation
import ForwardPass.Proofs.Network.Pass

/-!
# What a step can do

All that a step may do to a pass, whatever the fields of its layers hold: `Stepped` has one case for each
ending. What is kept by a step that gives a result and what by one that is refused is read off the cases.
-/

namespace ForwardPass

/-- What a step at layer `k` of a network is refused for. -/
def Network.refusal? {α : Type} (n : Network α) (k : Nat) : Option EngineError :=
  match n.stages[k]? with
  | none => some (.shapeMismatch n.name .passFinished)
  | some s => s.layer.defect? n.images

namespace Pass

variable {α : Type} [Scalar α] {p : Pass α} {n : Network α} {blocks : Blocks} {ledger : Ledger}

/-! ## The two buffers -/

section Buffers

omit [Scalar α]

@[simp] theorem live_setBuffers (p : Pass α) (live other : Array α) :
    (p.setBuffers live other).buffers.live = p.buffers.live := by
  obtain ⟨network, ⟨activations, result, slot⟩, next, marked⟩ := p
  cases slot <;> rfl

@[simp] theorem liveBuffer_setBuffers (p : Pass α) (live other : Array α) :
    (p.setBuffers live other).buffers.liveBuffer = live := by
  obtain ⟨network, ⟨activations, result, slot⟩, next, marked⟩ := p
  cases slot <;> rfl

@[simp] theorem otherBuffer_setBuffers (p : Pass α) (live other : Array α) :
    (p.setBuffers live other).buffers.otherBuffer = other := by
  obtain ⟨network, ⟨activations, result, slot⟩, next, marked⟩ := p
  cases slot <;> rfl

end Buffers

/-! ## The cases -/

/-- The pass behind a layer without a defect, with the buffers it left. -/
def behind (p : Pass α) (l : Layer) (live other : Array α) : Pass α :=
  (p.setBuffers live other).advance l.landing

/-- How a step of a pass over `n` may end. -/
inductive Stepped (n : Network α) (p : Pass α) (blocks : Blocks) (ledger : Ledger) :
    EStateM.Result Failure (Run α) Slot → Prop where
  /-- There is no layer left. -/
  | finished (last : n.stages[p.next]? = none) :
    Stepped n p blocks ledger (.error (.error (.shapeMismatch n.name .passFinished)) ⟨p, ledger⟩)
  /-- The layer ran. -/
  | ran {s : Stage α} {live other : Array α} (stage : n.stages[p.next]? = some s)
      (sound : s.layer.defect? n.images = none) (live_size : live.size = n.bufferSize)
      (other_size : other.size = n.bufferSize) :
    Stepped n p blocks ledger (.ok (p.behind s.layer live other).buffers.live
      ⟨p.behind s.layer live other, s.layer.account blocks n.images ledger⟩)
  /-- The layer has a defect: it left its input as it was, and the other buffer unless it has a border. -/
  | refused {s : Stage α} {e : EngineError} {other : Array α} (stage : n.stages[p.next]? = some s)
      (defect : s.layer.defect? n.images = some e) (other_size : other.size = n.bufferSize)
      (kept : s.layer.landing = .across → other = p.buffers.otherBuffer) :
    Stepped n p blocks ledger (.error (.error e)
      ⟨p.setBuffers p.buffers.liveBuffer other, s.layer.refusedAccount blocks n.images ledger⟩)
  /-- The layer broke a contract. -/
  | broken {s : Stage α} {failure : Failure} {run : Run α} (stage : n.stages[p.next]? = some s)
      (sound : s.layer.defect? n.images = none) (isFault : failure.IsFault) :
    Stepped n p blocks ledger (.error failure run)

/-- With no layer left a step says so. -/
theorem step_eq_of_none (hlast : p.network.stages[p.next]? = none) (blocks : Blocks) (ledger : Ledger) :
    step blocks ⟨p, ledger⟩ =
      .error (.error (.shapeMismatch p.network.name .passFinished)) ⟨p, ledger⟩ := by
  unfold step
  dsimp only
  rw [hlast]

/-- A step is the work of its layer on the two buffers, and its accounts. -/
theorem step_eq_work (hn : n.Weighted) (h : p.Over n) {s : Stage α} (hs : n.stages[p.next]? = some s)
    (blocks : Blocks) (ledger : Ledger) :
    step blocks ⟨p, ledger⟩ =
      match s.layer.work s.weightData n.images p.buffers.liveBuffer p.buffers.otherBuffer with
      | .ok landing (live, other) =>
        .ok ((p.setBuffers live other).advance landing).buffers.live
          ⟨(p.setBuffers live other).advance landing, s.layer.account blocks n.images ledger⟩
      | .error failure (live, other) =>
        .error failure ⟨p.setBuffers live other, s.layer.refusedAccount blocks n.images ledger⟩ := by
  have hready := h.ready hn (List.mem_of_getElem? hs) ledger
  have hstage : p.network.stages[p.next]? = some s := by rw [h.network, hs]
  rw [step_eq hstage, h.network, Layer.run_eq blocks hready, bench]
  dsimp only
  cases s.layer.work s.weightData n.images p.buffers.liveBuffer p.buffers.otherBuffer <;> rfl

/-- A step ends in one of the cases. -/
theorem Over.stepped (hn : n.Weighted) (h : p.Over n) (blocks : Blocks) (ledger : Ledger) :
    Stepped n p blocks ledger (step blocks ⟨p, ledger⟩) := by
  cases hs : n.stages[p.next]? with
  | none =>
    rw [step_eq_of_none (by rw [h.network, hs]), h.network]
    exact .finished hs
  | some s =>
    have hready := h.ready hn (List.mem_of_getElem? hs) ledger
    rw [step_eq_work hn h hs]
    cases hdefect : s.layer.defect? n.images with
    | some e =>
      obtain ⟨other, hwork, hsize, hkept⟩ := Layer.work_of_defect hready hdefect
      rw [show s.layer.work s.weightData n.images p.buffers.liveBuffer p.buffers.otherBuffer = _
        from hwork]
      exact .refused hs hdefect (hsize.trans (h.size_buffer _)) hkept
    | none =>
      have hwork := Layer.work_of_no_defect hready hdefect
      rw [bench] at hwork
      dsimp only at hwork
      generalize s.layer.work s.weightData n.images p.buffers.liveBuffer p.buffers.otherBuffer = ending
        at hwork
      cases hwork with
      | done hlive hother =>
        exact .ran hs hdefect (hlive.trans (h.size_buffer _)) (hother.trans (h.size_buffer _))
      | broken hfault => exact .broken hs hdefect hfault

/-! ## What is read off them -/

/-- A step that gives a result goes one layer on. -/
theorem Over.next_of_step (hn : n.Weighted) (h : p.Over n) {slot : Slot} {run : Run α}
    (hstep : step blocks ⟨p, ledger⟩ = .ok slot run) : run.pass.next = p.next + 1 := by
  have hstepped := h.stepped hn blocks ledger
  rw [hstep] at hstepped
  cases hstepped
  rfl

/-- A step that gives a result leaves buffers of the size they had. -/
theorem Over.over_of_step (hn : n.Weighted) (h : p.Over n) {slot : Slot} {run : Run α}
    (hstep : step blocks ⟨p, ledger⟩ = .ok slot run) : run.pass.Over n := by
  have hstepped := h.stepped hn blocks ledger
  rw [hstep] at hstepped
  cases hstepped with
  | ran stage sound live_size other_size => exact (h.setBuffers live_size other_size).advance _

/-- What a refused step leaves: all of the pass, except that a layer with a border may have laid it out in
the other buffer. -/
theorem Over.kept_of_refused (hn : n.Weighted) (h : p.Over n) {e : EngineError} {run : Run α}
    (hstep : step blocks ⟨p, ledger⟩ = .error (.error e) run) :
    run.pass = p ∨ ∃ s other, n.stages[p.next]? = some s ∧ other.size = n.bufferSize ∧
      run.pass = p.setBuffers p.buffers.liveBuffer other ∧
      (s.layer.landing = .across → other = p.buffers.otherBuffer) := by
  have hstepped := h.stepped hn blocks ledger
  rw [hstep] at hstepped
  cases hstepped with
  | finished last => exact .inl rfl
  | refused stage defect other_size kept => exact .inr ⟨_, _, stage, other_size, rfl, kept⟩
  | broken stage sound isFault => exact (Failure.not_isFault_error isFault).elim

/-- Whether a step is refused, and for what, depends on how far the pass has come and on nothing else. -/
theorem Over.refused_iff (hn : n.Weighted) (h : p.Over n) (blocks : Blocks) (ledger : Ledger)
    (e : EngineError) :
    (∃ run, step blocks ⟨p, ledger⟩ = .error (.error e) run) ↔ n.refusal? p.next = some e := by
  have hstepped := h.stepped hn blocks ledger
  generalize step blocks ⟨p, ledger⟩ = ending at hstepped
  unfold Network.refusal?
  cases hstepped with
  | finished last => simp [last]
  | ran stage sound live_size other_size => simp [stage, sound]
  | refused stage defect other_size kept => simp [stage, defect]
  | broken stage sound isFault =>
    obtain ⟨fault, rfl⟩ := isFault
    simp [stage, sound]

end Pass

end ForwardPass

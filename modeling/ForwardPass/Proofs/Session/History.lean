import ForwardPass.Session
import ForwardPass.Proofs.Results

/-!
# Session histories

A session is used by calling `execute` again and again, with lines for its shell that nobody knows
beforehand. `Reached` are the sessions that such calls lead to. `Carried` is what an invariant of them has to
withstand: what is read and printed, a layer, and the end of a run. That it then holds after every call,
whatever the shell was told, is proved once for all invariants.
-/

namespace ForwardPass

/-- A step that gives a result has run a layer, and the pass is one layer further. -/
theorem Pass.step_eq_ok {α : Type} [Scalar α] {blocks : Blocks} {run run' : Run α} {slot : Slot}
    (h : Pass.step blocks run = .ok slot run') :
    run'.pass.next = run.pass.next + 1 ∧ run'.pass.network = run.pass.network ∧
      ∃ stage, run.pass.network.stages[run.pass.next]? = some stage := by
  unfold Pass.step at h
  dsimp only at h
  split at h
  · cases h
  · next stage hstage =>
    split at h
    · cases h
      exact ⟨rfl, rfl, stage, hstage⟩
    · cases h

namespace Session

variable {α : Type}

/-! ## Calls -/

/-- The session with these lines for its shell to read. -/
def feed (lines : List String) (s : Session α) : Session α :=
  { s with console := { s.console with pending := lines } }

/-- The sessions that calls lead to, each with lines of its own to read, and how many of the calls returned
with every layer done. A call that is stopped by an error leaves a session, too; one that breaks a contract
does not return. -/
inductive Reached [Scalar α] (s₀ : Session α) : Nat → Session α → Prop where
  | start : Reached s₀ 0 s₀
  /-- The call returned with layers left. -/
  | left {done : Nat} {s s' : Session α} (lines : List String) (reached : Reached s₀ done s)
      (call : execute (s.feed lines) = .ok () s') (open_ : s'.isDone = false) : Reached s₀ done s'
  /-- The call returned with every layer done. -/
  | finished {done : Nat} {s s' : Session α} (lines : List String) (reached : Reached s₀ done s)
      (call : execute (s.feed lines) = .ok () s') (all : s'.isDone = true) : Reached s₀ (done + 1) s'
  | stopped {done : Nat} {s s' : Session α} (lines : List String) {e : EngineError}
      (reached : Reached s₀ done s) (call : execute (s.feed lines) = .error (.error e) s') :
    Reached s₀ done s'

/-- The session that a call leaves, however the call ends. -/
def after [Scalar α] (lines : List String) (s : Session α) : Session α :=
  match execute (s.feed lines) with
  | .ok _ s' => s'
  | .error _ s' => s'

theorem execute_eq_after [Scalar α] {lines : List String} {s : Session α}
    (h : ∃ u s', execute (s.feed lines) = .ok u s') :
    execute (s.feed lines) = .ok () (s.after lines) := by
  obtain ⟨u, s', h⟩ := h
  unfold after
  rw [h]

/-! ## What is read and printed -/

/-- What is written goes behind what was. -/
theorem trace_write (s : Session α) (w : Array Writing) :
    (s.write w).trace = s.trace ++ w.filterMap Writing.traceLine? := Array.filterMap_append Array.size_append

/-- All that differs is what was read, and what was written besides the trace. -/
structure Aside (s s' : Session α) : Prop where
  eq : s' = { s with console := s'.console }
  trace : s'.trace = s.trace

namespace Aside

variable {s s' s'' : Session α}

theorem trans (h : Aside s s') (h' : Aside s' s'') : Aside s s'' where
  eq := by
    rw [h'.eq, h.eq]
  trace := h'.trace.trans h.trace

theorem isDone (h : Aside s s') : s'.isDone = s.isDone := by
  rw [h.eq]
  rfl

theorem feed (lines : List String) (s : Session α) : Aside s (s.feed lines) := ⟨rfl, rfl⟩

theorem print (text : String) (s : Session α) : Aside s (s.print text) where
  eq := rfl
  trace := by
    rw [Session.print, trace_write]
    exact Array.append_empty

theorem printError (text : String) (s : Session α) : Aside s (s.printError text) where
  eq := rfl
  trace := by
    rw [Session.printError, trace_write]
    exact Array.append_empty

theorem announce (s : Session α) : Aside s s.announce := by
  unfold Session.announce
  split
  · exact print _ s
  · exact ⟨rfl, rfl⟩

/-- The prompt, with the announcement of the next layer before it or without. -/
theorem prompt (announced : Bool) (s : Session α) :
    Aside s ((if announced then s else s.announce).print Session.prompt) := by
  cases announced with
  | true => exact print _ s
  | false => exact (announce s).trans (print _ _)

end Aside

/-! ## Layers -/

section Writing

variable (s : Session α)

@[simp] theorem plan_writeTrace : s.writeTrace.plan = s.plan := rfl

@[simp] theorem records_writeTrace : s.writeTrace.records = s.records := rfl

end Writing

variable [Scalar α] {s s' : Session α}

/-- The session once its next layer has run and landed in the slot. -/
def stepped (s : Session α) (stage : Stage α) (slot : Slot) (run : Run α) : Session α :=
  ({ s with run, completed := s.completed + 1 }.record "layer"
    (stage.layer.name ++ " -> " ++ slot.describe)).writeTrace

theorem step_of_ok {stage : Stage α} {slot : Slot} {run : Run α}
    (hstage : s.run.pass.network.stages[s.run.pass.next]? = some stage)
    (h : Pass.step s.plan.blocks s.run = .ok slot run) : step s = .ok () (s.stepped stage slot run) := by
  unfold step stepped
  simp only [hstage, h]

/-- A layer that fails leaves what it had done to the run, and no record. -/
theorem step_of_error {failure : Failure} {run : Run α}
    (h : Pass.step s.plan.blocks s.run = .error failure run) : step s = .error failure { s with run } := by
  unfold step
  simp only [h]

theorem step_eq_ok (h : step s = .ok () s') :
    ∃ stage slot run, s.run.pass.network.stages[s.run.pass.next]? = some stage ∧
      Pass.step s.plan.blocks s.run = .ok slot run ∧ s' = s.stepped stage slot run := by
  cases hpass : Pass.step s.plan.blocks s.run with
  | error failure run =>
    rw [step_of_error hpass] at h
    cases h
  | ok slot run =>
    obtain ⟨-, -, stage, hstage⟩ := Pass.step_eq_ok hpass
    rw [step_of_ok hstage hpass] at h
    cases h
    exact ⟨stage, slot, run, hstage, rfl, rfl⟩

/-- The session once the output of its last layer was taken. -/
def finished (s : Session α) (slot : Slot) (t : Tensor α) : Session α :=
  { s.record "result" slot.describe with output := some t }.writeTrace

omit [Scalar α] in
/-- Taking the output leaves a record of where it is, or nothing at all. -/
theorem finish_cases (s : Session α) :
    (∃ slot t, s.run.pass.result = some slot ∧ s.run.pass.output = .ok t ∧
        finish s = .ok () (s.finished slot t)) ∨
      ∃ failure, s.run.pass.output = .error failure ∧ finish s = .error failure s := by
  unfold finish
  cases houtput : s.run.pass.output with
  | error failure => exact .inr ⟨failure, rfl, rfl⟩
  | ok t =>
    cases hresult : s.run.pass.result with
    | none =>
      unfold Pass.output at houtput
      rw [hresult] at houtput
      cases houtput
    | some slot => exact .inl ⟨slot, t, rfl, rfl, rfl⟩

/-! ## Invariants -/

/-- An invariant `I` of a session on its way, which the end of a run takes to `J` and a failure to `E`. -/
structure Carried (I J : Session α → Prop) (E : Failure → Session α → Prop) : Prop where
  aside : ∀ {s s'}, I s → Aside s s' → I s'
  step : ∀ {s}, I s → s.isDone = false → EndsFrom step s (fun _ => I) E
  finish : ∀ {s}, I s → s.isDone = true → EndsFrom finish s (fun _ => J) E

namespace Carried

variable {I J : Session α → Prop} {E : Failure → Session α → Prop}

/-- Steps keep the invariant, and as many as there are layers left run all of them. -/
theorem steps (hI : Carried I J E) (h : I s) (count : Nat) :
    EndsFrom (steps count) s
      (fun _ s' => I s' ∧ (s.run.pass.network.stages.length - s.run.pass.next ≤ count → s'.isDone = true))
      E := by
  induction count generalizing s with
  | zero =>
    refine ⟨h, fun hleft => ?_⟩
    exact decide_eq_true (Nat.sub_eq_zero_iff_le.1 (Nat.le_zero.1 hleft))
  | succ count ih =>
    rw [Session.steps]
    refine EndsFrom.bind_get ?_
    split
    · next hdone => exact ⟨h, fun _ => hdone⟩
    · next hdone =>
      have hstep := hI.step h (Bool.eq_false_iff.2 hdone)
      cases hran : Session.step s with
      | error failure s' =>
        have hE := hstep.of_error hran
        unfold EndsFrom
        rwa [bind_of_error hran]
      | ok u s' =>
        obtain ⟨stage, slot, run, -, hpass, rfl⟩ := step_eq_ok hran
        obtain ⟨hnext, hnetwork, -⟩ := Pass.step_eq_ok hpass
        unfold EndsFrom
        rw [bind_of_ok hran]
        refine (ih (hstep.of_ok hran)).mono (fun _ s'' hs'' => ⟨hs''.1, fun hleft => hs''.2 ?_⟩)
          fun _ _ hE => hE
        change run.pass.network.stages.length - run.pass.next ≤ count
        rw [hnext, hnetwork]
        omega

theorem proceed (hI : Carried I J E) (h : I s) : EndsFrom proceed s (fun _ => J) E := by
  unfold Session.proceed
  refine EndsFrom.bind_get ?_
  refine (hI.steps h _).bind fun _ s' hs' => ?_
  exact hI.finish hs'.1 (hs'.2 (Nat.le_refl _))

/-- Whatever the lines say, the shell runs to the end or stops on the way. -/
theorem converse (hI : Carried I J E) (announced : Bool) {lines : List String} (h : I s)
    (hread : ∀ line ∈ lines, ∀ failure, readCommand line = .error failure → ∀ s, I s → E failure s) :
    EndsFrom (converse announced lines) s (fun _ s' => J s' ∨ (I s' ∧ s'.isDone = false)) E := by
  induction lines generalizing announced s with
  | nil =>
    rw [Session.converse]
    refine EndsFrom.bind_get ?_
    split
    · next hdone => exact (hI.finish h hdone).mono (fun _ _ hJ => .inl hJ) fun _ _ hE => hE
    · next hdone =>
      have haside := Aside.prompt announced s
      exact .inr ⟨hI.aside h haside, haside.isDone.trans (Bool.eq_false_iff.2 hdone)⟩
  | cons line rest ih =>
    have hrest (announced : Bool) {s : Session α} (h : I s) := ih announced h fun line hline =>
      hread line (List.mem_cons_of_mem _ hline)
    rw [Session.converse]
    refine EndsFrom.bind_get ?_
    split
    · next hdone => exact (hI.finish h hdone).mono (fun _ _ hJ => .inl hJ) fun _ _ hE => hE
    · next hdone =>
      refine EndsFrom.bind_modify (EndsFrom.bind_modify ?_)
      -- The prompt was shown and the line was taken.
      have haside := (Aside.prompt announced s).trans (Aside.feed rest _)
      change EndsFrom _ (Session.feed rest _) _ _
      generalize Session.feed rest _ = s' at haside
      have h' := hI.aside h haside
      split
      · next failure hline => exact hread line (List.mem_cons_self ..) failure hline s' h'
      · next defect hline =>
        refine EndsFrom.bind_modify ?_
        exact hrest true (hI.aside h' (Aside.printError _ s'))
      · next count hline =>
        refine EndsFrom.bind_get ?_
        exact (hI.steps h' _).bind fun _ s'' hs'' => hrest false hs''.1
      · exact (hI.proceed h').mono (fun _ _ hJ => .inl hJ) fun _ _ hE => hE
      · exact .inr ⟨h', haside.isDone.trans (Bool.eq_false_iff.2 hdone)⟩

/-- What a call does to the invariant, given what it does in a graph run. -/
theorem execute (hI : Carried I J E) (h : I s)
    (hgraph : s.plan.mode = .graph → EndsFrom runGraph s (fun _ => J) E)
    (hread : ∀ line ∈ s.console.pending, ∀ failure, readCommand line = .error failure →
      ∀ s, I s → E failure s) :
    EndsFrom execute s (fun _ s' => J s' ∨ (I s' ∧ s'.isDone = false)) E := by
  unfold Session.execute
  refine EndsFrom.bind_get ?_
  split
  · next hmode => exact (hgraph hmode).mono (fun _ _ hJ => .inl hJ) fun _ _ hE => hE
  · split
    · refine EndsFrom.bind_modify ?_
      exact hI.converse false (hI.aside h (Aside.print _ s)) hread
    · exact (hI.proceed h).mono (fun _ _ hJ => .inl hJ) fun _ _ hE => hE

end Carried

end Session

end ForwardPass

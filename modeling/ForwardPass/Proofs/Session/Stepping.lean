import ForwardPass.Proofs.Network.Composition
import ForwardPass.Proofs.Session.History
import ForwardPass.Session.Report

/-!
# Stepping and running through

Where a run through all layers succeeds, a step shell can interrupt it anywhere and take it up again: no layer
is skipped or repeated, and the output is the same. `Progress` is the invariant of sessions whose layers run
one by one. It says that the run is that of the first layers, each of them run once, and that there is one
record for each of them and one for each time the output was taken.
-/

namespace ForwardPass

variable {α : Type} [Scalar α]

/-! ## The first layers -/

namespace Pass

/-- An input that is loaded takes a pass back to its first layer. -/
theorem load_eq_ok {p p' : Pass α} {input : Tensor α} (h : p.load input = .ok p') :
    p'.next = 0 ∧ p'.network = p.network := by
  unfold load at h
  split at h
  · cases h
  · cases h
    exact ⟨rfl, rfl⟩

variable {blocks : Blocks} {run run' : Run α} {slots : List Slot}

/-- Run this many layers, and list the slots they landed in. -/
def landings (blocks : Blocks) : Nat → EStateM Failure (Run α) (List Slot)
  | 0 => pure []
  | count + 1 => do
    let slots ← landings blocks count
    let slot ← step blocks
    return slots ++ [slot]

theorem landings_succ {count : Nat} {slot : Slot} {run'' : Run α}
    (h : landings blocks count run = .ok slots run') (hstep : step blocks run' = .ok slot run'') :
    landings blocks (count + 1) run = .ok (slots ++ [slot]) run'' := by
  rw [landings, bind_of_ok h, bind_of_ok hstep]
  rfl

theorem landings_succ_eq_ok {count : Nat} (h : landings blocks (count + 1) run = .ok slots run') :
    ∃ before between slot, landings blocks count run = .ok before between ∧
      step blocks between = .ok slot run' ∧ slots = before ++ [slot] := by
  rw [landings] at h
  obtain ⟨before, between, hbefore, h⟩ := bind_eq_ok_from h
  obtain ⟨slot, _, hstep, h⟩ := bind_eq_ok_from h
  cases h
  exact ⟨before, between, slot, hbefore, hstep, rfl⟩

/-- Layers that ran went on layer by layer in one network. -/
theorem landings_eq_ok {count : Nat} (h : landings blocks count run = .ok slots run') :
    slots.length = count ∧ run'.pass.next = run.pass.next + count ∧
      run'.pass.network = run.pass.network := by
  induction count generalizing slots run' with
  | zero =>
    cases h
    exact ⟨rfl, rfl, rfl⟩
  | succ count ih =>
    obtain ⟨before, between, slot, hbefore, hstep, rfl⟩ := landings_succ_eq_ok h
    obtain ⟨hlength, hnext, hnetwork⟩ := ih hbefore
    obtain ⟨hnext', hnetwork', -⟩ := step_eq_ok hstep
    refine ⟨?_, ?_, hnetwork'.trans hnetwork⟩
    · rw [List.length_append, hlength]
      rfl
    · rw [hnext', hnext]
      rfl

/-- Where more layers run, fewer do. -/
theorem landings_of_le {count more : Nat} (h : landings blocks more run = .ok slots run')
    (hle : count ≤ more) : ∃ slots run', landings blocks count run = .ok slots run' := by
  induction more generalizing slots run' with
  | zero => exact ⟨slots, run', by rwa [Nat.le_zero.1 hle]⟩
  | succ more ih =>
    rcases Nat.eq_or_lt_of_le hle with rfl | hlt
    · exact ⟨slots, run', h⟩
    · obtain ⟨before, between, -, hbefore, -⟩ := landings_succ_eq_ok h
      exact ih hbefore (Nat.le_of_lt_succ hlt)

end Pass

namespace Session

/-! ## Records -/

omit [Scalar α] in
/-- The records of the first layers of a network, which landed in these slots. -/
def layerRecords (n : Network α) (slots : List Slot) : List Record :=
  (List.zip n.stages slots).zipIdx.map fun ((stage, slot), i) =>
    ⟨i + 1, "layer", stage.layer.name ++ " -> " ++ slot.describe⟩

omit [Scalar α] in
/-- One layer more is one record more. -/
theorem layerRecords_concat {n : Network α} {slots : List Slot} {stage : Stage α} (slot : Slot)
    (h : n.stages[slots.length]? = some stage) :
    layerRecords n (slots ++ [slot]) = layerRecords n slots ++
      [⟨slots.length + 1, "layer", stage.layer.name ++ " -> " ++ slot.describe⟩] := by
  obtain ⟨before, after, hstages, hlength⟩ : ∃ before after, n.stages = before ++ stage :: after ∧
      before.length = slots.length := by
    obtain ⟨hlt, hstage⟩ := List.getElem?_eq_some_iff.1 h
    refine ⟨n.stages.take slots.length, n.stages.drop (slots.length + 1), ?_,
      List.length_take_of_le (Nat.le_of_lt hlt)⟩
    rw [← hstage, ← List.drop_eq_getElem_cons, List.take_append_drop]
  have hless : List.zip (before ++ stage :: after) slots = List.zip before slots := by
    have hzip := @List.zip_append _ _ before (stage :: after) slots [] hlength
    rwa [List.append_nil, List.zip_nil_right, List.append_nil] at hzip
  unfold layerRecords
  rw [hstages, hless, List.zip_append hlength, List.zipIdx_append, List.map_append, List.length_zip,
    hlength, Nat.min_self, Nat.zero_add, List.zip_cons_cons, List.zip_nil_right]
  rfl

omit [Scalar α] in
theorem layerRecords_nil (n : Network α) : layerRecords n [] = [] := by
  rw [layerRecords, List.zip_nil_right]
  rfl

omit [Scalar α] in
theorem action_of_mem_layerRecords {n : Network α} {slots : List Slot} {r : Record}
    (h : r ∈ layerRecords n slots) : r.action = "layer" := by
  obtain ⟨⟨⟨layer, slot⟩, i⟩, -, rfl⟩ := List.mem_map.1 h
  rfl

/-! ## The invariant -/

theorem start_eq_ok {plan : RunPlan} {n : Network α} {input : Tensor α} {s : Session α}
    (h : start plan n input = .ok s) :
    ∃ p, (Pass.start n).load input = .ok p ∧ s = { plan, run := ⟨p, {}⟩, input } := by
  obtain ⟨p, hload, h⟩ := bind_eq_ok h
  cases h
  exact ⟨p, hload, rfl⟩

/-- A line that would cut a character apart, and that nothing can be done with. -/
def Unreadable (line : String) : Prop := TypedLine.result? line.toList = none

theorem readCommand_eq_error {line : String} {failure : Failure} (h : readCommand line = .error failure) :
    failure = .fault .splitCharacter ∧ Unreadable line := by
  unfold readCommand at h
  split at h
  · cases h
  · next hline =>
    cases h
    exact ⟨rfl, hline⟩

/-- All layers can be run from `s₀` on, and their output be taken. -/
def RunsThrough (s₀ : Session α) : Prop :=
  ∃ slots run t, Pass.landings s₀.plan.blocks s₀.run.pass.network.stages.length s₀.run = .ok slots run ∧
    run.pass.output = .ok t

/-- A session that has run its first layers and nothing but these since `s₀`, and has taken the output of the
last one `done` times. -/
structure Progress (s₀ : Session α) (done : Nat) (s : Session α) : Prop where
  plan : s.plan = s₀.plan
  next_le : s.run.pass.next ≤ s₀.run.pass.network.stages.length
  completed : s.completed = s.run.pass.next
  ran : ∃ slots results, Pass.landings s₀.plan.blocks s.run.pass.next s₀.run = .ok slots s.run ∧
    s.records.toList = layerRecords s₀.run.pass.network slots ++ results ∧ results.length = done ∧
    ∀ r ∈ results, r.action = "result"
  unfinished : done = 0 → s.output = none
  finished : done ≠ 0 → s.isDone = true ∧ ∃ t, s.run.pass.output = .ok t ∧ s.output = some t

namespace Progress

variable {s₀ s s' : Session α} {done : Nat}

/-- A session that was just started has run nothing yet. -/
theorem start {plan : RunPlan} {n : Network α} {input : Tensor α} (h : start plan n input = .ok s) :
    Progress s 0 s ∧ s.isDone = false := by
  obtain ⟨p, hload, rfl⟩ := start_eq_ok h
  obtain ⟨hnext, hnetwork⟩ := Pass.load_eq_ok hload
  have hpos : 0 < p.network.stages.length := List.length_pos_iff.2 p.network.stages_ne_nil
  refine ⟨?_, ?_⟩
  · refine ⟨rfl, ?_, hnext.symm, ⟨[], [], ?_, ?_, rfl, nofun⟩, fun _ => rfl, fun h => (h rfl).elim⟩
    · exact Nat.le_of_lt (hnext ▸ hpos)
    · rw [show p.next = 0 from hnext]
      rfl
    · rw [layerRecords_nil]
      rfl
  · unfold isDone Pass.isDone
    rw [hnext]
    exact decide_eq_false (Nat.not_le.2 hpos)

/-- The network stays the one that the session was started with. -/
theorem network_eq (h : Progress s₀ done s) : s.run.pass.network = s₀.run.pass.network := by
  obtain ⟨slots, results, hran, -⟩ := h.ran
  exact (Pass.landings_eq_ok hran).2.2

theorem isDone_iff (h : Progress s₀ done s) :
    s.isDone = true ↔ s.run.pass.next = s₀.run.pass.network.stages.length := by
  have hle := h.next_le
  unfold isDone Pass.isDone
  rw [decide_eq_true_iff, h.network_eq]
  omega

/-- A session that has taken its output has run through all layers. -/
theorem through (h : Progress s₀ done s) (hdone : done ≠ 0) :
    ∃ slots t, Pass.landings s₀.plan.blocks s₀.run.pass.network.stages.length s₀.run = .ok slots s.run ∧
      s.run.pass.output = .ok t ∧ s.output = some t := by
  obtain ⟨hlast, t, houtput, hsome⟩ := h.finished hdone
  obtain ⟨slots, results, hran, -⟩ := h.ran
  rw [h.isDone_iff.1 hlast] at hran
  exact ⟨slots, t, hran, houtput, hsome⟩

theorem isSome_output_iff (h : Progress s₀ done s) (hdone : s.isDone = true → done ≠ 0) :
    s.output.isSome = true ↔ s.run.pass.next = s₀.run.pass.network.stages.length := by
  rw [← h.isDone_iff]
  constructor
  · intro hsome
    refine (h.finished fun hzero => ?_).1
    rw [h.unfinished hzero] at hsome
    cases hsome
  · intro hlast
    obtain ⟨-, t, -, ht⟩ := h.finished (hdone hlast)
    rw [ht]
    rfl

/-- The records of the layers and those of the output, told apart by their action. -/
theorem exists_records (h : Progress s₀ done s) :
    ∃ slots, Pass.landings s₀.plan.blocks s.run.pass.next s₀.run = .ok slots s.run ∧
      s.records.toList.filter (·.action = "layer") = layerRecords s₀.run.pass.network slots ∧
      s.records.toList.countP (·.action = "result") = done := by
  obtain ⟨slots, results, hran, hrecords, hlength, hresults⟩ := h.ran
  refine ⟨slots, hran, ?_, ?_⟩
  · have hlayers : ∀ r ∈ layerRecords s₀.run.pass.network slots, decide (r.action = "layer") = true := by
      intro r hr
      exact decide_eq_true (action_of_mem_layerRecords hr)
    have hothers : ∀ r ∈ results, ¬ decide (r.action = "layer") = true := by
      intro r hr
      rw [hresults r hr]
      decide
    rw [hrecords, List.filter_append, List.filter_eq_self.2 hlayers, List.filter_eq_nil_iff.2 hothers,
      List.append_nil]
  · have hlayers : ∀ r ∈ layerRecords s₀.run.pass.network slots, ¬ decide (r.action = "result") = true := by
      intro r hr
      rw [action_of_mem_layerRecords hr]
      decide
    have hothers : ∀ r ∈ results, decide (r.action = "result") = true := by
      intro r hr
      exact decide_eq_true (hresults r hr)
    rw [hrecords, List.countP_append, List.countP_eq_zero.2 hlayers, List.countP_eq_length.2 hothers,
      Nat.zero_add, hlength]

theorem aside (h : Progress s₀ done s) (ha : Aside s s') : Progress s₀ done s' := by
  rw [ha.eq]
  exact ⟨h.plan, h.next_le, h.completed, h.ran, h.unfinished, h.finished⟩

/-- A layer that runs leaves the record of the slot that it landed in. -/
theorem step (h : Progress s₀ done s) (hnot : s.isDone = false) (hstep : step s = .ok () s') :
    Progress s₀ done s' := by
  obtain ⟨stage, slot, run, hstage, hpass, rfl⟩ := step_eq_ok hstep
  obtain ⟨slots, results, hran, hrecords, hlength, hresults⟩ := h.ran
  obtain ⟨hnext, hnetwork, -⟩ := Pass.step_eq_ok hpass
  obtain ⟨hslots, -⟩ := Pass.landings_eq_ok hran
  -- A session that has taken its output has no layer left.
  have hzero : done = 0 := Decidable.byContradiction fun hdone => by
    rw [(h.finished hdone).1] at hnot
    cases hnot
  subst hzero
  rw [h.plan] at hpass
  rw [h.network_eq, ← hslots] at hstage
  have hlt : slots.length < s₀.run.pass.network.stages.length := (List.getElem?_eq_some_iff.1 hstage).1
  refine ⟨h.plan, ?_, ?_, ⟨slots ++ [slot], [], ?_, ?_, rfl, nofun⟩, fun _ => h.unfinished rfl,
    fun hdone => (hdone rfl).elim⟩
  · change run.pass.next ≤ _
    omega
  · change s.completed + 1 = run.pass.next
    rw [hnext, h.completed]
  · change Pass.landings s₀.plan.blocks run.pass.next s₀.run = .ok _ run
    rw [hnext]
    exact Pass.landings_succ hran hpass
  · change (s.records.push _).toList = _
    rw [Array.toList_push, hrecords, List.eq_nil_of_length_eq_zero hlength, List.append_nil, List.append_nil,
      layerRecords_concat slot hstage, h.completed, hslots]

/-- Taking the output leaves one record more. -/
theorem finish (h : Progress s₀ done s) (hdone : s.isDone = true) (hfinish : finish s = .ok () s') :
    Progress s₀ (done + 1) s' := by
  obtain ⟨slot, t, hslot, ht, heq⟩ | ⟨failure, -, heq⟩ := finish_cases s
  · cases heq.symm.trans hfinish
    obtain ⟨slots, results, hran, hrecords, hlength, hresults⟩ := h.ran
    refine ⟨h.plan, h.next_le, h.completed, ⟨slots, results ++ [⟨s.completed, "result", slot.describe⟩],
      hran, ?_, ?_, ?_⟩, nofun, fun _ => ⟨hdone, t, ht, rfl⟩⟩
    · change (s.records.push _).toList = _
      rw [Array.toList_push, hrecords, List.append_assoc]
    · rw [List.length_append, hlength]
      rfl
    · intro r hr
      rcases List.mem_append.1 hr with hr | hr
      · exact hresults r hr
      · rw [List.mem_singleton.1 hr]
  · cases heq.symm.trans hfinish

/-- Sessions of which steps and endings only fail as `E` says make progress. -/
theorem carried {E : Failure → Session α → Prop}
    (hstep : ∀ {s s' : Session α} {failure : Failure}, Progress s₀ done s → s.isDone = false →
      Session.step s = .error failure s' → E failure s')
    (hfinish : ∀ {s s' : Session α} {failure : Failure}, Progress s₀ done s → s.isDone = true →
      Session.finish s = .error failure s' → E failure s') :
    Carried (Progress s₀ done) (Progress s₀ (done + 1)) E where
  aside := Progress.aside
  step := by
    intro s h hnot
    unfold EndsFrom
    cases hran : Session.step s with
    | ok u s' => exact h.step hnot hran
    | error failure s' => exact hstep h hnot hran
  finish := by
    intro s h hdone
    unfold EndsFrom
    cases hran : Session.finish s with
    | ok u s' => exact h.finish hdone hran
    | error failure s' => exact hfinish h hdone hran

/-- Where all layers can be run and their output be taken, a call fails at most for a line that cannot be
read. -/
theorem call (h : Progress s₀ done s) (hmode : s₀.plan.mode = .layers) (hthrough : RunsThrough s₀)
    (lines : List String) :
    EndsFrom execute (s.feed lines)
      (fun _ s' => Progress s₀ (done + 1) s' ∨ (Progress s₀ done s' ∧ s'.isDone = false))
      fun failure _ => failure = .fault .splitCharacter ∧ ∃ line ∈ lines, Unreadable line := by
  obtain ⟨slots, run, t, hlandings, houtput⟩ := hthrough
  have hfed : Progress s₀ done (s.feed lines) := h.aside (Aside.feed lines s)
  refine (carried ?_ ?_).execute hfed (fun hgraph => ?_) fun line hline failure hread s' _ => ?_
  · intro s s' failure h hnot hfailed
    -- The layer is one of those that the run through them ran, from the same state.
    obtain ⟨slots', results, hran, -⟩ := h.ran
    have hlt : s.run.pass.next < s₀.run.pass.network.stages.length := by
      refine Nat.lt_of_le_of_ne h.next_le fun hlast => ?_
      rw [h.isDone_iff.2 hlast] at hnot
      cases hnot
    obtain ⟨_, _, hmore⟩ := Pass.landings_of_le hlandings hlt
    obtain ⟨_, between, slot, hbefore, hstep, -⟩ := Pass.landings_succ_eq_ok hmore
    cases hbefore.symm.trans hran
    obtain ⟨-, -, stage, hstage⟩ := Pass.step_eq_ok hstep
    rw [← h.plan] at hstep
    cases (step_of_ok hstage hstep).symm.trans hfailed
  · intro s s' failure h hdone hfailed
    obtain ⟨slots', results, hran, -⟩ := h.ran
    rw [h.isDone_iff.1 hdone] at hran
    cases hran.symm.trans hlandings
    obtain ⟨slot, t', -, -, heq⟩ | ⟨failure', herror, -⟩ := finish_cases s
    · cases heq.symm.trans hfailed
    · cases houtput.symm.trans herror
  · rw [hfed.plan, hmode] at hgraph
    cases hgraph
  · obtain ⟨hfailure, hunreadable⟩ := readCommand_eq_error hread
    exact ⟨hfailure, line, hline, hunreadable⟩

end Progress

/-! ## Calls -/

variable {plan : RunPlan} {network : Network α} {input : Tensor α} {s₀ c₀ c s : Session α} {done : Nat}

/-- A session that ran through without a shell. -/
theorem Progress.of_through (h : Progress c₀ 0 c₀) (hmode : c₀.plan.mode = .layers)
    (hstepping : c₀.plan.stepping = false) (hc : execute c₀ = .ok () c) : Progress c₀ 1 c := by
  have hexecute : execute c₀ = proceed c₀ := by
    unfold execute
    rw [bind_get, hmode, hstepping]
    rfl
  have hcarried : Carried (Progress c₀ 0) (Progress c₀ 1) fun _ _ => True :=
    Progress.carried (fun _ _ _ => trivial) fun _ _ _ => trivial
  exact (hcarried.proceed h).of_ok (hexecute.symm.trans hc)

theorem Reached.progress (hs : Progress s₀ 0 s₀) (hnot : s₀.isDone = false)
    (hmode : s₀.plan.mode = .layers) (hthrough : RunsThrough s₀) (h : Reached s₀ done s) :
    Progress s₀ done s ∧ (s.isDone = true → done ≠ 0) := by
  induction h with
  | start =>
    refine ⟨hs, fun hdone => ?_⟩
    rw [hnot] at hdone
    cases hdone
  | left lines reached hcall hopen ih =>
    obtain hfinished | ⟨hprogress, -⟩ := (ih.1.call hmode hthrough lines).of_ok hcall
    · rw [(hfinished.finished (Nat.succ_ne_zero _)).1] at hopen
      cases hopen
    · refine ⟨hprogress, fun hdone => ?_⟩
      rw [hopen] at hdone
      cases hdone
  | finished lines reached hcall hall ih =>
    obtain hfinished | ⟨-, hnot⟩ := (ih.1.call hmode hthrough lines).of_ok hcall
    · exact ⟨hfinished, fun _ => Nat.succ_ne_zero _⟩
    · rw [hall] at hnot
      cases hnot
  | stopped lines reached hcall ih =>
    cases ((ih.1.call hmode hthrough lines).of_error hcall).1

/-- A session between two calls, compared with one that ran through all layers at once. -/
structure Interrupted (network : Network α) (s₀ c : Session α) (done : Nat) (slots : List Slot)
    (s : Session α) : Prop where
  /-- Pass and ledger are those of running just the first layers, each of them once. -/
  ran : Pass.landings s₀.plan.blocks s.run.pass.next s₀.run = .ok slots s.run
  next_le : s.run.pass.next ≤ network.stages.length
  length_slots : slots.length = s.run.pass.next
  layers : s.records.toList.filter (·.action = "layer") = layerRecords network slots
  completed : s.summary.completed = s.run.pass.next
  output_isSome : s.output.isSome = true ↔ s.run.pass.next = network.stages.length
  output : s.output.isSome = true → s.output = c.output
  results : s.records.toList.countP (·.action = "result") = done
  /-- The next call returns, whatever its lines say. -/
  returns : ∀ lines, (∃ s', execute (s.feed lines) = .ok () s') ∨ ∃ line ∈ lines, Unreadable line

/-- Where a run through the layers succeeds, calls that stop and go on as their lines say come to the same:
after each of them the session has run the first layers once, in order, and only with all of them done it has
the output. -/
theorem Reached.interrupted (hs : Session.start plan network input = .ok s₀) (hmode : plan.mode = .layers)
    (hc₀ : Session.start { plan with stepping := false } network input = .ok c₀)
    (hc : execute c₀ = .ok () c) (h : Reached s₀ done s) :
    ∃ slots, Interrupted network s₀ c done slots s := by
  obtain ⟨hprogress₀, hnot⟩ := Progress.start hs
  obtain ⟨p, hload, hs₀⟩ := start_eq_ok hs
  obtain ⟨p', hload', hc₀'⟩ := start_eq_ok hc₀
  cases hload'.symm.trans hload
  have hnetwork : s₀.run.pass.network = network := by
    rw [hs₀]
    exact (Pass.load_eq_ok hload).2
  have hmode₀ : s₀.plan.mode = .layers := by
    rw [hs₀]
    exact hmode
  have hthroughc := (Progress.start hc₀).1.of_through (by rw [hc₀']; exact hmode) (by rw [hc₀']) hc
  obtain ⟨slotsc, t, hranc, houtputc, htc⟩ := hthroughc.through Nat.one_ne_zero
  -- Both sessions start from one run, so what the one ran is what the other can run.
  have hlandings : Pass.landings s₀.plan.blocks s₀.run.pass.network.stages.length s₀.run =
      .ok slotsc c.run := by
    rw [hc₀'] at hranc
    rw [hs₀]
    exact hranc
  have hthrough : RunsThrough s₀ := ⟨slotsc, c.run, t, hlandings, houtputc⟩
  obtain ⟨hprogress, hdone⟩ := h.progress hprogress₀ hnot hmode₀ hthrough
  obtain ⟨slots, hran, hlayers, hresults⟩ := hprogress.exists_records
  have hisSome := hprogress.isSome_output_iff hdone
  rw [hnetwork] at hlayers
  refine ⟨slots, hran, hnetwork ▸ hprogress.next_le, (Pass.landings_eq_ok hran).1, hlayers,
    hprogress.completed, hnetwork ▸ hisSome, fun hsome => ?_, hresults, fun lines => ?_⟩
  · have hlast := hprogress.isDone_iff.2 (hisSome.1 hsome)
    obtain ⟨slots', t', hran', houtput, hsome'⟩ := hprogress.through (hdone hlast)
    obtain ⟨-, hrun⟩ := EStateM.Result.ok.inj (hran'.symm.trans hlandings)
    rw [hrun, houtputc] at houtput
    rw [hsome', htc, Except.ok.inj houtput]
  · have hcall := hprogress.call hmode₀ hthrough lines
    cases hended : execute (s.feed lines) with
    | ok u s' => exact .inl ⟨s', rfl⟩
    | error failure s' => exact .inr (hcall.of_error hended).2

/-- A session over the small network, with a shell or without. -/
def begun (stepping : Bool) : Session Int where
  plan := { stepping }
  run := ⟨{
    network := Pass.small
    buffers := @DoubleBuffer.reset Int integers (@Pass.start Int integers Pass.small).buffers
      (Pass.counting "input" ⟨2, 3, 1, 5⟩ 1 1).data
    next := 0
    result := none }, {}⟩
  input := Pass.counting "input" ⟨2, 3, 1, 5⟩ 1 1

/-- It is asked for something that no shell knows, and for two of its three layers. -/
def paused : Session Int := @after Int integers ["x", "si 2"] (begun true)

/-- It goes on to the end. -/
def resumed : Session Int := @after Int integers ["c"] paused

theorem interrupted_resumed :
    @Session.start Int integers { stepping := true } Pass.small (begun true).input = .ok (begun true) ∧
      @Session.start Int integers { stepping := false } Pass.small (begun true).input = .ok (begun false) ∧
      @Reached Int integers (begun true) 1 resumed ∧
      ∃ c, @execute Int integers (begun false) = .ok () c ∧ resumed.output.isSome = true ∧
        resumed.output = c.output ∧ resumed.records.toList.countP (·.action = "result") = 1 := by
  have hs : @Session.start Int integers { stepping := true } Pass.small (begun true).input =
      .ok (begun true) := rfl
  have hc₀ : @Session.start Int integers { stepping := false } Pass.small (begun true).input =
      .ok (begun false) := rfl
  obtain ⟨_, c, hc⟩ : ∃ u c, @execute Int integers (begun false) = .ok u c := by decide +kernel
  have hpaused : @Reached Int integers (begun true) 0 paused :=
    @Reached.left Int integers _ _ _ _ ["x", "si 2"] (@Reached.start Int integers _)
      (@execute_eq_after Int integers ["x", "si 2"] (begun true) (by decide +kernel)) (by decide +kernel)
  have hresumed : @Reached Int integers (begun true) 1 resumed :=
    @Reached.finished Int integers _ _ _ _ ["c"] hpaused
      (@execute_eq_after Int integers ["c"] paused (by decide +kernel)) (by decide +kernel)
  obtain ⟨slots, hinterrupted⟩ := @Reached.interrupted Int integers _ _ _ _ _ _ _ _ hs rfl hc₀ hc hresumed
  have hlast : resumed.run.pass.next = Pass.small.stages.length := by decide +kernel
  have hsome := (@Interrupted.output_isSome Int integers _ _ _ _ _ _ hinterrupted).2 hlast
  exact ⟨hs, hc₀, hresumed, c, hc, hsome, @Interrupted.output Int integers _ _ _ _ _ _ hinterrupted hsome,
    @Interrupted.results Int integers _ _ _ _ _ _ hinterrupted⟩

end Session

end ForwardPass

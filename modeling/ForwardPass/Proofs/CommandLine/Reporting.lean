import ForwardPass.CommandLine
import ForwardPass.Proofs.Description.Acceptance
import ForwardPass.Proofs.Session.Outcome
import ForwardPass.Proofs.Session.Report

/-!
# Reporting

What the program comes to once it has built a network, on any machine and with anything for its shell to read.
It prints a whole report or stops with an error, unless a line cannot be read or the batch is one of no
images: an output without a first image is asked for it all the same. What comes before, from the arguments
on, adds one fault more.
-/

namespace ForwardPass

/-! ## Programs on a machine -/

/-- From this machine the program ends in a result and a machine with the property `P`, or in a stop with the
property `E`. -/
def HaltsFrom {β : Type} (x : ExceptT Stop (StateM Machine) β) (machine : Machine) (P : β → Machine → Prop)
    (E : Stop → Prop) : Prop :=
  match x.run.run machine with
  | (.ok b, after) => P b after
  | (.error stop, _) => E stop

namespace HaltsFrom

variable {β γ : Type} {x : ExceptT Stop (StateM Machine) β} {machine : Machine} {P : β → Machine → Prop}
  {E : Stop → Prop}

theorem run_bind (x : ExceptT Stop (StateM Machine) β) (k : β → ExceptT Stop (StateM Machine) γ)
    (machine : Machine) :
    (x >>= k).run.run machine =
      match x.run.run machine with
      | (.ok b, after) => (k b).run.run after
      | (.error stop, after) => (.error stop, after) := by
  rw [ExceptT.run_bind, StateT.run_bind]
  cases x.run.run machine with
  | mk result after => cases result <;> rfl

theorem of_ok {b : β} {after : Machine} (h : HaltsFrom x machine P E)
    (hx : x.run.run machine = (.ok b, after)) : P b after := by
  unfold HaltsFrom at h
  rwa [hx] at h

theorem of_error {stop : Stop} {after : Machine} (h : HaltsFrom x machine P E)
    (hx : x.run.run machine = (.error stop, after)) : E stop := by
  unfold HaltsFrom at h
  rwa [hx] at h

theorem bind {Q : γ → Machine → Prop} {k : β → ExceptT Stop (StateM Machine) γ}
    (hx : HaltsFrom x machine P E) (hk : ∀ b after, P b after → HaltsFrom (k b) after Q E) :
    HaltsFrom (x >>= k) machine Q E := by
  unfold HaltsFrom
  rw [run_bind]
  cases hran : x.run.run machine with
  | mk result after =>
    cases result with
    | ok b => exact hk b after (hx.of_ok hran)
    | error stop => exact hx.of_error hran

theorem mono {Q : β → Machine → Prop} {F : Stop → Prop} (hx : HaltsFrom x machine P E)
    (hP : ∀ b after, P b after → Q b after) (hE : ∀ stop, E stop → F stop) : HaltsFrom x machine Q F := by
  unfold HaltsFrom
  cases hran : x.run.run machine with
  | mk result after =>
    cases result with
    | ok b => exact hP b after (hx.of_ok hran)
    | error stop => exact hE stop (hx.of_error hran)

/-- What only works on the machine does not stop. -/
theorem lift (x : StateM Machine β) : HaltsFrom (ExceptT.lift x) machine (fun _ _ => True) E := trivial

/-- What goes on with a result stops in one of the stops that are made of its errors. -/
theorem orStop {ε : Type} {stop : ε → Stop} {r : Except ε β} (hstop : ∀ e, E (stop e)) :
    HaltsFrom (CommandLine.orStop stop r) machine (fun b _ => r = .ok b) E := by
  cases r with
  | ok b => rfl
  | error e => exact hstop e

/-- A loop is stopped by one of its passes only. -/
theorem forM {bs : List γ} {step : γ → ExceptT Stop (StateM Machine) Unit}
    (hstep : ∀ b ∈ bs, ∀ machine, HaltsFrom (step b) machine (fun _ _ => True) E) :
    HaltsFrom (bs.forM step) machine (fun _ _ => True) E := by
  induction bs generalizing machine with
  | nil => trivial
  | cons b bs ih =>
    exact (hstep b (List.mem_cons_self ..) machine).bind fun _ _ _ =>
      ih fun c hc => hstep c (List.mem_cons_of_mem b hc)

end HaltsFrom

namespace CommandLine

variable {d : Description} {plan : RunPlan} {n : Network Float32} {s s₀ : Session Float32}
  {machine : Machine}

/-! ## Sessions on a machine -/

/-- The lines that the shell of a session has to read. -/
def typed (plan : RunPlan) (machine : Machine) : List String :=
  if plan.stepping && plan.mode = .layers then lines machine.input else []

/-- Writing goes through, unless a file cannot be written. -/
theorem write_halts {E : Stop → Prop} (hfile : ∀ defect, E (.file defect)) (traceFile : Option String)
    (w : Writing) (machine : Machine) : HaltsFrom (write traceFile w) machine (fun _ _ => True) E := by
  cases w with
  | output text => trivial
  | errors text => trivial
  | trace line =>
    cases traceFile with
    | none => trivial
    | some path =>
      refine (HaltsFrom.lift _).bind fun result after _ => ?_
      exact (HaltsFrom.orStop hfile).mono (fun _ _ _ => trivial) fun _ h => h

/-- A session leaves what its call left, or is stopped by what stopped the call or by a file that cannot be
written. -/
theorem runSession_halts (s : Session Float32) (machine : Machine) :
    HaltsFrom (runSession s) machine
      (fun s' _ => Session.execute (s.feed (typed s.plan machine)) = .ok () s')
      fun stop => (∃ defect, stop = .file defect) ∨
        ∃ failure s', Session.execute (s.feed (typed s.plan machine)) = .error failure s' ∧
          stop = .ofFailure failure := by
  unfold runSession typed
  split
  -- The two branches differ in what there is to read.
  case' isTrue => refine HaltsFrom.bind (P := fun pending _ => pending = lines machine.input) rfl ?_
  case' isFalse => refine HaltsFrom.bind (P := fun pending _ => pending = []) rfl ?_
  all_goals
    rintro pending after rfl
    dsimp only
    split
    · next s' hran =>
      refine HaltsFrom.bind (HaltsFrom.forM fun w _ => write_halts (fun defect => .inl ⟨defect, rfl⟩) _ w) ?_
      exact fun _ _ _ => hran
    · next failure s' hran =>
      refine HaltsFrom.bind (HaltsFrom.forM fun w _ => write_halts (fun defect => .inl ⟨defect, rfl⟩) _ w) ?_
      exact fun _ _ _ => .inr ⟨failure, s', hran, rfl⟩

/-! ## The report -/

/-- Everything that is printed about a session, if there is an image to show of its output. -/
def reportText? (withRecords : Bool) (s : Session Float32) : Option String := do
  let shown ← match s.output with
    | some t => Report.output? t 0
    | none => some ""
  return shown ++ ((if withRecords then Report.records s.records.toList else "") ++
    Report.summary s.summary)

/-- A report is printed as a whole, or nothing of it is. -/
theorem report_run (withRecords : Bool) (s : Session Float32) (machine : Machine) :
    (report withRecords s : ExceptT Stop (StateM Machine) Unit).run.run machine =
      match reportText? withRecords s with
      | some text => (.ok (), { machine with output := machine.output ++ text })
      | none => (.error (.fault .outOfRange), machine) := by
  -- The records and the summary, behind whatever was printed first.
  have hrest (before : Machine) :
      (do
        if withRecords then Host.print (Report.records s.records.toList)
        Host.print (Report.summary s.summary) : ExceptT Stop (StateM Machine) Unit).run.run before =
        (.ok (), { before with output := before.output ++
          ((if withRecords then Report.records s.records.toList else "") ++ Report.summary s.summary) }) := by
    rw [← String.append_assoc]
    cases withRecords with
    | false =>
      rw [if_neg Bool.false_ne_true, if_neg Bool.false_ne_true, String.append_empty]
      rfl
    | true => rfl
  unfold report reportText?
  cases s.output with
  | none =>
    refine (hrest machine).trans ?_
    dsimp only [Option.bind_eq_bind, Option.bind_some]
    rw [String.empty_append]
    rfl
  | some t =>
    cases hshown : Report.output? t 0 with
    | none =>
      dsimp only
      rw [hshown]
      rfl
    | some text =>
      dsimp only
      rw [hshown]
      refine (hrest { machine with output := machine.output ++ text }).trans ?_
      rw [String.append_assoc]
      rfl

/-! ## Descriptions -/

/-- What may stop the program once it has built a network, where its shell has these lines to read. -/
inductive MayStop (d : Description) (n : Network Float32) (lines : List String) : Stop → Prop where
  | refused (e : EngineError) : MayStop d n lines (.refused .input e.message)
  | file (defect : FileDefect) : MayStop d n lines (.file defect)
  | line {line : String} (listed : line ∈ lines) (unreadable : Session.Unreadable line) :
    MayStop d n lines (.fault .splitCharacter)
  /-- There is no first image to show, where an image would have elements. -/
  | noImage (images : d.images = 0) (elements : n.outputShape.logicalSize ≠ 0) :
    MayStop d n lines (.fault .outOfRange)

/-- What a session over a described network leaves. -/
theorem execute_described (hbuild : d.network plan.weights = .ok n)
    (hs : Session.start plan n d.sampleInput = .ok s₀) (lines : List String) :
    EndsFrom Session.execute (s₀.feed lines)
      (fun _ s => (s.output = none ∧ s.isDone = false) ∨
        ∃ t, s.output = some t ∧ t.shape = n.outputShape ∧
          ((Report.output? t 0).isSome = true ↔ d.images ≠ 0 ∨ n.outputShape.logicalSize = 0))
      fun failure _ => Session.StoppedBy lines failure := by
  obtain ⟨hsound, -⟩ := Description.network_eq_ok hbuild
  refine (Session.execute_ends hsound (Description.fits_sampleInput hbuild) hs lines).mono
    (fun _ s hs => ?_) fun _ _ h => h
  obtain ⟨t, ht, hshape, hbatch⟩ | hleft := hs
  · refine .inr ⟨t, ht, hshape, ?_⟩
    rw [Report.isSome_output?_iff, hshape, hbatch, Description.images_of_network hbuild, Nat.pos_iff_ne_zero]
  · exact .inl hleft

/-- A session over a described network is run and reported as a whole, or stopped. -/
theorem report_halts (hbuild : d.network plan.weights = .ok n)
    (hs : Session.start plan n d.sampleInput = .ok s₀) (withRecords : Bool) (machine : Machine) :
    HaltsFrom (do report withRecords (← runSession s₀)) machine
      (fun _ after => ∃ s before text, Session.execute (s₀.feed (typed plan machine)) = .ok () s ∧
        reportText? withRecords s = some text ∧ after.output = before ++ text)
      (MayStop d n (typed plan machine)) := by
  have hplan : s₀.plan = plan := by
    obtain ⟨p, -, rfl⟩ := Session.start_eq_ok hs
    rfl
  have hends := execute_described hbuild hs (typed plan machine)
  have hsession := runSession_halts s₀ machine
  rw [hplan] at hsession
  refine (hsession.mono (fun _ _ h => h) fun stop hstop => ?_).bind fun s after hran => ?_
  · obtain ⟨defect, rfl⟩ | ⟨failure, s, hfailed, rfl⟩ := hstop
    · exact .file defect
    · cases hends.of_error hfailed with
      | error e => exact .refused e
      | line hline hunreadable => exact .line hline hunreadable
  · unfold HaltsFrom
    rw [report_run]
    cases htext : reportText? withRecords s with
    | some text => exact ⟨s, after.output, text, hran, htext, rfl⟩
    | none =>
      -- Without a report there is an output whose first image cannot be shown.
      obtain ⟨hnone, -⟩ | ⟨t, ht, -, hshown⟩ := hends.of_ok hran
      · rw [reportText?, hnone] at htext
        cases htext
      · have hmissing : ¬ (d.images ≠ 0 ∨ n.outputShape.logicalSize = 0) := by
          rw [← hshown]
          intro hsome
          obtain ⟨text, htext'⟩ := Option.isSome_iff_exists.1 hsome
          rw [reportText?, ht] at htext
          dsimp only at htext
          rw [htext'] at htext
          cases htext
        obtain ⟨himages, helements⟩ := not_or.1 hmissing
        exact .noImage (not_not.1 himages) helements

/-- Every accepted description is reported, in either mode and with any weights. The output that a session
leaves has its first image shown, one line for each row, if the batch has an image or its images are empty;
and the program then prints a whole report, or it stops with an error. Only where there is no image to show,
or a line of the shell cannot be read, it ends in a fault. -/
theorem reported (hbuild : d.network plan.weights = .ok n) :
    ∃ s₀, Session.start plan n d.sampleInput = .ok s₀ ∧
      (∀ lines s, Session.execute (s₀.feed lines) = .ok () s →
        (s.output = none ∧ s.isDone = false) ∨
          ∃ t, s.output = some t ∧ t.shape = n.outputShape ∧
            ((Report.output? t 0).isSome = true ↔ d.images ≠ 0 ∨ n.outputShape.logicalSize = 0) ∧
            ∀ text, Report.output? t 0 = some text → ∃ rows, Report.Shows t 0 text rows) ∧
      ∀ withRecords machine,
        HaltsFrom (do report withRecords (← runSession s₀)) machine
          (fun _ after => ∃ s before text, Session.execute (s₀.feed (typed plan machine)) = .ok () s ∧
            reportText? withRecords s = some text ∧ after.output = before ++ text)
          (MayStop d n (typed plan machine)) := by
  obtain ⟨p, hload, -⟩ := (Pass.over_start n).load (Description.fits_sampleInput hbuild)
  have hs : Session.start plan n d.sampleInput = .ok { plan, run := ⟨p, {}⟩, input := d.sampleInput } := by
    rw [Session.start, hload]
    rfl
  refine ⟨_, hs, fun lines s hran => ?_, report_halts hbuild hs⟩
  obtain hleft | ⟨t, ht, hshape, hshown⟩ := (execute_described hbuild hs lines).of_ok hran
  · exact .inl hleft
  · exact .inr ⟨t, ht, hshape, hshown, fun text htext => Report.shows_of_output? htext⟩

/-- A network of one pooling layer, over a batch of as many images as are asked for. -/
def pooled (images : Nat) : Description where
  name := "pooled"
  images := images
  input := { rows := 3, cols := 4 }
  layers := [.pool none 2 1 .max]

def pooledNetwork (images : Nat) : Network Float32 where
  name := "pooled"
  images := images
  stages := [⟨⟨"pool0", .pooling, ⟨3, 4, 1, 4⟩, ⟨2, 3, 1, 5⟩, .nothing, 2, 1, 0, .identity, .max⟩, none⟩]
  stages_ne_nil := List.cons_ne_nil _ _

/-- A session over its sample input. -/
def pooledSession (images : Nat) : Session Float32 where
  plan := {}
  run := ⟨{
    network := pooledNetwork images
    buffers := (Pass.start (pooledNetwork images)).buffers.reset (pooled images).sampleInput.data
    next := 0
    result := none }, {}⟩
  input := (pooled images).sampleInput

theorem reported_pooled :
    (pooled 2).network .pattern = .ok (pooledNetwork 2) ∧
      Session.start {} (pooledNetwork 2) (pooled 2).sampleInput = .ok (pooledSession 2) ∧
      ∃ s t text rows, Session.execute (pooledSession 2) = .ok () s ∧ s.output = some t ∧
        Report.output? t 0 = some text ∧ Report.Shows t 0 text rows ∧ rows.length = 2 ∧
        ∀ values ∈ rows, values.length = 3 := by
  have hbuild : (pooled 2).network .pattern = .ok (pooledNetwork 2) := rfl
  have hstart : Session.start {} (pooledNetwork 2) (pooled 2).sampleInput = .ok (pooledSession 2) := by
    rw [Session.start, (Pass.over_start _).load_eq (Description.fits_sampleInput hbuild)]
    rfl
  have hran : Session.execute ((pooledSession 2).feed []) = .ok () ((pooledSession 2).after []) :=
    Session.execute_eq_after (by decide +kernel)
  have hdone : ((pooledSession 2).after []).isDone = true := by decide +kernel
  obtain ⟨s₀, hs, hleft, -⟩ := @reported (pooled 2) {} (pooledNetwork 2) hbuild
  cases hs.symm.trans hstart
  obtain ⟨-, hopen⟩ | ⟨t, ht, hshape, hsome, hshows⟩ := hleft [] _ hran
  · cases hdone.symm.trans hopen
  · obtain ⟨text, htext⟩ := Option.isSome_iff_exists.1 (hsome.2 (.inl (by decide)))
    obtain ⟨rows, hrows⟩ := hshows text htext
    refine ⟨hbuild, hstart, _, t, text, rows, hran, ht, htext, hrows, ?_, fun values hvalues => ?_⟩
    · rw [hrows.length, hshape]
      rfl
    · rw [hrows.cols values hvalues, hshape]
      rfl

/-- The same network, written for a batch of no images. -/
def pooledNone : String :=
  "name = \"pooled\"\nnum_images = 0\n[input]\nrows = 3\ncols = 4\n[[layers]]\ntype = \"pool\"\n" ++
    "field_size = 2\n"

/-- It is accepted and leaves an output of two rows of three columns, and the program ends in a fault. -/
theorem not_reported_pooled :
    Description.parse? pooledNone = some (pooled 0) ∧
      (pooled 0).network .pattern = .ok (pooledNetwork 0) ∧
      Session.start {} (pooledNetwork 0) (pooled 0).sampleInput = .ok (pooledSession 0) ∧
      (∃ s t, Session.execute (pooledSession 0) = .ok () s ∧ s.output = some t ∧
        t.shape = ⟨2, 3, 1, 5⟩ ∧ Report.output? t 0 = none) ∧
      ∀ withRecords machine,
        (do report withRecords (← runSession (pooledSession 0)) :
          ExceptT Stop (StateM Machine) Unit).run.run machine = (.error (.fault .outOfRange), machine) := by
  exact ⟨by decide +kernel, rfl, rfl, ⟨_, _, rfl, rfl, rfl, rfl⟩, fun withRecords machine => rfl⟩

/-! ## The program -/

/-- What may stop the program, whatever its arguments are and whatever it finds on its machine. -/
inductive Accountable : Stop → Prop where
  | usage (defect : UsageDefect) : Accountable (.usage defect)
  | refused (kind : RefusalKind) (message : String) : Accountable (.refused kind message)
  | file (defect : FileDefect) : Accountable (.file defect)
  /-- A variable of the environment that names no setting. -/
  | key : Accountable (.fault .unnamedKey)
  | line {line : String} (unreadable : Session.Unreadable line) : Accountable (.fault .splitCharacter)
  | noImage {d : Description} {fill : WeightFill} {n : Network Float32} (built : d.network fill = .ok n)
    (images : d.images = 0) (elements : n.outputShape.logicalSize ≠ 0) : Accountable (.fault .outOfRange)

theorem firstFile?_halts (paths : List (String × Settings.Format)) (machine : Machine) :
    HaltsFrom (firstFile? paths) machine (fun _ _ => True) Accountable := by
  induction paths generalizing machine with
  | nil => trivial
  | cons path rest ih =>
    refine (HaltsFrom.lift _).bind fun text after _ => ?_
    split
    · trivial
    · exact ih after

theorem readConfig_halts (path : String) (machine : Machine) :
    HaltsFrom (readConfig path) machine (fun _ _ => True) Accountable := by
  refine (HaltsFrom.lift _).bind fun text after _ => ?_
  split
  · split
    · trivial
    · exact Accountable.refused ..
  · refine (firstFile?_halts _ after).bind fun file after _ => ?_
    split
    · trivial
    · exact Accountable.refused ..

theorem loadSettings_halts (a : Arguments) (machine : Machine) :
    HaltsFrom (loadSettings a) machine (fun _ _ => True) Accountable := by
  unfold loadSettings
  split
  -- With a file or without, the environment is read next.
  case' h_1 path _ =>
    refine HaltsFrom.bind (P := fun _ _ => True) ((readConfig_halts path machine).bind fun _ _ _ => trivial) ?_
  case' h_2 => refine HaltsFrom.bind (P := fun _ _ => True) trivial ?_
  all_goals
    intro file after _
    refine (HaltsFrom.lift _).bind fun environment after _ => ?_
    split
    · trivial
    · exact Accountable.refused ..
    · exact Accountable.key

theorem openSession_halts (s : Settings) (machine : Machine) :
    HaltsFrom (openSession s) machine
      (fun session _ => ∃ d plan n, Description.network d plan.weights = .ok n ∧
        Session.start plan n d.sampleInput = .ok session) Accountable := by
  refine (HaltsFrom.orStop fun _ => .refused ..).bind fun plan after _ => ?_
  refine (HaltsFrom.lift _).bind fun text after _ => ?_
  refine (HaltsFrom.orStop fun _ => .file _).bind fun text after _ => ?_
  split
  · next d _ =>
    refine (HaltsFrom.orStop fun _ => .refused ..).bind fun n after hbuild => ?_
    refine (HaltsFrom.orStop fun _ => .refused ..).bind fun session after hs => ?_
    split
    · refine (HaltsFrom.lift _).bind fun made after _ => ?_
      exact (HaltsFrom.orStop fun _ => .file _).bind fun _ after _ => ⟨d, plan, n, hbuild, hs⟩
    · exact ⟨d, plan, n, hbuild, hs⟩
  · exact Accountable.refused ..

/-- The program completes or stops with an error, whatever its arguments are and whatever it finds on its
machine, apart from three faults. -/
theorem program_halts (arguments : List String) (machine : Machine) :
    HaltsFrom (program arguments) machine (fun _ _ => True) Accountable := by
  unfold program
  refine (HaltsFrom.orStop fun _ => .usage _).bind fun a after _ => ?_
  refine (loadSettings_halts a after).bind fun s after _ => ?_
  refine (HaltsFrom.orStop fun _ => .refused ..).bind fun _ after _ => ?_
  refine (openSession_halts s after).bind fun session after hsession => ?_
  obtain ⟨d, plan, n, hbuild, hs⟩ := hsession
  refine (report_halts hbuild hs a.records after).mono (fun _ _ _ => trivial) fun stop hstop => ?_
  cases hstop with
  | refused e => exact .refused ..
  | file defect => exact .file defect
  | line _ hunreadable => exact .line hunreadable
  | noImage himages helements => exact .noImage hbuild himages helements

end CommandLine

end ForwardPass

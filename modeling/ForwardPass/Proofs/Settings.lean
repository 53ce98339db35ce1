import ForwardPass.Proofs.Text.Blank
import ForwardPass.Settings

/-!
# Settings that pass and plans that are made

Settings are read twice: `validate` refuses what cannot lead to a run, and `plan` makes of them what a session needs.
Each has tables of its own for the names of modes and of ways to fill weights. That the tables know the same names, in
letters of any case, is shown table by table. The main statement is that both readings agree on whatever was loaded and
whatever the command line says about it.
-/

namespace ForwardPass.Settings

/-! ## Names -/

/-- The name is that of a run mode, in letters of any case. -/
def KnownMode (name : String) : Prop := lowerCase name = "layers" ∨ lowerCase name = "graph"

/-- The name is that of a way to fill weights, in letters of any case. -/
def KnownWeights (name : String) : Prop := lowerCase name = "fixed" ∨ lowerCase name = "zeros"

instance (name : String) : Decidable (KnownMode name) := inferInstanceAs (Decidable (_ ∨ _))

instance (name : String) : Decidable (KnownWeights name) := inferInstanceAs (Decidable (_ ∨ _))

/-- The name of a way to fill weights. -/
def weightsName : WeightFill → String
  | .pattern => "fixed"
  | .zeros => "zeros"

variable {name : String}

/-! ### The tables of the check -/

theorem checkMode_eq (name : String) :
    checkMode name = if KnownMode name then .ok () else .error (.mode (lowerCase name)) := by
  unfold checkMode
  split
  · next hlayers => exact (if_pos (.inl hlayers)).symm
  · next hgraph => exact (if_pos (.inr hgraph)).symm
  · next hlayers hgraph => exact (if_neg fun h => h.elim hlayers hgraph).symm

theorem checkWeights_eq (name : String) :
    checkWeights name = if KnownWeights name then .ok () else .error (.weights (lowerCase name)) := by
  unfold checkWeights
  split
  · next hfixed => exact (if_pos (.inl hfixed)).symm
  · next hzeros => exact (if_pos (.inr hzeros)).symm
  · next hfixed hzeros => exact (if_neg fun h => h.elim hfixed hzeros).symm

/-! ### The tables of the plan -/

theorem readMode_of_known (h : KnownMode name) :
    ∃ mode : RunMode, readMode name = .ok mode ∧ mode.name = lowerCase name := by
  unfold readMode
  rcases h with h | h <;> rw [h]
  · exact ⟨.layers, rfl, rfl⟩
  · exact ⟨.graph, rfl, rfl⟩

theorem readMode_of_unknown (h : ¬ KnownMode name) : readMode name = .error (.mode (lowerCase name)) := by
  unfold readMode
  split
  · next hlayers => exact (h (.inl hlayers)).elim
  · next hgraph => exact (h (.inr hgraph)).elim
  · rfl

theorem readWeights_of_known (h : KnownWeights name) :
    ∃ fill, readWeights name = .ok fill ∧ weightsName fill = lowerCase name := by
  unfold readWeights
  rcases h with h | h <;> rw [h]
  · exact ⟨.pattern, rfl, rfl⟩
  · exact ⟨.zeros, rfl, rfl⟩

theorem readWeights_of_unknown (h : ¬ KnownWeights name) :
    readWeights name = .error (.weights (lowerCase name)) := by
  unfold readWeights
  split
  · next hfixed => exact (h (.inl hfixed)).elim
  · next hzeros => exact (h (.inr hzeros)).elim
  · rfl

/-! ## The two readings -/

variable {s : Settings}

/-- Settings that can lead to a run. -/
structure Sound (s : Settings) : Prop where
  mode : KnownMode s.simulation.mode
  weights : KnownWeights s.network.weights
  /-- The network has a file, whose name is more than white space. -/
  network : ∃ c ∈ s.network.file.toList, isWhiteSpace c = false
  blocks : s.device.convolution ≠ s.device.innerProduct

/-- The defect that a check finds where a plan does not know a name. -/
def UnknownName.defect : UnknownName → Defect
  | .mode name => .mode name
  | .weights name => .weights name

/-- Without a mode nothing else is looked at. -/
theorem refused_of_unknownMode (h : ¬ KnownMode s.simulation.mode) :
    s.validate = .error (.mode (lowerCase s.simulation.mode)) ∧
      s.plan = .error (.mode (lowerCase s.simulation.mode)) := by
  rw [validate, checkMode_eq, if_neg h, plan, readMode_of_unknown h]
  exact ⟨rfl, rfl⟩

/-- The weights are looked at next. -/
theorem refused_of_unknownWeights (hmode : KnownMode s.simulation.mode)
    (h : ¬ KnownWeights s.network.weights) :
    s.validate = .error (.weights (lowerCase s.network.weights)) ∧
      s.plan = .error (.weights (lowerCase s.network.weights)) := by
  obtain ⟨mode, hread, -⟩ := readMode_of_known hmode
  rw [validate, checkMode_eq, if_pos hmode, checkWeights_eq, if_neg h, plan, hread, readWeights_of_unknown h]
  exact ⟨rfl, rfl⟩

/-- The rest is for the check alone. -/
theorem validate_of_known (hmode : KnownMode s.simulation.mode) (hweights : KnownWeights s.network.weights) :
    s.validate = if (trim s.network.file.toList).isEmpty then .error .noNetwork
      else if s.device.convolution = s.device.innerProduct then .error (.sharedBlock s.device.convolution)
      else .ok () := by
  rw [validate, checkMode_eq, if_pos hmode, checkWeights_eq, if_pos hweights]
  change (if _ then _ else _) = _
  split
  · rfl
  · rfl

/-- What is known is planned. -/
theorem plan_of_known (hmode : KnownMode s.simulation.mode) (hweights : KnownWeights s.network.weights) :
    ∃ mode fill, mode.name = lowerCase s.simulation.mode ∧ weightsName fill = lowerCase s.network.weights ∧
      s.plan = .ok {
        mode
        weights := fill
        quiet := s.simulation.quiet
        stepping := s.simulation.stepMode
        traceFile := if s.simulation.traceFile.isEmpty then none else some s.simulation.traceFile
        blocks := s.device } := by
  obtain ⟨mode, hmode, hname⟩ := readMode_of_known hmode
  obtain ⟨fill, hfill, hname'⟩ := readWeights_of_known hweights
  refine ⟨mode, fill, hname, hname', ?_⟩
  rw [plan, hmode, hfill]
  rfl

/-- The three ways the readings go: on a name that is not known they stop together. -/
theorem readings (s : Settings) :
    (¬ KnownMode s.simulation.mode ∧
        s.validate = .error (.mode (lowerCase s.simulation.mode)) ∧
        s.plan = .error (.mode (lowerCase s.simulation.mode))) ∨
      (KnownMode s.simulation.mode ∧ ¬ KnownWeights s.network.weights ∧
        s.validate = .error (.weights (lowerCase s.network.weights)) ∧
        s.plan = .error (.weights (lowerCase s.network.weights))) ∨
      (KnownMode s.simulation.mode ∧ KnownWeights s.network.weights ∧ ∃ p, s.plan = .ok p) := by
  by_cases hmode : KnownMode s.simulation.mode
  case neg => exact .inl ⟨hmode, refused_of_unknownMode hmode⟩
  by_cases hweights : KnownWeights s.network.weights
  case neg => exact .inr (.inl ⟨hmode, hweights, refused_of_unknownWeights hmode hweights⟩)
  obtain ⟨mode, fill, -, -, hplan⟩ := plan_of_known hmode hweights
  exact .inr (.inr ⟨hmode, hweights, _, hplan⟩)

theorem validate_eq_ok_iff : s.validate = .ok () ↔ s.Sound := by
  rcases s.readings with ⟨hmode, hcheck, -⟩ | ⟨-, hweights, hcheck, -⟩ | ⟨hmode, hweights, -⟩
  · rw [hcheck]
    exact iff_of_false nofun fun h => hmode h.mode
  · rw [hcheck]
    exact iff_of_false nofun fun h => hweights h.weights
  rw [validate_of_known hmode hweights]
  split
  · next hblank =>
    refine iff_of_false nofun fun h => ?_
    obtain ⟨c, hc, hnot⟩ := h.network
    rw [trim_eq_nil_iff.1 (List.isEmpty_iff.1 hblank) c hc] at hnot
    cases hnot
  split
  · next hshared => exact iff_of_false nofun fun h => h.blocks hshared
  · next hblank hblocks =>
    refine iff_of_true rfl ⟨hmode, hweights, ?_, hblocks⟩
    rw [List.isEmpty_iff, trim_eq_nil_iff] at hblank
    simpa using hblank

/-- A plan fails on a name exactly when the check does. -/
theorem plan_eq_error_iff {e : UnknownName} : s.plan = .error e ↔ s.validate = .error e.defect := by
  rcases s.readings with ⟨-, hcheck, hplan⟩ | ⟨-, -, hcheck, hplan⟩ | ⟨hmode, hweights, p, hplan⟩
  · rw [hcheck, hplan]
    cases e <;> simp [UnknownName.defect]
  · rw [hcheck, hplan]
    cases e <;> simp [UnknownName.defect]
  -- The other defects are not those of a name.
  · rw [hplan, validate_of_known hmode hweights]
    refine iff_of_false nofun ?_
    split
    · cases e <;> simp [UnknownName.defect]
    split
    · cases e <;> simp [UnknownName.defect]
    · nofun

theorem plan_eq_error_mode_iff {name : String} : s.plan = .error (.mode name) ↔
    ¬ KnownMode s.simulation.mode ∧ name = lowerCase s.simulation.mode := by
  rcases s.readings with ⟨hmode, -, hplan⟩ | ⟨hmode, -, -, hplan⟩ | ⟨hmode, -, p, hplan⟩ <;>
    simp [hplan, hmode, eq_comm]

theorem plan_eq_error_weights_iff {name : String} : s.plan = .error (.weights name) ↔
    KnownMode s.simulation.mode ∧ ¬ KnownWeights s.network.weights ∧ name = lowerCase s.network.weights := by
  rcases s.readings with ⟨hmode, -, hplan⟩ | ⟨hmode, hweights, -, hplan⟩ | ⟨hmode, hweights, p, hplan⟩ <;>
    simp [*, eq_comm]

/-! ## The command line -/

/-- Where the command line says nothing, the settings `t` are what was loaded. -/
structure Overrides.Leaves (o : Overrides) (s t : Settings) : Prop where
  quiet : o.quiet = false → t.simulation.quiet = s.simulation.quiet
  stepMode : o.step = false → t.simulation.stepMode = s.simulation.stepMode
  mode : o.graph = false → t.simulation.mode = s.simulation.mode
  traceFile : o.traceFile = none → t.simulation.traceFile = s.simulation.traceFile
  file : o.network = none → t.network.file = s.network.file
  weights : o.weights = none → t.network.weights = s.network.weights
  device : t.device = s.device

theorem leaves_override (s : Settings) (o : Overrides) : o.Leaves s (s.override o) := by
  constructor <;> simp +contextual [override]

/-- The plan is what the loaded settings come to under the command line. -/
structure Planned (s : Settings) (o : Overrides) (p : RunPlan) : Prop where
  graph_iff : p.mode = .graph ↔ o.graph = true ∨ lowerCase s.simulation.mode = "graph"
  weights : weightsName p.weights = lowerCase (o.weights.getD s.network.weights)
  quiet_iff : p.quiet = true ↔ o.quiet = true ∨ s.simulation.quiet = true
  stepping_iff : p.stepping = true ↔ o.step = true ∨ s.simulation.stepMode = true
  untraced_iff : p.traceFile = none ↔ o.traceFile.getD s.simulation.traceFile = ""
  traced : ∀ file, p.traceFile = some file → file = o.traceFile.getD s.simulation.traceFile
  blocks : p.blocks = s.device
  blocks_ne : p.blocks.convolution ≠ p.blocks.innerProduct

theorem Sound.planned {o : Overrides} (h : (s.override o).Sound) :
    ∃ p, (s.override o).plan = .ok p ∧ Planned s o p := by
  obtain ⟨mode, fill, hmode, hfill, hplan⟩ := plan_of_known h.mode h.weights
  have hgraph : mode = .graph ↔ mode.name = "graph" := by cases mode <;> simp [RunMode.name]
  have hlower : lowerCase "graph" = "graph" := by decide +kernel
  refine ⟨_, hplan, {
    graph_iff := ?_
    weights := hfill
    quiet_iff := Bool.or_eq_true_iff ..
    stepping_iff := Bool.or_eq_true_iff ..
    untraced_iff := by simp [override]
    traced := fun file hfile => ?_
    blocks := rfl
    blocks_ne := h.blocks }⟩
  · rw [hgraph, hmode]
    cases ho : o.graph <;> simp [override, ho, hlower]
  · have hfound : o.traceFile.getD s.simulation.traceFile ≠ "" ∧
        o.traceFile.getD s.simulation.traceFile = file := by simpa [override] using hfile
    exact hfound.2.symm

/-- Whatever was loaded and whatever the command line says about it, settings pass when they are sound, and then
have the plan that both come to. A plan fails on a name exactly when the check does, on the mode before the weights
and whatever else is wrong, and where the command line says nothing what was loaded stays. -/
theorem validate_plan_agree (s : Settings) (o : Overrides) :
    let t := s.override o
    (t.validate = .ok () ↔ t.Sound) ∧
      (t.validate = .ok () → ∃ p, t.plan = .ok p ∧ Planned s o p) ∧
      (∀ e, t.plan = .error e ↔ t.validate = .error e.defect) ∧
      (∀ name, t.plan = .error (.mode name) ↔
        ¬ KnownMode t.simulation.mode ∧ name = lowerCase t.simulation.mode) ∧
      (∀ name, t.plan = .error (.weights name) ↔
        KnownMode t.simulation.mode ∧ ¬ KnownWeights t.network.weights ∧
          name = lowerCase t.network.weights) ∧
      o.Leaves s t :=
  ⟨validate_eq_ok_iff, fun h => (validate_eq_ok_iff.1 h).planned, fun _ => plan_eq_error_iff,
    fun _ => plan_eq_error_mode_iff, fun _ => plan_eq_error_weights_iff, leaves_override s o⟩

-- Both names that were loaded are unknown; the command line speaks over them, and over the trace.
example :
    let loaded : Settings := ⟨⟨false, true, "trace.jsonl", "Cycle"⟩, ⟨"net.toml", "random"⟩, {}⟩
    loaded.plan = .error (.mode "cycle") ∧ loaded.validate = .error (.mode "cycle") ∧
      (loaded.override { graph := true, weights := some "ZEROS", traceFile := some "" }).plan =
        .ok ⟨.graph, false, true, none, .zeros, {}⟩ := by
  decide +kernel

end ForwardPass.Settings

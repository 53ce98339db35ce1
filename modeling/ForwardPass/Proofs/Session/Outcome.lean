import ForwardPass.Proofs.Dataflow.Lowering
import ForwardPass.Proofs.Session.Stepping

/-!
# How a session ends

A session over a sound network leaves an output of the shape and the batch of its network, in either mode,
unless its shell leaves layers to run. What can stop it is an error of the engine and, where there is a
shell, a line that nothing can be done with.
-/

namespace ForwardPass.Session

variable {α : Type} [Scalar α] {n : Network α} {plan : RunPlan} {input : Tensor α} {s s₀ : Session α}
  {lines : List String}

/-- A session whose layers run one by one, before its output is taken. -/
structure Underway (n : Network α) (s : Session α) : Prop where
  output : s.output = none
  pass : ∃ k x, k ≤ n.stages.length ∧ s.run.pass.At n k x

/-- The session has an output such as its network gives. -/
def HasOutput (n : Network α) (s : Session α) : Prop :=
  ∃ t, s.output = some t ∧ t.shape = n.outputShape ∧ t.batch = n.images

/-- What may stop a session that has these lines to read. -/
inductive StoppedBy (lines : List String) : Failure → Prop where
  | error (e : EngineError) : StoppedBy lines (.error e)
  | line {line : String} (listed : line ∈ lines) (unreadable : Unreadable line) :
    StoppedBy lines (.fault .splitCharacter)

/-- Layers and endings keep a session to its network, or are stopped by an error. -/
theorem Underway.carried (hn : n.Sound) :
    Carried (Underway n) (HasOutput n) fun failure _ => StoppedBy lines failure where
  aside := by
    intro s s' h ha
    rw [ha.eq]
    exact ⟨h.output, h.pass⟩
  step := by
    intro s h hnot
    obtain ⟨k, x, -, hat⟩ := h.pass
    have hlt : k < n.stages.length := by
      unfold isDone Pass.isDone at hnot
      rw [hat.sized.network, hat.next] at hnot
      exact Nat.lt_of_not_le (of_decide_eq_false hnot)
    have hstage := List.getElem?_eq_getElem hlt
    unfold EndsFrom
    cases hobstacle : n.stages[k].layer.obstacle? n.images with
    | none =>
      obtain ⟨p', hstep, hat'⟩ := hat.step_completes s.plan.blocks s.run.ledger hn hstage hobstacle
      rw [step_of_ok (hat.stage hstage) hstep]
      exact ⟨h.output, k + 1, _, hlt, hat'⟩
    | some e =>
      obtain ⟨p', hstep, -⟩ := hat.step_refused s.plan.blocks s.run.ledger hn hstage hobstacle
      rw [step_of_error hstep]
      exact .error e
  finish := by
    intro s h hdone
    obtain ⟨k, x, hk, hat⟩ := h.pass
    have hlast : k = n.stages.length := by
      unfold isDone Pass.isDone at hdone
      rw [hat.sized.network, hat.next] at hdone
      exact Nat.le_antisymm hk (of_decide_eq_true hdone)
    subst hlast
    unfold EndsFrom
    obtain ⟨slot, t, -, ht, heq⟩ | ⟨failure, herror, -⟩ := finish_cases s
    · rw [heq]
      cases hat.output_eq.symm.trans ht
      exact ⟨_, rfl, rfl, rfl⟩
    · cases hat.output_eq.symm.trans herror

/-- A run as a graph leaves the output of its last operator, or is stopped by the first obstacle. -/
theorem runGraph_ends (hn : n.Sound) (hnetwork : s.run.pass.network = n) (hi : Pass.Fits n s.input) :
    EndsFrom runGraph s (fun _ => HasOutput n) fun failure _ => StoppedBy lines failure := by
  unfold EndsFrom runGraph
  rw [hnetwork]
  cases hobstacle : Stage.obstacle? n.images n.stages with
  | none =>
    obtain ⟨id, e, hrun, -, -, t, ht, hshape, hbatch, -⟩ :=
      Network.run_toGraph_completes hn hi hobstacle s.plan.blocks s.run.ledger
    dsimp only
    rw [hrun]
    dsimp only
    rw [TensorStore.get_eq_ok ht]
    exact ⟨t, rfl, hshape, hbatch⟩
  | some first =>
    obtain ⟨before, cause⟩ := first
    obtain ⟨e, hrun, -⟩ := Network.run_toGraph_refused hn hi hobstacle s.plan.blocks s.run.ledger
    dsimp only
    rw [hrun]
    exact .error cause

/-- Whatever its shell reads, a session over a sound network leaves an output or layers to run, or is stopped
by an error or by a line that cannot be read. -/
theorem execute_ends (hn : n.Sound) (hi : Pass.Fits n input) (hs : start plan n input = .ok s₀)
    (lines : List String) :
    EndsFrom execute (s₀.feed lines)
      (fun _ s => HasOutput n s ∨ (s.output = none ∧ s.isDone = false))
      fun failure _ => StoppedBy lines failure := by
  obtain ⟨p, hload, rfl⟩ := start_eq_ok hs
  obtain ⟨p', hload', hat⟩ := (Pass.over_start n).load hi
  cases hload.symm.trans hload'
  have hunderway : Underway n (feed lines { plan, run := ⟨p, {}⟩, input }) :=
    ⟨rfl, 0, _, Nat.zero_le _, hat⟩
  refine ((Underway.carried hn).execute hunderway (fun _ => runGraph_ends hn hat.sized.network hi)
    fun line hline failure hread _ _ => ?_).mono
      (fun _ s hs => hs.imp_right fun h => ⟨h.1.output, h.2⟩) fun _ _ h => h
  obtain ⟨rfl, hunreadable⟩ := readCommand_eq_error hread
  exact .line hline hunreadable

end ForwardPass.Session

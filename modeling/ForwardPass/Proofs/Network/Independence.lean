import ForwardPass.Proofs.Layer.Growth
import ForwardPass.Proofs.Network.History

/-!
# Independence of the past

What a whole pass does is a function of its network and its input. Two passes over one network are the same
once an input is loaded; from there a step does the same to both, whichever hardware blocks and ledgers it is
given, and both ledgers grow by the same totals. `Twins` is this relation between the endings of two runs.
-/

namespace ForwardPass

namespace Pass

variable {α : Type} {p q : Pass α} {n : Network α} {ledger ledger' : Ledger} {β γ : Type}

/-! ## Two runs -/

/-- Two endings that differ in their ledgers only, and these grew alike since they were as stated. -/
inductive Twins (n : Network α) (ledger ledger' : Ledger) :
    EStateM.Result Failure (Run α) β → EStateM.Result Failure (Run α) β → Prop where
  | ok {b : β} {pass : Pass α} {after after' : Ledger} (sized : pass.Over n)
      (grown : GrewAlike ledger ledger' after after') :
      Twins n ledger ledger' (.ok b ⟨pass, after⟩) (.ok b ⟨pass, after'⟩)
  | error {failure : Failure} {pass : Pass α} {after after' : Ledger}
      (grown : GrewAlike ledger ledger' after after') :
      Twins n ledger ledger' (.error failure ⟨pass, after⟩) (.error failure ⟨pass, after'⟩)

/-- Computations that end alike, and go on alike from the same pass, end alike. -/
theorem Twins.bind {x x' : EStateM Failure (Run α) β} {k k' : β → EStateM Failure (Run α) γ}
    (hx : Twins n ledger ledger' (x ⟨p, ledger⟩) (x' ⟨p, ledger'⟩))
    (hk : ∀ b pass after after', Over pass n →
      Twins n after after' (k b ⟨pass, after⟩) (k' b ⟨pass, after'⟩)) :
    Twins n ledger ledger' ((x >>= k) ⟨p, ledger⟩) ((x' >>= k') ⟨p, ledger'⟩) := by
  generalize hend : x ⟨p, ledger⟩ = ending at hx
  generalize hend' : x' ⟨p, ledger'⟩ = ending' at hx
  cases hx with
  | @ok b pass after after' sized grown =>
    rw [bind_of_ok hend, bind_of_ok hend']
    have hrest := hk b pass after after' sized
    generalize k b ⟨pass, after⟩ = rest, k' b ⟨pass, after'⟩ = rest' at hrest
    cases hrest with
    | ok sized' grown' => exact .ok sized' (grown.trans grown')
    | error grown' => exact .error (grown.trans grown')
  | error grown =>
    rw [bind_of_error hend, bind_of_error hend']
    exact .error grown

variable [Scalar α] {blocks blocks' : Blocks} {input : Tensor α}

/-- A step does the same on all blocks and with all ledgers. -/
theorem Over.step_twins (hn : n.Weighted) (h : p.Over n) (blocks blocks' : Blocks)
    (ledger ledger' : Ledger) :
    Twins n ledger ledger' (step blocks ⟨p, ledger⟩) (step blocks' ⟨p, ledger'⟩) := by
  cases hs : n.stages[p.next]? with
  | none =>
    have hlast : p.network.stages[p.next]? = none := by rw [h.network, hs]
    rw [step_eq_of_none hlast, step_eq_of_none hlast]
    exact .error (.none ledger ledger')
  | some s =>
    have hstep := step_eq_work hn h hs blocks ledger
    rw [hstep, step_eq_work hn h hs blocks' ledger']
    cases hwork : s.layer.work s.weightData n.images p.buffers.liveBuffer p.buffers.otherBuffer with
    | ok landing buffers =>
      rw [hwork] at hstep
      exact .ok (h.over_of_step hn hstep) (s.layer.account_grewAlike blocks blocks' n.images ledger ledger')
    | error failure buffers =>
      exact .error (s.layer.refusedAccount_grewAlike blocks blocks' n.images ledger ledger')

theorem Over.steps_twins (hn : n.Weighted) (h : p.Over n) (blocks blocks' : Blocks)
    (ledger ledger' : Ledger) (count : Nat) :
    Twins n ledger ledger' (steps blocks count ⟨p, ledger⟩) (steps blocks' count ⟨p, ledger'⟩) := by
  -- Both ledgers grow along the induction, so neither can be fixed.
  induction count generalizing p ledger ledger' with
  | zero => exact .ok h (.none ledger ledger')
  | succ count ih =>
    rw [steps, steps, bind_get, bind_get]
    split
    · exact .ok h (.none ledger ledger')
    · exact (h.step_twins hn blocks blocks' ledger ledger').bind
        fun _ pass after after' hpass => ih hpass after after'

theorem Over.finish_twins (hn : n.Weighted) (h : p.Over n) (blocks blocks' : Blocks)
    (ledger ledger' : Ledger) :
    Twins n ledger ledger' (finish blocks ⟨p, ledger⟩) (finish blocks' ⟨p, ledger'⟩) := by
  unfold finish
  rw [bind_get, bind_get]
  exact (h.steps_twins hn blocks blocks' ledger ledger' _).bind
    fun _ pass after after' hpass => .ok hpass (.none after after')

/-! ## Loading -/

/-- Loading makes two passes over one network the same. -/
theorem Over.load_congr (hp : p.Over n) (hq : q.Over n) (hi : Fits n input) :
    p.load input = q.load input := by
  have hbuffers : p.buffers.reset input.data = q.buffers.reset input.data := by
    simp only [DoubleBuffer.reset, DoubleBuffer.size, hp.activations, hp.result, hq.activations, hq.result]
  rw [hp.load_eq hi, hq.load_eq hi, hbuffers, hp.network, hq.network]

/-- An input that does not fit is refused before anything is changed. -/
theorem Over.forward_misfit (h : p.Over n) (hi : ¬ Fits n input) (blocks : Blocks) (ledger : Ledger) :
    forward blocks input ⟨p, ledger⟩ = .error (.error (.shapeMismatch n.name
      (.input input.batch input.shape n.images n.inputShape))) ⟨p, ledger⟩ := by
  have hreload := reload_eq input ⟨p, ledger⟩
  rw [h.load_refused hi] at hreload
  rw [forward_eq_reload]
  exact bind_of_error hreload _

/-- An input that fits makes of all passes over one network the same. -/
theorem Over.forward_twins (hn : n.Weighted) (hp : p.Over n) (hq : q.Over n) (hi : Fits n input)
    (blocks blocks' : Blocks) (ledger ledger' : Ledger) :
    Twins n ledger ledger' (forward blocks input ⟨p, ledger⟩) (forward blocks' input ⟨q, ledger'⟩) := by
  have hreload (ledger : Ledger) := reload_eq input ⟨p, ledger⟩
  have hreload' (ledger : Ledger) := reload_eq input ⟨q, ledger⟩
  simp only [← hp.load_congr hq hi, hp.load_eq hi] at hreload hreload'
  rw [forward_eq_reload, forward_eq_reload, bind_of_ok (hreload ledger), bind_of_ok (hreload' ledger')]
  exact (hp.reset hi).finish_twins hn blocks blocks' ledger ledger'

/-! ## Any two histories -/

/-- Whatever happened to two passes over one network, a whole pass over an input that fits ends alike in both:
in the same slot or the same failure, in the same pass, so with the same buffers and the same output, and with
the same growth of the totals. An input that does not fit is refused alike and changes neither. -/
theorem Reached.forward_independent {name : String} {images : Nat} {layers : List Layer}
    {weights : List (Option (Tensor α))} (h : Network.ofLayers name images layers weights = .ok n)
    (hp : Reached n p) (hq : Reached n q) (input : Tensor α) (blocks blocks' : Blocks)
    (ledger ledger' : Ledger) :
    (Fits n input →
      Twins n ledger ledger' (forward blocks input ⟨p, ledger⟩) (forward blocks' input ⟨q, ledger'⟩)) ∧
    (¬ Fits n input → ∃ e, forward blocks input ⟨p, ledger⟩ = .error (.error e) ⟨p, ledger⟩ ∧
      forward blocks' input ⟨q, ledger'⟩ = .error (.error e) ⟨q, ledger'⟩) := by
  have hn := Network.weighted_of_ofLayers h
  have hover := (hp.tracked hn).sized
  have hover' := (hq.tracked hn).sized
  constructor
  · intro hi
    exact hover.forward_twins hn hover' hi blocks blocks' ledger ledger'
  · intro hi
    exact ⟨_, hover.forward_misfit hi blocks ledger, hover'.forward_misfit hi blocks' ledger'⟩

/-- A new pass and one that was used before, on different blocks. -/
theorem forward_independent_overrun :
    Network.ofLayers "small" 1 smallLayers smallWeights = .ok small ∧
      @Reached Int integers small (@start Int integers small) ∧
      @Reached Int integers small overrun.pass ∧
      Twins small {} overrun.ledger
        (@forward Int integers {} (counting "input" ⟨2, 3, 1, 5⟩ 1 4) ⟨@start Int integers small, {}⟩)
        (@forward Int integers ⟨3, 3⟩ (counting "input" ⟨2, 3, 1, 5⟩ 1 4)
          ⟨overrun.pass, overrun.ledger⟩) := by
  have hstart : @Reached Int integers small (@start Int integers small) := @Reached.start Int integers small
  have hput : Network.ofLayers "small" 1 smallLayers smallWeights = .ok small := rfl
  have halike := @Reached.forward_independent Int _ _ _ integers _ _ _ _ hput hstart reached_overrun
    (counting "input" ⟨2, 3, 1, 5⟩ 1 4) {} ⟨3, 3⟩ {} overrun.ledger
  exact ⟨hput, hstart, reached_overrun, halike.1 ⟨rfl, rfl⟩⟩

/-- An input that does not fit leaves each pass with what it had: one has an output and the other has none. -/
theorem forward_misfit_differs :
    Network.ofLayers "small" 1 smallLayers smallWeights = .ok small ∧
      @Reached Int integers small (@start Int integers small) ∧
      @Reached Int integers small passed.pass ∧
      (∃ failure,
        @forward Int integers {} (counting "input" ⟨1, 1, 1, 7⟩ 1 1) ⟨@start Int integers small, {}⟩ =
          .error failure ⟨@start Int integers small, {}⟩ ∧
        @forward Int integers {} (counting "input" ⟨1, 1, 1, 7⟩ 1 1) ⟨passed.pass, {}⟩ =
          .error failure ⟨passed.pass, {}⟩) ∧
      (@start Int integers small).buffers.activations ≠ passed.pass.buffers.activations ∧
      (∃ e, (@start Int integers small).output = .error e) ∧ ∃ t, passed.pass.output = .ok t := by
  have hput : Network.ofLayers "small" 1 smallLayers smallWeights = .ok small := rfl
  have hmisfit : ¬ Fits small (counting "input" ⟨1, 1, 1, 7⟩ 1 1) := fun h => absurd h.shape (by decide)
  have hstart : @Reached Int integers small (@start Int integers small) := @Reached.start Int integers small
  have htracked := @Reached.tracked Int _ _ integers (Network.weighted_of_ofLayers hput) reached_passed
  have hnone := @output_eq_error Int (@start Int integers small) rfl
  have hnew := @Over.forward_misfit Int _ _ integers _ (@over_start Int integers small) hmisfit {} {}
  have hused := @Over.forward_misfit Int _ _ integers _ htracked.sized hmisfit {} {}
  have hdiffer : (@start Int integers small).buffers.activations ≠ passed.pass.buffers.activations := by
    decide +kernel
  have hdone : ∃ t, passed.pass.output = .ok t := htracked.output_iff.2 (by decide +kernel)
  exact ⟨hput, hstart, reached_passed, ⟨_, hnew, hused⟩, hdiffer, ⟨_, hnone⟩, hdone⟩

end Pass

end ForwardPass

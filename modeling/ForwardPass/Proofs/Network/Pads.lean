import ForwardPass.Proofs.Convolution.Output
import ForwardPass.Proofs.Network.History

/-!
# Pad lanes of a pass

Each kind of layer writes zeros into the pad lanes of its output: a convolution adds up zeros there, an inner
product and a pooling layer clear the lanes behind their columns. What a buffer held before a layer, and what
pad lanes the input brought along, is gone behind the first layer.
-/

namespace ForwardPass

variable {α : Type}

variable [Scalar α]

/-- Whatever a layer reads, pad lanes included, the pad lanes of what it makes are zero. -/
theorem Layer.apply_pad (h : (0 : α) + 0 = 0) (l : Layer) (weights : Array α) (x : Batch α)
    {image chan row q : Nat} (hq : l.outputs.cols ≤ q) : l.apply weights x image chan row q = 0 := by
  unfold apply
  cases l.kind with
  | convolution => exact convolved_pad h hq
  | innerProduct => exact if_neg (Nat.not_lt.2 hq)
  | pooling => exact if_neg (Nat.not_lt.2 hq)

omit [Scalar α] in
/-- Every batch on the way through a network has room in its buffers. -/
theorem Network.shapeAt_size_le (n : Network α) (k : Nat) :
    n.images * (n.shapeAt k).size ≤ n.bufferSize := by
  unfold shapeAt
  cases hs : n.stages[k]? with
  | some s =>
    exact Nat.le_trans (Nat.mul_le_mul_left _ s.layer.inputs_size_le)
      (footprint_le (List.mem_of_getElem? hs))
  | none =>
    exact Nat.le_trans (Nat.mul_le_mul_left _ (Layer.outputs_size_le _))
      (footprint_le (List.getLast_mem n.stages_ne_nil))

namespace Pass

variable {p : Pass α} {n : Network α} {input : Tensor α}

/-! ## The invariant -/

/-- Behind a layer, the live buffer holds the output of the layer with pad lanes that are zero. -/
structure Padded (p : Pass α) (n : Network α) : Prop where
  tracked : p.Tracked n
  pads : ∀ {k : Nat} {s : Stage α}, p.next = k + 1 → n.stages[k]? = some s →
    s.layer.outputs.PadsZero n.images p.buffers.liveBuffer

/-- Before the first layer there is nothing to say of pad lanes. -/
theorem Tracked.padded (h : p.Tracked n) (hnext : p.next = 0) : p.Padded n where
  tracked := h
  pads hk _ := by
    rw [hnext] at hk
    cases hk

/-- A pass carries the batch that is read from its live buffer. -/
theorem Tracked.carries (h : p.Tracked n) :
    p.At n p.next ((n.shapeAt p.next).read p.buffers.liveBuffer) where
  sized := h.sized
  next := rfl
  marked := h.marked
  holds := (n.shapeAt p.next).holds_read (by
    rw [DoubleBuffer.liveBuffer, h.sized.size_buffer]
    exact n.shapeAt_size_le p.next)

/-- A layer that has run leaves zeros in the pad lanes of its output. -/
theorem Tracked.pads_of_step (hzero : (0 : α) + 0 = 0) (hn : n.Sound) (h : p.Tracked n) {blocks : Blocks}
    {ledger : Ledger} {slot : Slot} {run : Run α}
    (hstep : Pass.step blocks ⟨p, ledger⟩ = .ok slot run) {s : Stage α}
    (hs : n.stages[p.next]? = some s) :
    s.layer.outputs.PadsZero n.images run.pass.buffers.liveBuffer := by
  cases hobstacle : s.layer.obstacle? n.images with
  | some e =>
    obtain ⟨p', hrefused, -⟩ := h.carries.step_refused blocks ledger hn hs hobstacle
    rw [hrefused] at hstep
    cases hstep
  | none =>
    obtain ⟨p', hran, hat⟩ := h.carries.step_completes blocks ledger hn hs hobstacle
    rw [hran] at hstep
    cases hstep
    have hholds := hat.holds
    rw [hn.shapeAt_succ hs] at hholds
    exact hholds.padsZero fun image chan row q hq => s.layer.apply_pad hzero s.weightData _ hq

/-- The pad lanes stay zero: a layer that runs clears those of its own output, and a layer that is refused
leaves the live buffer as it was. -/
theorem Padded.kept (hzero : (0 : α) + 0 = 0) (hn : n.Sound) : Kept fun p : Pass α => p.Padded n where
  load h hload :=
    have ⟨htracked, hnext⟩ := h.tracked.sized.tracked_of_load hload
    htracked.padded hnext
  step {p} h blocks ledger := by
    have htracked := (Tracked.kept hn.weights).step h.tracked blocks ledger
    unfold Keeps EndsFrom at htracked ⊢
    cases hstep : Pass.step blocks ⟨p, ledger⟩ with
    | ok slot run =>
      rw [hstep] at htracked
      refine ⟨htracked, fun {k s} hk hs => ?_⟩
      rw [h.tracked.sized.next_of_step hn.weights hstep] at hk
      obtain rfl : p.next = k := Nat.succ.inj hk
      exact h.tracked.pads_of_step hzero hn hstep hs
    | error failure run =>
      rw [hstep] at htracked
      cases failure with
      | fault f => exact .inl (Failure.isFault_fault f)
      | error e =>
        refine .inr ⟨htracked.resolve_left Failure.not_isFault_error, fun {k s} hk hs => ?_⟩
        obtain ⟨-, -, hnext, -, hlive, -⟩ := h.tracked.sized.keeps_of_refused hn.weights hstep
        rw [hlive]
        exact h.pads (hnext.symm.trans hk) hs

/-- An output is what lies in the live buffer behind the last layer, so its pad lanes are zero. -/
theorem Padded.output (h : p.Padded n) {t : Tensor α} (ht : p.output = .ok t) :
    t.shape.PadsZero t.batch t.data := by
  have hdone : p.next = n.stages.length := h.tracked.output_iff.1 ⟨t, ht⟩
  have hcarries := h.tracked.carries
  rw [hdone] at hcarries
  rw [hcarries.output_eq] at ht
  cases ht
  have hlast : n.stages[n.stages.length - 1]? = some (n.stages.getLast n.stages_ne_nil) := by
    rw [← List.getLast?_eq_getElem?, List.getLast?_eq_some_getLast]
  have hlength := List.length_pos_iff.2 n.stages_ne_nil
  have hholds := hcarries.holds
  rw [n.shapeAt_length] at hholds ⊢
  exact (h.pads (by omega) hlast).congr hholds (Shape.holds_tabulate ..)

/-- After every history the pad lanes of what the live buffer holds are zero, and so are those of the output
if there is one. -/
theorem Reached.padded (hzero : (0 : α) + 0 = 0) (hn : n.Sound) (h : Reached n p) : p.Padded n :=
  h.kept (Padded.kept hzero hn) ((tracked_start n).padded rfl)

/-! ## Steps after a load -/

/-- As many steps as hardware blocks are given, one on each; the first that fails ends it. -/
def stepEach : List Blocks → EStateM Failure (Run α) Unit
  | [] => pure ()
  | b :: blocks => do
    let _ ← Pass.step b
    stepEach blocks

/-- Steps that all succeed keep what is kept, and each of them goes one layer on. -/
theorem Kept.stepEach {I : Pass α → Prop} (hI : Kept I) (hn : n.Weighted) (hover : ∀ p, I p → Over p n)
    {blocks : List Blocks} {ledger : Ledger} {run : Run α} (h : I p)
    (hsteps : Pass.stepEach blocks ⟨p, ledger⟩ = .ok () run) :
    I run.pass ∧ run.pass.next = p.next + blocks.length := by
  induction blocks generalizing p ledger with
  | nil =>
    cases hsteps
    exact ⟨h, rfl⟩
  | cons b blocks ih =>
    rw [Pass.stepEach] at hsteps
    cases hstep : Pass.step b ⟨p, ledger⟩ with
    | error failure between =>
      rw [bind_of_error hstep] at hsteps
      cases hsteps
    | ok slot between =>
      rw [bind_of_ok hstep] at hsteps
      obtain ⟨hrest, hnext⟩ := ih ((hI.step h b ledger).of_ok hstep) hsteps
      refine ⟨hrest, ?_⟩
      rw [hnext, (hover p h).next_of_step hn hstep, List.length_cons]
      omega

/-- Whatever the buffers of a pass and the pad lanes of its input held, once the input is loaded and at least
one layer has run, the pad lanes of the last layer's output are zero in the live buffer; and so are those of
the output, when there is one. -/
theorem pads_zero_behind_layers {name : String} {images : Nat} {layers : List Layer}
    {weights : List (Option (Tensor α))} (h : Network.ofLayers name images layers weights = .ok n)
    (hlayers : ∀ l ∈ layers, l.Constructed) (hzero : (0 : α) + 0 = 0) {p₀ : Pass α} (hp : p.Over n)
    (hload : p.load input = .ok p₀) {blocks : List Blocks} {ledger : Ledger} {run : Run α}
    (hsteps : stepEach blocks ⟨p₀, ledger⟩ = .ok () run) :
    (∀ j, blocks.length = j + 1 → ∃ l, layers[j]? = some l ∧
      l.outputs.PadsZero images run.pass.buffers.liveBuffer) ∧
    ∀ t, run.pass.output = .ok t → t.shape.PadsZero t.batch t.data := by
  have hn := Network.sound_of_ofLayers h fun l hl => (hlayers l hl).consistent
  obtain ⟨rfl, -, rfl, -⟩ := Network.ofLayers_eq_ok h
  obtain ⟨htracked, hstart⟩ := hp.tracked_of_load hload
  obtain ⟨hpadded, hnext⟩ := (Padded.kept hzero hn).stepEach hn.weights (fun p hp => hp.tracked.sized)
    (htracked.padded hstart) hsteps
  refine ⟨fun j hj => ?_, fun t ht => hpadded.output ht⟩
  have hnext' : run.pass.next = j + 1 := by rw [hnext, hstart, hj, Nat.zero_add]
  have hlt : j < n.stages.length := by
    rw [← Nat.succ_le_iff, Nat.succ_eq_add_one, ← hnext']
    exact hpadded.tracked.next_le
  exact ⟨_, by rw [Network.layers, List.getElem?_map, List.getElem?_eq_getElem hlt]; rfl,
    hpadded.pads hnext' (List.getElem?_eq_getElem hlt)⟩

/-- A pass over the small network with sevens in both of its buffers. -/
def stale : Pass Int :=
  (@start Int integers small).setBuffers (Array.replicate small.bufferSize 7)
    (Array.replicate small.bufferSize 7)

theorem over_stale : stale.Over small :=
  (@over_start Int integers small).setBuffers Array.size_replicate Array.size_replicate

/-- The same pass with an input whose pad lanes are not zero. -/
def reloaded : Pass Int where
  network := small
  buffers := @DoubleBuffer.reset Int integers stale.buffers (counting "input" ⟨2, 3, 1, 5⟩ 1 1).data
  next := 0
  result := none

theorem load_stale : @load Int integers stale (counting "input" ⟨2, 3, 1, 5⟩ 1 1) = .ok reloaded :=
  @Over.load_eq Int integers _ _ over_stale _ ⟨rfl, rfl⟩

theorem pads_zero_behind_small :
    Network.ofLayers "small" 1 smallLayers smallWeights = .ok small ∧
      (∀ l ∈ smallLayers, l.Constructed) ∧ stale.Over small ∧
      @load Int integers stale (counting "input" ⟨2, 3, 1, 5⟩ 1 1) = .ok reloaded ∧
      (∃ run, @stepEach Int integers [{}, {}] ⟨reloaded, {}⟩ = .ok () run ∧
        @Shape.PadsZero Int integers.toZero ⟨1, 2, 2, 6⟩ 1 run.pass.buffers.liveBuffer) ∧
      ∃ run t, @stepEach Int integers [{}, {}, {}] ⟨reloaded, {}⟩ = .ok () run ∧
        run.pass.output = .ok t ∧ @Shape.PadsZero Int integers.toZero t.shape t.batch t.data := by
  have hput : Network.ofLayers "small" 1 smallLayers smallWeights = .ok small := rfl
  have hlayers : ∀ l ∈ smallLayers, l.Constructed := fun l hl => (regular_smallLayers l hl).constructed
  have hn := Network.weighted_of_ofLayers hput
  obtain ⟨_, run, hrun⟩ : ∃ u run, @stepEach Int integers [{}, {}] ⟨reloaded, {}⟩ = .ok u run := by
    decide +kernel
  obtain ⟨_, run', hrun'⟩ : ∃ u run, @stepEach Int integers [{}, {}, {}] ⟨reloaded, {}⟩ = .ok u run := by
    decide +kernel
  -- Three layers have run then, so there is an output.
  obtain ⟨htracked, -⟩ := @Over.tracked_of_load Int _ _ integers _ over_stale _ load_stale
  obtain ⟨htracked', hnext'⟩ := @Kept.stepEach Int integers _ _ _ (@Tracked.kept Int _ integers hn) hn
    (fun _ h => h.sized) _ _ _ htracked hrun'
  obtain ⟨t, ht⟩ := htracked'.output_iff.2 hnext'
  obtain ⟨hpads, -⟩ := @pads_zero_behind_layers Int integers _ _ _ _ _ _ _ hput hlayers rfl _ over_stale
    load_stale _ _ _ hrun
  obtain ⟨-, houtput⟩ := @pads_zero_behind_layers Int integers _ _ _ _ _ _ _ hput hlayers rfl _
    over_stale load_stale _ _ _ hrun'
  obtain ⟨l, hl, hlive⟩ := hpads 1 rfl
  cases hl
  exact ⟨hput, hlayers, over_stale, load_stale, ⟨run, hrun, hlive⟩, run', t, hrun', ht, houtput t ht⟩

end Pass

end ForwardPass

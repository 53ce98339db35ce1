import ForwardPass.Proofs.Layer.Growth
import ForwardPass.Proofs.Network.Pads

/-!
# The accounts of a pass

A layer that runs on the accelerator accounts for three transfers and one launch, and a pooling layer for
nothing. So the ledger of a pass grows by the transfers of its layers in their order, whatever the ledger held
before and whichever blocks the layers run on; and no transfer is ever refused, because each array is mapped
for the layer at hand before anything is transferred.
-/

namespace ForwardPass

namespace Layer

/-- The transfers of a run on a block: the weights and `operands` elements of each image go in, and the
output comes out. -/
def transfersOn (l : Layer) (block : BlockId) (operands images : Nat) : List Transfer := [
  ⟨block, .weights, .into, 0, 4 * l.weightsSize⟩,
  ⟨block, .activations, .into, 0, 4 * (images * operands)⟩,
  ⟨block, .result, .outOf, 0, 4 * (images * l.outputs.size)⟩]

/-- The transfers of a run of the layer. A convolution takes in its frame, and pooling transfers nothing. -/
def transferLog (l : Layer) (blocks : Blocks) (images : Nat) : List Transfer :=
  match l.kind with
  | .convolution => l.transfersOn blocks.convolution l.frame.size images
  | .innerProduct => l.transfersOn blocks.innerProduct l.inputs.size images
  | .pooling => []

/-- How often a run of the layer launches a kernel. -/
def launches (l : Layer) : Nat := if l.kind = .pooling then 0 else 1

/-- Only layers without weights run on the host. -/
theorem transferLog_of_hasWeights {l : Layer} (h : l.hasWeights) (blocks : Blocks) (images : Nat) :
    l.transferLog blocks images = l.transfersOn (l.block blocks) l.operandSize images := by
  unfold transferLog block operandSize
  cases hkind : l.kind with
  | convolution => rfl
  | innerProduct => rfl
  | pooling => simp [hasWeights, hkind] at h

theorem transferLog_of_not_hasWeights {l : Layer} (h : ¬ l.hasWeights) (blocks : Blocks) (images : Nat) :
    l.transferLog blocks images = [] := by
  have hkind : l.kind = .pooling := by simpa [hasWeights] using h
  rw [transferLog, hkind]

/-- A run of the layer adds its transfers to the ledger. -/
theorem transfers_account (l : Layer) (blocks : Blocks) (images : Nat) (ledger : Ledger) :
    (l.account blocks images ledger).transfers.toList =
      ledger.transfers.toList ++ l.transferLog blocks images := by
  unfold account
  split
  · next h =>
    rw [transferLog_of_hasWeights h]
    simp [transfersOn, launched, mapArrays, Ledger.record, Ledger.launch, Ledger.map, elementBytes,
      Nat.mul_comm 4]
  · next h => rw [transferLog_of_not_hasWeights h, List.append_nil]

/-- The totals of a run of the layer are those of its transfers and its launch. -/
theorem growth_eq (l : Layer) (blocks : Blocks) (images : Nat) :
    l.growth images = .ofLog l.launches (l.transferLog blocks images) := by
  unfold growth launches
  split
  · next h =>
    have hkind : l.kind ≠ .pooling := by simpa [hasWeights] using h
    rw [transferLog_of_hasWeights h, if_neg hkind]
    change Totals.mk _ _ _ _ _ = _
    simp [operandGrowth, Totals.ofLog, transfersOn, elementBytes, Nat.mul_comm 4]
  · next h =>
    have hkind : l.kind = .pooling := by simpa [hasWeights] using h
    rw [transferLog_of_not_hasWeights h, if_pos hkind]
    rfl

/-- The transfers of layers that run one after the other, each with the blocks given for it. -/
def transferLogs (images : Nat) (layers : List Layer) (blocks : List Blocks) : List Transfer :=
  (List.zipWith (fun l b => l.transferLog b images) layers blocks).flatten

end Layer

/-! ## Refused transfers -/

/-- The error of a transfer that was refused. -/
def EngineError.IsTransfer : EngineError → Prop
  | .transfer .. => True
  | _ => False

def Failure.IsTransfer : Failure → Prop
  | .error e => e.IsTransfer
  | .fault _ => False

namespace Layer

/-- The checks of a plane have nothing to do with the ledger. -/
theorem planeSchedule_ends (l : Layer) (at_ : PlaneIndex) (activations kernels result : Nat) :
    Ends (l.planeSchedule at_ activations kernels result) (fun _ => True) fun e => ¬ e.IsTransfer := by
  have hsize (role : Role) (have_ need : Nat) :
      Ends (l.requireSize role have_ need) (fun _ => True) fun e => ¬ e.IsTransfer := by
    unfold requireSize
    split
    · exact id
    · trivial
  have hschedule : Ends (Schedule.ofKernel l.weights.cols l.stride) (fun _ => True)
      fun e => ¬ e.IsTransfer := by
    unfold Schedule.ofKernel
    split
    · exact id
    · dsimp only
      unfold maxSumsPerFetch
      split <;> first | trivial | exact id
  unfold planeSchedule
  refine hschedule.bind fun s _ => ?_
  dsimp only
  split
  · exact id
  split
  · exact id
  split
  · exact id
  refine (hsize ..).bind fun _ _ => ?_
  refine (hsize ..).bind fun _ _ => ?_
  exact (hsize ..).bind fun _ _ => trivial

/-- No layer is refused for a transfer. -/
theorem not_isTransfer_of_defect {l : Layer} {images : Nat} {e : EngineError}
    (h : l.defect? images = some e) : ¬ e.IsTransfer := by
  unfold defect? at h
  cases hkind : l.kind with
  | convolution =>
    rw [hkind] at h
    dsimp only at h
    unfold batchDefect? planeDefect? at h
    split at h
    · cases h
    · split at h
      · cases h
      · next heq =>
        cases h
        exact (l.planeSchedule_ends ..).of_error heq
  | innerProduct =>
    rw [hkind] at h
    cases h
  | pooling =>
    rw [hkind] at h
    dsimp only at h
    split at h
    · cases h
    · cases h
      exact id

end Layer

namespace Pass

variable {α : Type} [Scalar α] {p : Pass α} {n : Network α} {ledger : Ledger}

/-! ## Steps -/

/-- A step that gives a result leaves the accounts of its layer. -/
theorem Over.account_of_step (hn : n.Weighted) (h : p.Over n) {blocks : Blocks} {slot : Slot} {run : Run α}
    (hstep : step blocks ⟨p, ledger⟩ = .ok slot run) :
    ∃ s, n.stages[p.next]? = some s ∧ run.ledger = s.layer.account blocks n.images ledger := by
  have hstepped := h.stepped hn blocks ledger
  rw [hstep] at hstepped
  cases hstepped with
  | ran stage sound live_size other_size => exact ⟨_, stage, rfl⟩

/-- No step is refused for a transfer. -/
theorem Over.not_isTransfer_of_step (hn : n.Weighted) (h : p.Over n) {blocks : Blocks} {failure : Failure}
    {run : Run α} (hstep : step blocks ⟨p, ledger⟩ = .error failure run) : ¬ failure.IsTransfer := by
  have hstepped := h.stepped hn blocks ledger
  rw [hstep] at hstepped
  cases hstepped with
  | finished last => exact id
  | refused stage defect other_size kept => exact Layer.not_isTransfer_of_defect defect
  | broken stage sound isFault =>
    obtain ⟨fault, rfl⟩ := isFault
    exact id

/-! ## Many steps -/

/-- What steps that all give a result leave in the ledger. -/
structure Accounted (n : Network α) (next : Nat) (blocks : List Blocks) (before after : Ledger) : Prop where
  transfers : after.transfers.toList =
    before.transfers.toList ++ Layer.transferLogs n.images (n.layers.drop next) blocks
  totals : after.totals = before.totals +
    .ofLog (((n.layers.drop next).take blocks.length).countP (·.kind ≠ .pooling))
      (Layer.transferLogs n.images (n.layers.drop next) blocks)

omit [Scalar α] in
/-- The accounts of a layer come before those of the layers behind it. -/
theorem Accounted.cons {next : Nat} {s : Stage α} (hs : n.stages[next]? = some s) {b : Blocks}
    {blocks : List Blocks} {before after : Ledger}
    (h : Accounted n (next + 1) blocks (s.layer.account b n.images before) after) :
    Accounted n next (b :: blocks) before after := by
  have hdrop : n.layers.drop next = s.layer :: n.layers.drop (next + 1) := by
    have hlayer : n.layers[next]? = some s.layer := by simp [Network.layers, hs]
    obtain ⟨hlt, hget⟩ := List.getElem?_eq_some_iff.1 hlayer
    rw [List.drop_eq_getElem_cons hlt, hget]
  have hlogs : Layer.transferLogs n.images (n.layers.drop next) (b :: blocks) =
      s.layer.transferLog b n.images ++ Layer.transferLogs n.images (n.layers.drop (next + 1)) blocks := by
    simp [Layer.transferLogs, hdrop]
  constructor
  · rw [h.transfers, Layer.transfers_account, hlogs, List.append_assoc]
  · have hlaunches : ((n.layers.drop next).take (b :: blocks).length).countP (·.kind ≠ .pooling) =
        s.layer.launches + ((n.layers.drop (next + 1)).take blocks.length).countP (·.kind ≠ .pooling) := by
      simp [hdrop, Layer.launches, List.countP_cons, Nat.add_comm]
    rw [h.totals, Layer.totals_account, s.layer.growth_eq b, hlogs, hlaunches, Totals.ofLog_append,
      Totals.add_assoc]

/-- Steps end with the accounts of their layers if all of them give a result, and no other end of theirs is
a transfer that was refused. -/
theorem Over.stepEach_accounted (hn : n.Weighted) (h : p.Over n) (blocks : List Blocks) (ledger : Ledger) :
    EndsFrom (stepEach blocks) ⟨p, ledger⟩
      (fun _ run => Accounted n p.next blocks ledger run.ledger) fun failure _ => ¬ failure.IsTransfer := by
  -- The ledger that a step leaves is the one the next step starts from.
  induction blocks generalizing p ledger with
  | nil =>
    constructor
    · simp [Layer.transferLogs]
    · simp [Layer.transferLogs, Totals.add_ofLog_nil]
  | cons b blocks ih =>
    unfold EndsFrom
    rw [stepEach]
    cases hstep : step b ⟨p, ledger⟩ with
    | error failure between =>
      rw [bind_of_error hstep]
      exact h.not_isTransfer_of_step hn hstep
    | ok slot between =>
      rw [bind_of_ok hstep]
      obtain ⟨s, hs, hledger⟩ := h.account_of_step hn hstep
      have hrest := ih (h.over_of_step hn hstep) between.ledger
      rw [h.next_of_step hn hstep] at hrest
      refine hrest.mono (fun _ run hrun => ?_) fun _ _ hfailure => hfailure
      rw [hledger] at hrun
      exact hrun.cons hs

/-- After every history, steps that all give a result add to the ledger the transfers of their layers in
order, and to its totals one launch for each layer that is not pooling and the transfers with their bytes.
Steps that are stopped are not stopped by a transfer. The blocks may be the same for both kinds of layer. -/
theorem Reached.stepEach_accounts {name : String} {images : Nat} {layers : List Layer}
    {weights : List (Option (Tensor α))} (h : Network.ofLayers name images layers weights = .ok n)
    (hp : Reached n p) (blocks : List Blocks) (ledger : Ledger) :
    (∀ run, stepEach blocks ⟨p, ledger⟩ = .ok () run →
      p.next + blocks.length ≤ layers.length ∧
      run.ledger.transfers.toList =
        ledger.transfers.toList ++ Layer.transferLogs images (layers.drop p.next) blocks ∧
      run.ledger.totals = ledger.totals +
        .ofLog (((layers.drop p.next).take blocks.length).countP (·.kind ≠ .pooling))
          (Layer.transferLogs images (layers.drop p.next) blocks)) ∧
    ∀ failure run, stepEach blocks ⟨p, ledger⟩ = .error failure run → ¬ failure.IsTransfer := by
  have hn := Network.weighted_of_ofLayers h
  have htracked := hp.tracked hn
  obtain ⟨rfl, -, rfl, -⟩ := Network.ofLayers_eq_ok h
  have hends := htracked.sized.stepEach_accounted hn blocks ledger
  constructor
  · intro run hsteps
    have haccounted := hends.of_ok hsteps
    obtain ⟨htracked', hnext⟩ :=
      (Tracked.kept hn).stepEach hn (fun _ h => h.sized) htracked hsteps
    refine ⟨?_, haccounted.transfers, haccounted.totals⟩
    rw [← hnext, ← n.length_stages]
    exact htracked'.next_le
  · intro failure run hsteps
    exact hends.of_error hsteps

/-- The small network with its input loaded. -/
def loaded : Run Int :=
  (@Call.after Int integers (.load (counting "input" ⟨2, 3, 1, 5⟩ 1 1)) {}
    ⟨@start Int integers small, {}⟩).get (by decide +kernel)

theorem stepEach_accounts_oneBlock :
    Network.ofLayers "small" 1 smallLayers smallWeights = .ok small ∧
      @Reached Int integers small loaded.pass ∧
      ∃ run, @stepEach Int integers [⟨3, 3⟩, ⟨3, 3⟩, ⟨3, 3⟩] loaded = .ok () run ∧
        run.ledger.transfers.toList = [
          ⟨3, .weights, .into, 0, 128⟩, ⟨3, .activations, .into, 0, 128⟩, ⟨3, .result, .outOf, 0, 192⟩,
          ⟨3, .weights, .into, 0, 160⟩, ⟨3, .activations, .into, 0, 64⟩, ⟨3, .result, .outOf, 0, 32⟩] ∧
        run.ledger.totals = ⟨4, 2, 480, 224, 2⟩ := by
  have hput : Network.ofLayers "small" 1 smallLayers smallWeights = .ok small := rfl
  have hreached : @Reached Int integers small loaded.pass :=
    @Reached.get Int _ _ integers _ _ (@Reached.start Int integers small) _ _
  obtain ⟨_, run, hrun⟩ : ∃ u run,
      @stepEach Int integers [⟨3, 3⟩, ⟨3, 3⟩, ⟨3, 3⟩] loaded = .ok u run := by
    decide +kernel
  obtain ⟨hall, -⟩ := @Reached.stepEach_accounts Int integers _ _ _ _ _ _ hput hreached
    [⟨3, 3⟩, ⟨3, 3⟩, ⟨3, 3⟩] loaded.ledger
  obtain ⟨-, htransfers, htotals⟩ := hall run hrun
  refine ⟨hput, hreached, run, hrun, ?_, ?_⟩
  · rw [htransfers]
    decide +kernel
  · rw [htotals]
    decide +kernel

end Pass

end ForwardPass

import ForwardPass.Proofs.Layer.Transfers

/-!
# Buffers and accounts

What a layer does to its two buffers has nothing to do with the ledger, and what it makes of the ledger
nothing with the elements. `work` is the first half of a run and `accounted` the second; given room for
the footprint and enough weights, whatever else the fields of the layer hold, a run is both.
-/

namespace ForwardPass.Layer

open Workbench

variable {α : Type} [Scalar α] {l : Layer} {weights activations result : Array α} {images : Nat}
  {blocks : Blocks} {w : Workbench α} {ledger : Ledger}

/-! ## The two halves of a run -/

/-- What a layer makes of its input buffer and of the other one. -/
def work (l : Layer) (weights : Array α) (images : Nat) (activations result : Array α) :
    EStateM.Result Failure (Array α × Array α) Landing :=
  match l.kind with
  | .convolution =>
    if l.border > 0 then
      match Border.copy l.inputs images l.border activations result with
      | .error failure => .error failure (activations, result)
      | .ok frame =>
        match l.convolve images frame weights activations with
        | .ok () output => .ok .inPlace (output, frame)
        | .error failure output => .error failure (output, frame)
    else
      match l.convolve images activations weights result with
      | .ok () output => .ok .across (activations, output)
      | .error failure output => .error failure (activations, output)
  | .innerProduct =>
    match Dense.run ⟨l.inputs, l.weights, l.outputs⟩ images l.activation activations weights result with
    | .ok output => .ok .across (activations, output)
    | .error failure => .error failure (activations, result)
  | .pooling =>
    if l.pooling = .max then
      match MaxPool.run ⟨l.inputs, l.outputs, l.fieldSize, l.stride⟩ images activations result with
      | .ok output => .ok .across (activations, output)
      | .error failure => .error failure (activations, result)
    else .error (.error (.unsupportedPooling l.name l.pooling)) (activations, result)

/-- The work of a layer with its accounts. -/
def accounted (l : Layer) (blocks : Blocks) (images : Nat) (ledger : Ledger) :
    EStateM.Result Failure (Array α × Array α) Landing → EStateM.Result Failure (Workbench α) Landing
  | .ok landing (activations, result) =>
    .ok landing ⟨l.account blocks images ledger, activations, result⟩
  | .error failure (activations, result) =>
    .error failure ⟨l.refusedAccount blocks images ledger, activations, result⟩

/-! ## A run is both -/

omit [Scalar α] in
/-- A buffer of the footprint and the weights are the operands of a convolution. -/
theorem Ready.batchRoom (hl : l.kind = .convolution) (h : l.Ready images weights w)
    (hsource : images * l.footprint ≤ activations.size) : l.BatchRoom images activations weights where
  activations := Nat.le_trans (Nat.mul_le_mul_left _ l.frame_size_le) hsource
  weights := by
    have hweights := h.weights
    rwa [weightsSize, hl] at hweights

/-- The bordered copy of the input fits, because the footprint has room for the frame. -/
theorem Ready.copy_yields (h : l.Ready images weights w) (hborder : l.border > 0) :
    ∃ frame, Border.copy l.inputs images l.border w.activations w.result = .ok frame ∧
      frame.size = w.result.size := by
  have hframe := Nat.le_trans (Nat.mul_le_mul_left images l.frame_size_le) h.result
  rw [frame_of_border hborder] at hframe
  have hinput := l.inputs.holds_read
    (Nat.le_trans (Nat.mul_le_mul_left images l.inputs_size_le) h.activations)
  obtain ⟨frame, hcopy, hwritten⟩ := Border.copy_yields hinput.shows hframe
  exact ⟨frame, hcopy, hwritten.size⟩

omit [Scalar α] in
theorem refusedAccount_eq (hl : l.kind ≠ .pooling) (blocks : Blocks) (images : Nat) (ledger : Ledger) :
    l.refusedAccount blocks images ledger = l.launched blocks images ledger :=
  if_pos (by simpa [hasWeights] using hl)

/-- A convolution works on its frame, which is its input or a bordered copy of it. -/
theorem convolutionLayer_eq (hl : l.kind = .convolution) (hready : l.Ready images weights w) :
    l.convolutionLayer blocks weights images w =
      l.accounted blocks images w.ledger (l.work weights images w.activations w.result) := by
  have hkind : l.kind ≠ .pooling := by simp [hl]
  have hrefused := refusedAccount_eq hkind blocks images w.ledger
  have hsize := Nat.mul_le_mul_left images l.outputs_size_le
  unfold convolutionLayer work
  rw [bind_modify, hl]
  dsimp only
  split
  · next hborder =>
    obtain ⟨frame, hcopy, hframe⟩ := hready.copy_yields hborder
    have hrun := runConvolution_eq (w := ⟨(l.mapArrays blocks.convolution images w.ledger).launch,
      w.activations, frame⟩) hl blocks .inPlace hready.weights
      (hready.batchRoom hl (hframe ▸ hready.result)) (Nat.le_trans hsize hready.activations) rfl
    rw [bind_get, bind_of_ok (write_eq_ok hcopy), bind_modify, hcopy]
    dsimp only
    cases hconvolve : l.convolve images frame weights w.activations with
    | ok _ output =>
      simp only [source, target, hconvolve] at hrun
      exact bind_of_ok hrun _
    | error failure output =>
      simp only [source, target, hconvolve] at hrun
      rw [accounted, hrefused]
      exact bind_of_error hrun _
  · next hborder =>
    have hrun := runConvolution_eq
      (w := w.setLedger (l.mapArrays blocks.convolution images w.ledger).launch) hl blocks .across
      hready.weights (hready.batchRoom hl hready.activations) (Nat.le_trans hsize hready.result) rfl
    rw [bind_modify]
    cases hconvolve : l.convolve images w.activations weights w.result with
    | ok _ output =>
      simp only [source, target, setLedger_activations, setLedger_result, hconvolve] at hrun
      exact bind_of_ok hrun _
    | error failure output =>
      simp only [source, target, setLedger_activations, setLedger_result, hconvolve] at hrun
      rw [accounted, hrefused]
      exact bind_of_error hrun _

theorem innerProductLayer_eq (hl : l.kind = .innerProduct) (hready : l.Ready images weights w) :
    l.innerProductLayer blocks weights images w =
      l.accounted blocks images w.ledger (l.work weights images w.activations w.result) := by
  have hkind : l.kind ≠ .pooling := by simp [hl]
  have hrefused := refusedAccount_eq hkind blocks images w.ledger
  have hblock : l.block blocks = blocks.innerProduct := by rw [block, hl]
  have hoperand : l.operandSize = l.inputs.size := by rw [operandSize, hl]
  have hinput := Nat.le_trans (Nat.mul_le_mul_left images l.inputs_size_le) hready.activations
  have houtput := Nat.le_trans (Nat.mul_le_mul_left images l.outputs_size_le) hready.result
  have hends := Dense.run_ends ⟨l.inputs, l.weights, l.outputs⟩ images l.activation w.activations weights
    w.result
  unfold innerProductLayer work
  rw [bind_modify, hl, bind_of_ok (transferArray_eq_ok l images w.ledger
    hready.weights rfl (Nat.le_refl _)), bind_get,
    bind_of_ok (transferArray_eq_ok l images w.ledger
      (by exact hinput) rfl (Nat.mul_le_mul_left _ l.inputs_size_le)), bind_get]
  simp only [setLedger_activations, setLedger_result]
  cases hrun : Dense.run ⟨l.inputs, l.weights, l.outputs⟩ images l.activation w.activations weights
      w.result with
  | ok output =>
    have hsize := hends.of_ok hrun
    rw [bind_of_ok (write_eq_ok rfl), bind_get,
      bind_of_ok (transferArray_eq_ok l images w.ledger
        (by exact hsize ▸ houtput) rfl (Nat.mul_le_mul_left _ l.outputs_size_le)),
      accounted, account, if_pos (by simp [hasWeights, hl]), launched, hblock, hoperand]
    rfl
  | error failure =>
    rw [accounted, hrefused, launched, hblock, hoperand]
    exact bind_of_error rfl _

/-- A pooling layer that does not ask for its maximum is refused before anything is touched. -/
theorem runPooling_refused (hmax : l.pooling ≠ .max) :
    l.runPooling images w = .error (.error (.unsupportedPooling l.name l.pooling)) w := by
  unfold runPooling
  cases h : l.pooling with
  | max => exact absurd h hmax
  | none => rfl
  | avg => rfl

theorem runPooling_eq (hl : l.kind = .pooling) :
    l.runPooling images w =
      l.accounted blocks images w.ledger (l.work weights images w.activations w.result) := by
  have haccount : l.account blocks images w.ledger = w.ledger := if_neg (by simp [hasWeights, hl])
  have hrefused : l.refusedAccount blocks images w.ledger = w.ledger := if_neg (by simp [hasWeights, hl])
  unfold runPooling work
  rw [hl]
  dsimp only
  by_cases hmax : l.pooling = .max
  · rw [hmax, if_pos rfl]
    dsimp only
    rw [bind_get]
    cases hrun : MaxPool.run ⟨l.inputs, l.outputs, l.fieldSize, l.stride⟩ images w.activations w.result with
    | ok output =>
      rw [accounted, haccount]
      rfl
    | error failure =>
      rw [accounted, hrefused]
      rfl
  · rw [if_neg hmax, accounted, hrefused]
    exact runPooling_refused hmax

/-- A run of a layer is its work on the two buffers, and its accounts. -/
theorem run_eq (blocks : Blocks) (hready : l.Ready images weights w) :
    l.run blocks weights images w =
      l.accounted blocks images w.ledger (l.work weights images w.activations w.result) := by
  unfold run
  rw [bind_get, hready.checkBuffers_eq_ok]
  dsimp only
  cases hl : l.kind with
  | convolution => exact convolutionLayer_eq hl hready
  | innerProduct => exact innerProductLayer_eq hl hready
  | pooling => exact runPooling_eq hl

/-- What a layer makes of its buffers, checks included. -/
def attempt (l : Layer) (weights : Array α) (images : Nat) (activations result : Array α) :
    EStateM.Result Failure (Array α × Array α) Landing :=
  match l.checkBuffers images activations.size result.size weights.size with
  | .error e => .error (.error e) (activations, result)
  | .ok () => l.work weights images activations result

/-- What a run makes of the buffers has nothing to do with the ledger or the blocks, and one that goes
through leaves the accounts of the layer. -/
theorem run_ends (l : Layer) (blocks : Blocks) (weights : Array α) (images : Nat) (w : Workbench α) :
    EndsFrom (l.run blocks weights images) w
      (fun landing w' => w'.ledger = l.account blocks images w.ledger ∧
        l.attempt weights images w.activations w.result = .ok landing (w'.activations, w'.result))
      fun failure w' =>
        l.attempt weights images w.activations w.result = .error failure (w'.activations, w'.result) := by
  unfold EndsFrom attempt
  cases hchecks : l.checkBuffers images w.activations.size w.result.size weights.size with
  | error e =>
    have hrun : l.run blocks weights images w = .error (.error e) w := by
      unfold run
      rw [bind_get, hchecks]
      rfl
    rw [hrun]
  | ok _ =>
    rw [run_eq blocks (ready_of_checkBuffers hchecks)]
    dsimp only
    cases l.work weights images w.activations w.result with
    | ok landing after => exact ⟨rfl, rfl⟩
    | error failure after => rfl

/-! ## Where the work ends -/

/-- Where a layer leaves its output: a convolution with a border works in place. -/
def landing (l : Layer) : Landing :=
  if l.kind = .convolution ∧ l.border > 0 then .inPlace else .across

/-- What a layer is refused for, on buffers and weights of sufficient size. -/
def defect? (l : Layer) (images : Nat) : Option EngineError :=
  match l.kind with
  | .convolution => l.batchDefect? images
  | .innerProduct => none
  | .pooling => if l.pooling = .max then none else some (.unsupportedPooling l.name l.pooling)

/-- A layer with a defect is refused for it. The buffer it reads is left alone, and so is the other one
unless a border was laid out there. -/
theorem work_of_defect (hready : l.Ready images weights w) {e : EngineError}
    (he : l.defect? images = some e) :
    ∃ result, l.work weights images w.activations w.result = .error (.error e) (w.activations, result) ∧
      result.size = w.result.size ∧ (l.landing = .across → result = w.result) := by
  unfold defect? at he
  unfold work landing
  cases hl : l.kind with
  | convolution =>
    rw [hl] at he
    have hsize := Nat.mul_le_mul_left images l.outputs_size_le
    dsimp only
    split
    · next hborder =>
      obtain ⟨frame, hcopy, hframe⟩ := hready.copy_yields hborder
      rw [hcopy]
      dsimp only
      rw [convolve_eq_error (hready.batchRoom hl (hframe ▸ hready.result)) he
        (Nat.le_trans hsize hready.activations)]
      exact ⟨frame, rfl, hframe, fun hacross => by simp [hborder] at hacross⟩
    · rw [convolve_eq_error (hready.batchRoom hl hready.activations) he
        (Nat.le_trans hsize hready.result)]
      exact ⟨w.result, rfl, rfl, fun _ => rfl⟩
  | innerProduct =>
    rw [hl] at he
    cases he
  | pooling =>
    rw [hl] at he
    dsimp only at he ⊢
    split at he
    · cases he
    · next hmax =>
      cases he
      rw [if_neg hmax]
      exact ⟨w.result, rfl, rfl, fun _ => rfl⟩

/-- How the work of a layer without a defect may end: with its output where it lands, in buffers of the
old sizes, or by a broken contract. -/
inductive Worked (l : Layer) (w : Workbench α) :
    EStateM.Result Failure (Array α × Array α) Landing → Prop where
  | done {activations result : Array α} (activations_size : activations.size = w.activations.size)
      (result_size : result.size = w.result.size) : Worked l w (.ok l.landing (activations, result))
  | broken {failure : Failure} {after : Array α × Array α} (isFault : failure.IsFault) :
      Worked l w (.error failure after)

omit [Scalar α] in
/-- A kernel that reads its input and writes the other buffer. -/
theorem worked_across (hlanding : l.landing = .across) (kernel : Except Failure (Array α)) :
    Ends kernel (·.size = w.result.size) Failure.IsFault →
      l.Worked w (match kernel with
        | .ok output => .ok .across (w.activations, output)
        | .error failure => .error failure (w.activations, w.result)) := by
  intro hends
  rw [← hlanding]
  cases kernel with
  | ok output => exact .done rfl hends
  | error failure => exact .broken hends

theorem work_of_no_defect (hready : l.Ready images weights w) (hnone : l.defect? images = none) :
    l.Worked w (l.work weights images w.activations w.result) := by
  unfold defect? at hnone
  unfold work
  cases hl : l.kind with
  | convolution =>
    rw [hl] at hnone
    have hsize := Nat.mul_le_mul_left images l.outputs_size_le
    dsimp only
    by_cases hborder : l.border > 0
    · obtain ⟨frame, hcopy, hframe⟩ := hready.copy_yields hborder
      have hlanding : l.landing = .inPlace := if_pos ⟨hl, hborder⟩
      have hends := convolve_ends (hready.batchRoom hl (hframe ▸ hready.result)) hnone
        (Nat.le_trans hsize hready.activations)
      rw [if_pos hborder, hcopy, ← hlanding]
      dsimp only
      cases hconvolve : l.convolve images frame weights w.activations with
      | ok _ output => exact .done (hends.of_ok hconvolve) hframe
      | error failure output => exact .broken (hends.of_error hconvolve)
    · have hlanding : l.landing = .across := if_neg fun h => hborder h.2
      have hends := convolve_ends (hready.batchRoom hl hready.activations) hnone
        (Nat.le_trans hsize hready.result)
      rw [if_neg hborder, ← hlanding]
      cases hconvolve : l.convolve images w.activations weights w.result with
      | ok _ output => exact .done rfl (hends.of_ok hconvolve)
      | error failure output => exact .broken (hends.of_error hconvolve)
  | innerProduct =>
    have hlanding : l.landing = .across := if_neg (by simp [hl])
    exact worked_across hlanding _ (Dense.run_ends ..)
  | pooling =>
    have hlanding : l.landing = .across := if_neg (by simp [hl])
    have hmax : l.pooling = .max := by
      by_contra hmax
      rw [hl] at hnone
      simp [hmax] at hnone
    dsimp only
    rw [if_pos hmax]
    exact worked_across hlanding _ (MaxPool.run_ends ..)

end ForwardPass.Layer

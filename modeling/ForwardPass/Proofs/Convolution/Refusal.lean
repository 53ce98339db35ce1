import ForwardPass.Proofs.Convolution.Planes

/-!
# What can stop a convolution

Whatever the fields of a layer hold, the causes a plane convolution is refused for are read off the layer
alone, as long as the buffers reach to the last image, kernel and channel: all planes pass the checks or
none does. So a batch is refused by its first plane, before anything is written, and whatever else stops
it is a broken contract.
-/

namespace ForwardPass.Layer

variable {α : Type} [Scalar α] {l : Layer} {images : Nat} {activations weights : Array α}

/-! ## The checks -/

/-- The buffers reach to the end of the image, kernel and channel at hand. -/
structure PlaneRoom (l : Layer) (at_ : PlaneIndex) (activations kernels result : Nat) : Prop where
  activations : (at_.image + 1) * l.frame.size ≤ activations
  kernels : (at_.kernel + 1) * l.weights.size ≤ kernels
  result : (at_.channel + 1) * l.outputs.planeSize ≤ result

/-- What a plane has passed when its checks find nothing: a schedule for its kernel, square kernels of rows
that are whole vectors and inside the frame, as many windows as outputs, and room in the buffers. -/
structure PlaneChecked (l : Layer) (at_ : PlaneIndex) (activations kernels result : Nat) (s : Schedule) :
    Prop where
  schedule : Schedule.ofKernel l.weights.cols l.stride = .ok s
  aligned : l.frame.rowLanes % vectorLanes = 0
  square : l.weights.rows = l.weights.cols
  rows : l.weights.cols ≤ l.frame.rows
  cols : l.weights.cols ≤ l.frame.cols
  outputs_rows : l.outputs.rows = (l.frame.rows - l.weights.cols) / l.stride + 1
  outputs_cols : l.outputs.cols = (l.frame.cols - l.weights.cols) / l.stride + 1
  room : l.PlaneRoom at_ activations kernels result

theorem le_of_requireSize {role : Role} {have_ need : Nat} (h : l.requireSize role have_ need = .ok ()) :
    need ≤ have_ := by
  unfold requireSize at h
  split at h
  · cases h
  · omega

theorem planeChecked_of_eq_ok {at_ : PlaneIndex} {a k r : Nat} {s : Schedule}
    (h : l.planeSchedule at_ a k r = .ok s) : l.PlaneChecked at_ a k r s := by
  obtain ⟨s', hs, h⟩ := bind_eq_ok h
  have haligned : l.frame.rowLanes % vectorLanes = 0 := by
    by_contra hne
    rw [if_pos hne] at h
    cases h
  rw [if_neg (not_not.2 haligned)] at h
  have hkernel : ¬ (l.weights.rows ≠ l.weights.cols ∨ l.frame.rows < l.weights.cols ∨
      l.frame.cols < l.weights.cols) := by
    intro hover
    rw [if_pos hover] at h
    cases h
  rw [if_neg hkernel] at h
  have houtputs : ¬ (l.outputs.rows ≠ (l.frame.rows - l.weights.cols) / l.stride + 1 ∨
      l.outputs.cols ≠ (l.frame.cols - l.weights.cols) / l.stride + 1) := by
    intro hextent
    rw [if_pos hextent] at h
    cases h
  rw [if_neg houtputs] at h
  obtain ⟨_, ha, h⟩ := bind_eq_ok h
  obtain ⟨_, hk, h⟩ := bind_eq_ok h
  obtain ⟨_, hr, h⟩ := bind_eq_ok h
  cases h
  simp only [not_or, not_lt, ne_eq, not_not] at hkernel houtputs
  exact ⟨hs, haligned, hkernel.1, hkernel.2.1, hkernel.2.2, houtputs.1, houtputs.2,
    le_of_requireSize ha, le_of_requireSize hk, le_of_requireSize hr⟩

/-- What the checks of a plane find, given room: it depends neither on the plane nor on the buffers. -/
def planeDefect? (l : Layer) : Option EngineError :=
  match l.planeSchedule ⟨0, 0, 0⟩ l.frame.size l.weights.size l.outputs.planeSize with
  | .ok _ => none
  | .error e => some e

/-- With room, all planes are checked alike. -/
theorem planeSchedule_congr {at₁ at₂ : PlaneIndex} {a₁ k₁ r₁ a₂ k₂ r₂ : Nat}
    (h₁ : l.PlaneRoom at₁ a₁ k₁ r₁) (h₂ : l.PlaneRoom at₂ a₂ k₂ r₂) :
    l.planeSchedule at₁ a₁ k₁ r₁ = l.planeSchedule at₂ a₂ k₂ r₂ := by
  unfold planeSchedule
  simp only [requireSize_eq_ok h₁.activations, requireSize_eq_ok h₁.kernels, requireSize_eq_ok h₁.result,
    requireSize_eq_ok h₂.activations, requireSize_eq_ok h₂.kernels, requireSize_eq_ok h₂.result]

theorem planeRoom_first (l : Layer) :
    l.PlaneRoom ⟨0, 0, 0⟩ l.frame.size l.weights.size l.outputs.planeSize where
  activations := Nat.le_of_eq (Nat.one_mul _)
  kernels := Nat.le_of_eq (Nat.one_mul _)
  result := Nat.le_of_eq (Nat.one_mul _)

theorem planeSchedule_eq_error {at_ : PlaneIndex} {a k r : Nat} (hroom : l.PlaneRoom at_ a k r)
    {e : EngineError} (he : l.planeDefect? = some e) : l.planeSchedule at_ a k r = .error e := by
  rw [planeSchedule_congr hroom l.planeRoom_first]
  unfold planeDefect? at he
  split at he
  · cases he
  · next hfirst =>
    cases he
    exact hfirst

theorem exists_planeSchedule {at_ : PlaneIndex} {a k r : Nat} (hroom : l.PlaneRoom at_ a k r)
    (hnone : l.planeDefect? = none) : ∃ s, l.planeSchedule at_ a k r = .ok s := by
  rw [planeSchedule_congr hroom l.planeRoom_first]
  unfold planeDefect? at hnone
  split at hnone
  · next s hfirst => exact ⟨s, hfirst⟩
  · cases hnone

/-! ## Planes without a defect -/

theorem accumulate_ends (taps : LaneVector α) (amount : Nat) (budgets : Budgets) (pipes : Pipes α) :
    Ends (pipes.accumulate taps amount budgets) (fun _ => True) Failure.IsFault := by
  unfold Pipes.accumulate
  split
  · trivial
  · exact Failure.isFault_fault _

theorem groupPixels_ends (l : Layer) (s : Schedule) (at_ : PlaneIndex) (activations kernels : Array α)
    (outRow : Nat) (group : PixelGroup) :
    Ends (l.groupPixels s at_ activations kernels outRow group) (fun _ => True) Failure.IsFault := by
  unfold groupPixels
  refine Ends.bind (P := fun _ => True) (Ends.foldlM (fun kernelRow _ sums _ => ?_) trivial)
    fun sums _ => trivial
  refine (Buffer.fetch_ends ..).bind fun front _ => ?_
  extract_lets rest
  have hrest (back : LaneVector α) : Ends (rest back) (fun _ => True) Failure.IsFault := by
    refine (Buffer.slice_ends ..).bind fun taps _ => ?_
    exact (accumulate_ends ..).bind fun pipes _ => trivial
  -- Behind the last vector of a row nothing is fetched.
  split
  · exact hrest LaneVector.zero
  · exact (Buffer.fetch_ends ..).bind fun back _ => hrest back

/-- A plane that passes the checks is stopped by a broken contract only. -/
theorem convolvePlane_ends {at_ : PlaneIndex} {kernels result : Array α}
    {s : Schedule} (hs : l.planeSchedule at_ activations.size kernels.size result.size = .ok s) :
    Ends (l.convolvePlane at_ activations kernels result) (·.size = result.size) Failure.IsFault := by
  unfold convolvePlane
  rw [hs]
  change Ends (if l.vectorsPerRow = 0 then _ else _) _ _
  split
  · exact Failure.isFault_fault _
  -- Rows and groups are written into one buffer, which keeps its size.
  refine Ends.foldlM (fun outRow _ row hrow => ?_) rfl
  refine Ends.foldlM (fun group _ between hbetween => ?_) hrow
  refine (groupPixels_ends ..).bind fun pixels _ => ?_
  dsimp only
  split
  · exact Failure.isFault_fault _
  · exact (Buffer.put_keeps ..).mono fun after hafter => hafter.size.trans hbetween

/-! ## Batches -/

/-- What a batch is refused for: the defect of its planes, if it has any planes. -/
def batchDefect? (l : Layer) (images : Nat) : Option EngineError :=
  if images = 0 ∨ l.kernelCount = 0 ∨ l.frame.height = 0 then none else l.planeDefect?

/-- The operands of a batch reach to the last image and the last kernel. -/
structure BatchRoom (l : Layer) (images : Nat) (activations weights : Array α) : Prop where
  activations : images * l.frame.size ≤ activations.size
  weights : l.kernelCount * l.weights.size ≤ weights.size

omit [Scalar α] in
theorem BatchRoom.plane (h : l.BatchRoom images activations weights) {image kernel channel : Nat}
    (hi : image < images) (hk : kernel < l.kernelCount) (hc : channel < l.frame.height) :
    l.PlaneRoom ⟨image, kernel, channel⟩ activations.size weights.size
      (l.frame.height * l.outputs.planeSize) where
  activations := Nat.le_trans (Nat.mul_le_mul_right _ hi) h.activations
  kernels := Nat.le_trans (Nat.mul_le_mul_right _ hk) h.weights
  result := Nat.mul_le_mul_right _ hc

/-- The planes of one kernel, if there are any, have no defect when the batch has none. -/
theorem planes_ends (hroom : l.BatchRoom images activations weights) (hnone : l.batchDefect? images = none)
    {image kernel : Nat} (hi : image < images) (hk : kernel < l.kernelCount) {scratch : Array α}
    (hscratch : scratch.size = l.frame.height * l.outputs.planeSize) :
    Ends ((List.range l.frame.height).foldlM (fun planes channel =>
      l.convolvePlane ⟨image, kernel, channel⟩ activations weights planes) scratch)
      (·.size = l.frame.height * l.outputs.planeSize) Failure.IsFault := by
  refine Ends.foldlM (fun channel hchannel planes hplanes => ?_) hscratch
  rw [List.mem_range] at hchannel
  have hplane : l.planeDefect? = none := by
    rwa [batchDefect?, if_neg (by omega)] at hnone
  obtain ⟨s, hs⟩ := exists_planeSchedule (hroom.plane hi hk hchannel) hplane
  exact (convolvePlane_ends (hplanes ▸ hs)).mono fun after hafter => hafter.trans hplanes

/-- A kernel writes its region; or it fails like its planes, or with a broken contract, and writes nothing. -/
theorem convolveKernel_ends_of_planes {P : Array α → Prop} {E : Failure → Prop} {image kernel : Nat}
    {scratch : Array α} (hplanes : Ends ((List.range l.frame.height).foldlM (fun planes channel =>
      l.convolvePlane ⟨image, kernel, channel⟩ activations weights planes) scratch) P E)
    (hfault : ∀ failure : Failure, failure.IsFault → E failure) (result : Array α) :
    EndsFrom (l.convolveKernel image kernel activations weights scratch) result
      (fun planes result' => P planes ∧ Buffer.KeptOutside result (l.KernelRegion image kernel) result')
      (fun failure result' => E failure ∧ result' = result) := by
  unfold convolveKernel
  dsimp only
  split
  · next failure heq => exact ⟨hplanes.of_error heq, rfl⟩
  · next planes heq =>
    split
    · exact ⟨hfault _ (Failure.isFault_fault _), rfl⟩
    · have hput := Buffer.put_keeps result (image * l.outputs.size + kernel * l.outputs.planeSize)
        (sumPlanes l.frame.height l.outputs.planeSize planes)
      rw [length_sumPlanes, kernel_start] at hput
      refine EndsFrom.bind_get ?_
      rw [kernel_start]
      cases h : Buffer.put result ((image * l.kernelCount + kernel) * l.outputs.planeSize)
        (sumPlanes l.frame.height l.outputs.planeSize planes) with
      | error failure => exact ⟨hfault _ (hput.of_error h), rfl⟩
      | ok result' => exact ⟨hplanes.of_ok heq, hput.of_ok h⟩

/-- The kernels of a batch without a defect are stopped by a broken contract only. -/
theorem convolveKernels_ends_of_room (hroom : l.BatchRoom images activations weights)
    (hnone : l.batchDefect? images = none) {scratch result : Array α}
    (hscratch : scratch.size = l.frame.height * l.outputs.planeSize) :
    EndsFrom (l.convolveKernels images activations weights scratch) result
      (fun planes result' => planes.size = l.frame.height * l.outputs.planeSize ∧
        result'.size = result.size)
      (fun failure _ => failure.IsFault) := by
  refine EndsFrom.foldlM (fun pair hpair planes between hsizes => ?_) ⟨hscratch, rfl⟩
  obtain ⟨hi, hk⟩ := mem_pairs.1 hpair
  exact (convolveKernel_ends_of_planes (planes_ends hroom hnone hi hk hsizes.1) (fun _ h => h) between).mono
    (fun planes' _ h => ⟨h.1, h.2.size.trans hsizes.2⟩) fun _ _ h => h.1

theorem applyTo_ends (f : Activation) (s : Shape) (images : Nat) (buffer : Array α) :
    Ends (f.applyTo s images buffer) (·.size = buffer.size) Failure.IsFault := by
  unfold Activation.applyTo
  split
  · rfl
  · split
    · exact Failure.isFault_fault _
    · split
      · exact Failure.isFault_fault _
      · exact Array.size_mapIdx

/-- Once the kernels are done, only a broken contract stops a convolution. -/
theorem activate_ends (l : Layer) (images : Nat) (result : Array α) :
    EndsFrom (l.activate images) result (fun _ result' => result'.size = result.size)
      (fun failure _ => failure.IsFault) := by
  have hends := applyTo_ends l.activation l.outputs images result
  refine EndsFrom.bind_get ?_
  cases happly : l.activation.applyTo l.outputs images result with
  | error failure => exact hends.of_error happly
  | ok buffer => exact hends.of_ok happly

/-- A batch without a defect is convolved, or stopped by a broken contract. -/
theorem convolve_ends (hroom : l.BatchRoom images activations weights)
    (hnone : l.batchDefect? images = none) {result : Array α}
    (hsize : images * l.outputs.size ≤ result.size) :
    EndsFrom (l.convolve images activations weights) result
      (fun _ result' => result'.size = result.size) (fun failure _ => failure.IsFault) := by
  unfold EndsFrom
  rw [convolve_eq_bind hsize]
  exact (convolveKernels_ends_of_room hroom hnone Array.size_replicate).bind fun planes result' hresult' =>
    (activate_ends l images result').mono (fun _ _ h => h.trans hresult'.2) fun _ _ h => h

/-- A batch with a defect is refused for it, and nothing is written. -/
theorem convolve_eq_error (hroom : l.BatchRoom images activations weights) {e : EngineError}
    (he : l.batchDefect? images = some e) {result : Array α} (hsize : images * l.outputs.size ≤ result.size) :
    l.convolve images activations weights result = .error (.error e) result := by
  unfold batchDefect? at he
  split at he
  · cases he
  · next hplanes =>
    rw [not_or, not_or] at hplanes
    obtain ⟨hi, hk, hc⟩ := hplanes
    have hfirst := hroom.plane (Nat.pos_of_ne_zero hi) (Nat.pos_of_ne_zero hk) (Nat.pos_of_ne_zero hc)
    exact convolve_of_refused hi hk hc (planeSchedule_eq_error hfirst he) hsize

theorem size_of_convolve_eq_ok (hroom : l.BatchRoom images activations weights) {result output : Array α}
    (hsize : images * l.outputs.size ≤ result.size)
    (h : l.convolve images activations weights result = .ok () output) : output.size = result.size := by
  cases hdefect : l.batchDefect? images with
  | none => exact (convolve_ends hroom hdefect hsize).of_ok h
  | some e =>
    rw [convolve_eq_error hroom hdefect hsize] at h
    cases h

end ForwardPass.Layer

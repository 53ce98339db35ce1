import ForwardPass.Proofs.Convolution.Interrupted
import ForwardPass.Proofs.Exact

/-!
# What the checks of a convolution are worth

A layer made by hand may hold anything, and a convolution goes by the kernels it is given, not by the field the
layer states. Its checks leave three things open: that there are weights for every channel, that a kernel has
columns, and that a plane has elements. With these, a convolution gives a result or an error whatever its
operands are, and takes the weights of each kernel from the block of that kernel.
-/

namespace ForwardPass

/-- A kernel that has a schedule fits into a vector and moves by one of the supported strides. -/
theorem Schedule.ofKernel_eq_ok {width stride : Nat} {s : Schedule} (h : ofKernel width stride = .ok s) :
    width ≤ vectorLanes ∧ (stride = 1 ∨ stride = 2 ∨ stride = 4) := by
  unfold ofKernel at h
  split at h
  · cases h
  · next hfits =>
    refine ⟨Nat.le_of_not_lt hfits, ?_⟩
    cases hsums : maxSumsPerFetch stride (Throughput.ofKernel width) with
    | ok sums => exact Layer.maxSumsPerFetch_eq_ok hsums
    | error e =>
      dsimp only at h
      rw [hsums] at h
      cases h

namespace Layer

variable {α : Type} [Scalar α] {l : Layer} {images image kernel : Nat} {x : Batch α}
  {activations weights result output : Array α}

/-! ## Checked planes -/

omit [Scalar α] in
/-- The kernel of a plane that was checked slides over the frame. -/
theorem PlaneChecked.slides {at_ : PlaneIndex} {a k r : Nat} {s : Schedule}
    (h : l.PlaneChecked at_ a k r s) (hfield : l.fieldSize = l.weights.cols)
    (hheight : l.frame.height ≤ l.weights.height) (hwidth : l.weights.cols ≠ 0) : l.Slides where
  stride := (Schedule.ofKernel_eq_ok h.schedule).2
  field_pos := hfield ▸ Nat.pos_of_ne_zero hwidth
  field_le_rows := hfield ▸ h.rows
  field_le_cols := hfield ▸ h.cols
  outputs_rows := hfield ▸ h.outputs_rows
  outputs_cols := hfield ▸ h.outputs_cols
  weights_rows := h.square.trans hfield.symm
  weights_cols := hfield.symm
  height_le := hheight

/-- The first channel is checked for all channels of a kernel. -/
theorem PlaneChecked.kernelReady {s : Schedule} (h : l.PlaneChecked ⟨image, kernel, 0⟩ activations.size
      weights.size (l.frame.height * l.outputs.planeSize) s)
    (hfield : l.fieldSize = l.weights.cols) (hheight : l.frame.height ≤ l.weights.height)
    (hwidth : l.weights.cols ≠ 0) :
    l.KernelReady (l.frame.read activations) activations weights image kernel := by
  intro channel hchannel
  exact {
    layer := h.slides hfield hheight hwidth
    field := hfield ▸ (Schedule.ofKernel_eq_ok h.schedule).1
    aligned := h.aligned
    holds := l.frame.holds_read h.room.activations
    channel := hchannel
    kernels := h.room.kernels
    result := Nat.mul_le_mul_right _ hchannel }

/-! ## Endings -/

/-- A kernel writes its sums, or it is refused. -/
theorem convolveKernel_validated (hfield : l.fieldSize = l.weights.cols)
    (hheight : l.frame.height ≤ l.weights.height) (hwidth : l.weights.cols ≠ 0)
    (hplane : l.outputs.planeSize ≠ 0) (hi : image < images) (hk : kernel < l.kernelCount)
    {scratch between : Array α} (hscratch : l.Scratch scratch)
    (hsize : images * l.outputs.size ≤ between.size) :
    EndsFrom (l.convolveKernel image kernel activations weights scratch) between (fun planes result' =>
      l.Scratch planes ∧ Buffer.Written between (l.KernelRegion image kernel)
        (l.outputs.flat (l.channelSums weights (l.frame.read activations))) result')
      (fun failure _ => ∃ e, failure = .error e) := by
  by_cases hchannels : l.frame.height = 0
  · -- Without channels there are no planes that could be refused.
    have hready : l.KernelReady (l.frame.read activations) activations weights image kernel :=
      fun channel hchannel => by omega
    exact (convolveKernel_completes hready hplane hi hk hscratch hsize).endsFrom
  · cases hs : l.planeSchedule ⟨image, kernel, 0⟩ activations.size weights.size scratch.size with
    | ok s =>
      rw [hscratch.size] at hs
      have hready := (planeChecked_of_eq_ok hs).kernelReady hfield hheight hwidth
      exact (convolveKernel_completes hready hplane hi hk hscratch hsize).endsFrom
    | error e =>
      unfold EndsFrom
      rw [convolveKernel_of_refused hchannels hs]
      exact ⟨e, rfl⟩

/-- A batch is convolved, or it is refused. -/
theorem convolve_written_or_refused (hfield : l.fieldSize = l.weights.cols)
    (hheight : l.frame.height ≤ l.weights.height) (hwidth : l.weights.cols ≠ 0)
    (hplane : l.outputs.planeSize ≠ 0) :
    EndsFrom (l.convolve images activations weights) result (fun _ result' =>
      Buffer.Written result (· < images * l.outputs.size)
        (l.outputs.flat (l.convolved weights (l.frame.read activations))) result')
      (fun failure _ => ∃ e, failure = .error e) := by
  by_cases hsize : images * l.outputs.size ≤ result.size
  · unfold EndsFrom
    rw [convolve_eq_bind hsize]
    exact (convolveKernels_ends (fun image hi kernel hk {_ _} hscratch hsize =>
      convolveKernel_validated hfield hheight hwidth hplane hi hk hscratch hsize) scratch_zeros hsize).bind
        fun _ _ hsums => (activate_completes hplane hsums hsize).endsFrom
  · unfold EndsFrom
    rw [convolve_of_short (Nat.lt_of_not_le hsize)]
    exact ⟨_, rfl⟩

/-- A kernel whose planes are all there passed its checks. -/
theorem convolveKernels_pass (hpos : 0 < l.frame.height) {scratch : Array α}
    (hscratch : scratch.size = l.frame.height * l.outputs.planeSize) (result : Array α) :
    EndsFrom (l.convolveKernels images activations weights scratch) result
      (fun _ _ => ∀ pair ∈ l.pairs images, l.passes activations.size weights.size pair = true)
      (fun _ _ => True) := by
  refine (EndsFrom.foldlM_done (I := fun (done : List (Nat × Nat)) (planes : Array α) _ =>
    planes.size = l.frame.height * l.outputs.planeSize ∧
      ∀ pair ∈ done, l.passes activations.size weights.size pair = true)
    (fun pair _ done planes between hdone => ?_) ⟨hscratch, fun _ hmem => absurd hmem List.not_mem_nil⟩).mono
      (fun _ _ h => h.2) fun _ _ h => h
  refine (convolveKernel_keeps hdone.1 between).mono (fun planes' _ h => ⟨h.1, ?_⟩) fun _ _ _ => trivial
  intro pair' hmem
  rcases List.mem_append.1 hmem with hmem | hmem
  · exact hdone.2 pair' hmem
  · rw [List.mem_singleton.1 hmem]
    exact h.2.2 hpos

/-- A convolution that gives a result has checked all planes. -/
theorem checked_of_convolve (h : l.convolve images activations weights result = .ok () output)
    (hi : image < images) (hk : kernel < l.kernelCount) (hpos : 0 < l.frame.height) :
    ∃ s, l.PlaneChecked ⟨image, kernel, 0⟩ activations.size weights.size
      (l.frame.height * l.outputs.planeSize) s := by
  have hsize : images * l.outputs.size ≤ result.size := by
    by_contra hshort
    rw [convolve_of_short (Nat.lt_of_not_le hshort)] at h
    cases h
  rw [convolve_eq_bind hsize] at h
  obtain ⟨planes, between, hkernels, -⟩ := bind_eq_ok_from h
  have hpass := (convolveKernels_pass hpos Array.size_replicate result).of_ok hkernels (image, kernel)
    (mem_pairs.2 ⟨hi, hk⟩)
  unfold passes at hpass
  cases hs : l.planeSchedule ⟨image, kernel, 0⟩ activations.size weights.size
      (l.frame.height * l.outputs.planeSize) with
  | ok s => exact ⟨s, planeChecked_of_eq_ok hs⟩
  | error e =>
    rw [hs] at hpass
    cases hpass

/-! ## Blocks of weights -/

/-- The weights of one kernel, cut out. -/
def kernelBlock (l : Layer) (weights : Array α) (kernel : Nat) : Array α :=
  weights.extract (kernel * l.weights.size) (kernel * l.weights.size + l.weights.size)

/-- A tap of a kernel is the tap of its block. -/
theorem tap_eq_block {chan i j : Nat} (hc : chan < l.weights.height) (hi : i < l.weights.rows)
    (hfield : l.fieldSize = l.weights.cols) :
    l.tap weights kernel chan i j = l.tap (l.kernelBlock weights kernel) 0 chan i j := by
  unfold tap
  split
  · next hj =>
    have hlane := Nat.lt_of_lt_of_le (hfield ▸ hj) l.weights.cols_le_rowLanes
    rw [Shape.read, Shape.read, Array.getD_eq_getD_getElem?, Array.getD_eq_getD_getElem?, Tensor.position,
      Tensor.position, Nat.zero_mul, Nat.zero_add, kernelBlock,
      Buffer.getElem?_extract (l.weights.offset_lt_size hc hi hlane)]
  · rfl

/-- A pixel takes its taps from the block of its kernel. -/
theorem planeValue_eq_block {chan r c : Nat} (hc : chan < l.weights.height) (hrows : l.weights.rows = l.fieldSize)
    (hfield : l.fieldSize = l.weights.cols) :
    l.planeValue x weights ⟨image, kernel, chan⟩ r c =
      l.planeValue x (l.kernelBlock weights kernel) ⟨image, 0, chan⟩ r c := by
  unfold planeValue
  exact pixelValue_congr fun i hi => funext fun j => tap_eq_block hc (hrows ▸ hi) hfield

/-! ## Layers made by hand -/

/-- The layer with the field that its kernels have, which is the one a convolution goes by. -/
def byKernel (l : Layer) : Layer := { l with fieldSize := l.weights.cols }

/-- What a pixel reads lies where it belongs: the image in the activations, the window in its planes, the block
of the kernel in the weights, and the taps of every channel in the block. -/
structure PixelInBounds (l : Layer) (activations weights : Array α) (image kernel r c : Nat) : Prop where
  image_le : (image + 1) * l.frame.size ≤ activations.size
  rows_le : r * l.stride + l.weights.cols ≤ l.frame.rows
  cols_le : c * l.stride + l.weights.cols ≤ l.frame.cols
  block_size : (l.kernelBlock weights kernel).size = l.weights.size
  taps_lt : ∀ chan < l.frame.height, ∀ i < l.weights.cols, ∀ j < l.weights.cols,
    l.weights.offset chan i j < l.weights.size

omit [Scalar α] in
theorem PlaneChecked.pixelInBounds {channel a r c : Nat} {s : Schedule}
    (h : l.PlaneChecked ⟨image, kernel, channel⟩ activations.size weights.size a s)
    (hheight : l.frame.height ≤ l.weights.height) (hr : r < l.outputs.rows) (hc : c < l.outputs.cols) :
    l.PixelInBounds activations weights image kernel r c where
  image_le := h.room.activations
  rows_le := window_le_extent h.rows (h.outputs_rows ▸ hr)
  cols_le := window_le_extent h.cols (h.outputs_cols ▸ hc)
  block_size := by
    have hblock : kernel * l.weights.size + l.weights.size ≤ weights.size := by
      rw [← Nat.succ_mul]
      exact h.room.kernels
    rw [kernelBlock, Array.size_extract]
    omega
  taps_lt chan hchan i hi j hj :=
    l.weights.offset_lt_size (Nat.lt_of_lt_of_le hchan hheight) (h.square ▸ hi)
      (Nat.lt_of_lt_of_le hj l.weights.cols_le_rowLanes)

/-- Whatever the fields of a layer hold, as long as there are weights for its channels, its kernels have columns
and its planes have elements: a convolution gives a result or an error and breaks no contract. Every pixel of
a result is the activation of its channels, each computed from the window of the pixel and from the block of
its kernel. -/
theorem convolve_validated (l : Layer) (images : Nat) (activations weights result : Array α)
    (hheight : l.frame.height ≤ l.weights.height) (hwidth : l.weights.cols ≠ 0)
    (hplane : l.outputs.planeSize ≠ 0) :
    EndsFrom (l.convolve images activations weights) result
      (fun _ output => ∀ image < images, ∀ kernel < l.kernelCount, ∀ r < l.outputs.rows,
        ∀ c < l.outputs.cols,
          (0 < l.frame.height → l.PixelInBounds activations weights image kernel r c) ∧
          output[Tensor.position l.outputs image kernel r c]? = some (l.activation.apply
            ((List.range l.frame.height).foldl (fun sum chan => sum + l.byKernel.planeValue
              (l.frame.read activations) (l.kernelBlock weights kernel) ⟨image, 0, chan⟩ r c) 0)))
      (fun failure _ => ∃ e, failure = .error e) := by
  -- The field of the layer is not looked at, so the two layers are convolved alike.
  have hends : EndsFrom (l.convolve images activations weights) result (fun _ output =>
      Buffer.Written result (· < images * l.outputs.size)
        (l.outputs.flat (l.byKernel.convolved weights (l.frame.read activations))) output)
      (fun failure _ => ∃ e, failure = .error e) :=
    convolve_written_or_refused (l := l.byKernel) rfl hheight hwidth hplane
  unfold EndsFrom
  cases hrun : l.convolve images activations weights result with
  | error failure output => exact hends.of_error hrun
  | ok u output =>
    intro image hi kernel hk r hr c hc
    refine ⟨fun hpos => ?_, ?_⟩
    · obtain ⟨s, hchecked⟩ := checked_of_convolve hrun hi hk hpos
      exact hchecked.pixelInBounds hheight hr hc
    · have hlane := Nat.lt_of_lt_of_le hc l.outputs.cols_le_rowLanes
      rw [(hends.of_ok hrun).inside _ (l.outputs.position_lt hi hk hr hlane),
        l.outputs.flat_position _ hk hr hlane]
      refine congrArg some ((if_pos hc).trans (congrArg _ (foldl_congr (fun chan hchan sum => ?_) 0)))
      rw [List.mem_range] at hchan
      obtain ⟨s, hchecked⟩ := checked_of_convolve hrun hi hk (Nat.zero_lt_of_lt hchan)
      rw [planeValue_eq_block (l := l.byKernel) (Nat.lt_of_lt_of_le hchan hheight) hchecked.square rfl]
      rfl

/-- A layer that no constructor makes: it calls itself a pooling layer, states a field that is not its
kernel's, and has weights for three channels where its frame has one. -/
def handMade : Layer where
  name := "hand"
  kind := .pooling
  inputs := ⟨2, 2, 1, 6⟩
  outputs := ⟨1, 1, 1, 3⟩
  weights := ⟨2, 2, 3, 1⟩
  fieldSize := 7
  stride := 2
  border := 0
  activation := .relu
  pooling := .none

/-- Two rows of pixels. -/
def handPixels : Array Int := Array.ofFn fun i : Fin 16 => (i.val : Int) % 8 + 1

/-- Three channels of two by two weights. -/
def handWeights : Array Int := Array.ofFn fun i : Fin 18 => (i.val : Int)

theorem convolve_validated_handMade :
    handMade.frame.height ≤ handMade.weights.height ∧ handMade.weights.cols ≠ 0 ∧
      handMade.outputs.planeSize ≠ 0 ∧
      ∃ output, @convolve Int integers handMade 1 handPixels handWeights (Array.replicate 4 9) =
          .ok () output ∧
        handMade.PixelInBounds handPixels handWeights 0 0 0 0 ∧
        output[Tensor.position handMade.outputs 0 0 0 0]? = some 13 := by
  have hrun : @convolve Int integers handMade 1 handPixels handWeights (Array.replicate 4 9) =
      .ok () #[13, 0, 0, 0] := by
    decide +kernel
  have hends := @convolve_validated Int integers handMade 1 handPixels handWeights (Array.replicate 4 9)
    (by decide) (by decide) (by decide)
  obtain ⟨hbounds, hvalue⟩ := hends.of_ok hrun 0 (by decide) 0 (by decide) 0 (by decide) 0 (by decide)
  refine ⟨by decide, by decide, by decide, _, hrun, hbounds (by decide), ?_⟩
  rw [hvalue]
  decide +kernel

/-- Two channels against two kernels of one channel each. -/
def oneChannel : Layer where
  name := "thin"
  kind := .convolution
  inputs := ⟨1, 1, 2, 7⟩
  outputs := ⟨1, 1, 2, 7⟩
  weights := ⟨1, 1, 1, 7⟩
  fieldSize := 1
  stride := 1
  border := 0
  activation := .identity
  pooling := .none

/-- No channels, and planes of no elements. -/
def noElements : Layer :=
  { oneChannel with inputs := ⟨1, 1, 0, 7⟩, outputs := ⟨0, 0, 1, 0⟩, weights := ⟨1, 1, 0, 7⟩ }

/-- Kernels of no columns over rows of none. -/
def noColumns : Layer :=
  { oneChannel with inputs := ⟨0, 0, 1, 0⟩, outputs := ⟨1, 1, 1, 7⟩, weights := ⟨0, 0, 1, 0⟩ }

/-- None of the three conditions is checked. Where the weights have a channel too few, a kernel takes weights
of the next one, and the last kernel reads past their end; where a plane has no elements or a kernel no
columns, a contract is broken too. -/
theorem convolve_not_validated :
    @convolve Int integers oneChannel 1 #[1, 0, 0, 0, 0, 0, 0, 0, 1, 0, 0, 0, 0, 0, 0, 0]
        #[5, 0, 0, 0, 0, 0, 0, 0, 7, 0, 0, 0, 0, 0, 0, 0, 11, 0, 0, 0, 0, 0, 0, 0] (Array.replicate 16 0) =
      .ok () #[12, 0, 0, 0, 0, 0, 0, 0, 18, 0, 0, 0, 0, 0, 0, 0] ∧
    @convolve Int integers oneChannel 1 #[1, 0, 0, 0, 0, 0, 0, 0, 1, 0, 0, 0, 0, 0, 0, 0]
        #[5, 0, 0, 0, 0, 0, 0, 0, 7, 0, 0, 0, 0, 0, 0, 0] (Array.replicate 16 0) =
      .error (.fault .outOfRange) #[12, 0, 0, 0, 0, 0, 0, 0, 0, 0, 0, 0, 0, 0, 0, 0] ∧
    @convolve Int integers noElements 1 #[] #[] #[] = .error (.fault .emptyPieces) #[] ∧
    @convolve Int integers noColumns 1 #[] #[] (Array.replicate 8 0) =
      .error (.fault .negativeExtent) (Array.replicate 8 0) := by
  refine ⟨?_, ?_, ?_, ?_⟩ <;> decide +kernel

end Layer

end ForwardPass

import ForwardPass.Convolution.Planes
import ForwardPass.Proofs.Convolution.Plane

/-!
# Convolution of a batch

The planes of all channels are added up from zero in channel order, and the activation is applied to the
sums. The planes are worked on in one scratch buffer that is never cleared, so the pad lanes of the result
rest on an invariant: the scratch's own pad lanes stay zero, because no plane writes them.
-/

namespace ForwardPass.Layer

variable {α : Type} [Scalar α] {l : Layer} {x : Batch α} {activations weights : Array α}
  {images image kernel : Nat}

/-! ## What a convolution computes -/

/-- The sum of the channels at one output pixel. -/
def channelSum (l : Layer) (weights : Array α) (x : Batch α) (image kernel r c : Nat) : α :=
  (List.range l.frame.height).foldl (fun sum chan =>
    sum + l.planeValue x weights ⟨image, kernel, chan⟩ r c) 0

/-- What the pad lanes of the result hold: the zeros of all channels, added up. -/
def padSum (l : Layer) : α := (List.range l.frame.height).foldl (fun sum _ => sum + 0) 0

/-- The sums of the channels of a batch, pad lanes included. -/
def channelSums (l : Layer) (weights : Array α) (x : Batch α) : Batch α := fun image kernel r c =>
  if c < l.outputs.cols then l.channelSum weights x image kernel r c else l.padSum

/-- The convolved batch: the activation of the sums of the channels, pad lanes as they are. -/
def convolved (l : Layer) (weights : Array α) (x : Batch α) : Batch α := fun image kernel r c =>
  if c < l.outputs.cols then l.activation.apply (l.channelSum weights x image kernel r c) else l.padSum

/-- What the plane convolutions of a batch ask of the layer. Without an image, a kernel or a channel
there is none, and nothing is asked. -/
def PlanesFit (l : Layer) (images : Nat) : Prop :=
  images ≠ 0 → l.kernelCount ≠ 0 → l.frame.height ≠ 0 →
    l.fieldSize ≤ vectorLanes ∧ l.frame.rowLanes % vectorLanes = 0

/-- What a convolution asks of its layer, its input and its weights. -/
structure BatchReady (l : Layer) (images : Nat) (x : Batch α) (activations weights : Array α) :
    Prop where
  layer : l.IsConvolution
  fit : l.PlanesFit images
  holds : l.frame.Holds images activations x
  weights : l.kernelCount * l.weights.size ≤ weights.size

/-- The planes of one image and kernel can be convolved into scratch memory. -/
def KernelReady (l : Layer) (x : Batch α) (activations weights : Array α) (image kernel : Nat) : Prop :=
  ∀ channel < l.frame.height, l.PlaneReady ⟨image, kernel, channel⟩ x activations weights
    (l.frame.height * l.outputs.planeSize)

omit [Scalar α] in
theorem BatchReady.kernelReady (h : l.BatchReady images x activations weights) (hi : image < images)
    (hk : kernel < l.kernelCount) : l.KernelReady x activations weights image kernel := by
  intro channel hchannel
  obtain ⟨hfield, haligned⟩ := h.fit (by omega) (by omega) (by omega)
  exact {
    layer := h.layer
    field := hfield
    aligned := haligned
    holds := h.holds.take hi
    channel := hchannel
    kernels := Nat.le_trans (Nat.mul_le_mul_right _ hk) h.weights
    result := Nat.mul_le_mul_right _ hchannel }

/-! ## Scratch -/

/-- The scratch holds one plane for every channel, and its pad lanes are zero. -/
structure Scratch (l : Layer) (scratch : Array α) : Prop where
  size : scratch.size = l.frame.height * l.outputs.planeSize
  pads : ∀ chan < l.frame.height, ∀ r < l.outputs.rows, ∀ q, l.outputs.cols ≤ q →
    q < l.outputs.rowLanes → scratch[l.outputs.offset chan r q]? = some 0

theorem scratch_zeros :
    l.Scratch (Array.replicate (l.frame.height * l.outputs.planeSize) (0 : α)) where
  size := Array.size_replicate
  pads chan hchan r hr q _ hq := by
    have := l.outputs.offset_lt hchan hr hq
    rw [Array.getElem?_replicate, if_pos this]

omit [Scalar α] in
/-- No plane has a pad lane. -/
theorem not_inPlane {chan chan' r q : Nat} (hcols : l.outputs.cols ≤ q) (hq : q < l.outputs.rowLanes) :
    ¬ l.InPlane chan' (l.outputs.offset chan r q) := by
  rintro ⟨_, -, _, hc, heq⟩
  exact l.outputs.offset_pad_ne hcols hq hc heq

/-- The planes of all channels of one image and kernel. -/
structure PlanesOf (l : Layer) (weights : Array α) (x : Batch α) (image kernel : Nat)
    (planes : Array α) : Prop where
  scratch : l.Scratch planes
  pixels : ∀ chan < l.frame.height, ∀ r < l.outputs.rows, ∀ c < l.outputs.cols,
    planes[l.outputs.offset chan r c]? = some (l.planeValue x weights ⟨image, kernel, chan⟩ r c)

/-- All channels are convolved, one plane each. -/
theorem planes_yields (h : l.KernelReady x activations weights image kernel) {scratch : Array α}
    (hscratch : l.Scratch scratch) :
    Yields ((List.range l.frame.height).foldlM (fun planes channel =>
      l.convolvePlane ⟨image, kernel, channel⟩ activations weights planes) scratch)
      (l.PlanesOf weights x image kernel) := by
  refine (Buffer.foldlM_written l.InPlane (l.planeValues x weights image kernel)
    (fun chan hchan planes hsize => ?_)
    hscratch.size).mono fun planes hw => ⟨⟨hw.size.trans hscratch.size, ?_⟩, ?_⟩
  · exact convolvePlane_yields (hsize ▸ h chan (List.mem_range.1 hchan))
  · intro chan hchan r hr q hcols hq
    rw [hw.outside _ fun ⟨_, _, hin⟩ => not_inPlane hcols hq hin]
    exact hscratch.pads chan hchan r hr q hcols hq
  · intro chan hchan r hr c hc
    rw [hw.inside _ ⟨chan, List.mem_range.2 hchan, r, hr, c, hc, rfl⟩, planeValues,
      l.outputs.unpack_offset _ hr (Nat.lt_of_lt_of_le hc l.outputs.cols_le_rowLanes)]

/-! ## One kernel -/

theorem length_sumPlanes (channels size : Nat) (planes : Array α) :
    (sumPlanes channels size planes).length = size := by
  rw [sumPlanes, List.length_map, List.length_range]

/-- The planes are added up channel by channel. -/
theorem PlanesOf.getElem?_sum {planes : Array α} (h : l.PlanesOf weights x image kernel planes) {r q : Nat}
    (hr : r < l.outputs.rows) (hq : q < l.outputs.rowLanes) :
    (sumPlanes l.frame.height l.outputs.planeSize planes)[l.outputs.offset 0 r q]? =
      some (l.channelSums weights x image kernel r q) := by
  have hlt : l.outputs.offset 0 r q < l.outputs.planeSize := by
    have := l.outputs.offset_lt Nat.one_pos hr hq
    rwa [Nat.one_mul] at this
  -- Logical lanes and pad lanes are added up alike, only the values of the planes differ.
  have hsum (value : Nat → α) (hvalue : ∀ chan < l.frame.height,
      planes[l.outputs.offset chan r q]? = some (value chan)) :
      (List.range l.frame.height).foldl (fun sum chan =>
        sum + planes.getD (chan * l.outputs.planeSize + l.outputs.offset 0 r q) 0) 0 =
      (List.range l.frame.height).foldl (fun sum chan => sum + value chan) 0 := by
    refine foldl_congr (fun chan hchan sum => ?_) 0
    rw [← Shape.offset_eq_plane_add, Array.getD_eq_getD_getElem?,
      hvalue chan (List.mem_range.1 hchan), Option.getD_some]
  rw [sumPlanes, List.getElem?_map, List.getElem?_range hlt, Option.map_some, channelSums]
  split
  · next hc => exact congrArg some (hsum _ fun chan hchan => h.pixels chan hchan r hr q hc)
  · next hc =>
    exact congrArg some
      (hsum _ fun chan hchan => h.scratch.pads chan hchan r hr q (Nat.le_of_not_lt hc) hq)

/-- The elements one image and kernel take up in the result. -/
def KernelRegion (l : Layer) (image kernel : Nat) : Nat → Prop :=
  Buffer.Within ((image * l.kernelCount + kernel) * l.outputs.planeSize) l.outputs.planeSize

omit [Scalar α] in
theorem Slides.planeSize_ne_zero (h : l.Slides) : l.outputs.planeSize ≠ 0 := by
  have hrows : 0 < l.outputs.rows := h.outputs_rows ▸ Nat.succ_pos _
  have hcols : 0 < l.outputs.cols := h.outputs_cols ▸ Nat.succ_pos _
  have hlanes := l.outputs.cols_le_rowLanes
  exact Nat.mul_ne_zero (by omega) (by omega)

omit [Scalar α] in
/-- The kernels of an image lie behind one another. -/
theorem kernel_start (l : Layer) (image kernel : Nat) :
    image * l.outputs.size + kernel * l.outputs.planeSize =
      (image * l.kernelCount + kernel) * l.outputs.planeSize := by
  rw [Shape.size, kernelCount]
  ring

/-- One kernel writes its sums and leaves the scratch as the next one needs it. -/
theorem convolveKernel_completes (h : l.KernelReady x activations weights image kernel)
    (hplane : l.outputs.planeSize ≠ 0) (hi : image < images) (hk : kernel < l.kernelCount)
    {scratch result : Array α} (hscratch : l.Scratch scratch)
    (hsize : images * l.outputs.size ≤ result.size) :
    Completes (l.convolveKernel image kernel activations weights scratch) result fun planes result' =>
      l.Scratch planes ∧ Buffer.Written result (l.KernelRegion image kernel)
        (l.outputs.flat (l.channelSums weights x)) result' := by
  obtain ⟨planes, hplanes, hof⟩ := planes_yields h hscratch
  have hend : (image * l.kernelCount + kernel + 1) * l.outputs.planeSize ≤ result.size := by
    refine Nat.le_trans (Nat.mul_le_mul_right _ (Shape.plane_lt hi hk)) ?_
    rw [kernelCount, Shape.planes_mul_planeSize]
    exact hsize
  rw [Nat.succ_mul] at hend
  -- The sums of one kernel are one plane of the result.
  have hput : Yields (Buffer.put result (image * l.outputs.size + kernel * l.outputs.planeSize)
      (sumPlanes l.frame.height l.outputs.planeSize planes))
      (Buffer.Written result (l.KernelRegion image kernel) (l.outputs.flat (l.channelSums weights x))) := by
    rw [kernel_start]
    refine Buffer.put_yields (length_sumPlanes ..) hend fun j hj => ?_
    have hlt : j < 1 * l.outputs.planeSize := by rwa [Nat.one_mul]
    obtain ⟨plane, r, q, hplane, hr, hq, rfl⟩ := l.outputs.exists_offset hlt
    obtain rfl : plane = 0 := by omega
    rw [hof.getElem?_sum hr hq, ← Shape.offset_eq_plane_add, kernelCount, ← Shape.position_eq_offset,
      l.outputs.flat_position _ hk hr hq]
  obtain ⟨result', hresult, hwritten⟩ := hput
  refine ⟨planes, result', ?_, hof.scratch, hwritten⟩
  unfold convolveKernel
  simp only [hplanes, hplane, if_false]
  rw [bind_get, hresult]
  rfl

/-! ## All kernels -/

/-- Every image with every kernel, in the order in which they are convolved. -/
def pairs (l : Layer) (images : Nat) : List (Nat × Nat) :=
  (List.range images).flatMap fun image => (List.range l.kernelCount).map (image, ·)

/-- Convolve every image with every kernel. -/
def convolveKernels (l : Layer) (images : Nat) (activations weights scratch : Array α) :
    EStateM Failure (Array α) (Array α) :=
  (l.pairs images).foldlM
    (fun scratch (image, kernel) => l.convolveKernel image kernel activations weights scratch) scratch

omit [Scalar α] in
/-- Every image meets every kernel. -/
theorem mem_pairs {pair : Nat × Nat} :
    pair ∈ l.pairs images ↔ pair.1 < images ∧ pair.2 < l.kernelCount := by
  simp only [pairs, List.mem_flatMap, List.mem_map, List.mem_range]
  constructor
  · rintro ⟨image, hi, kernel, hk, rfl⟩
    exact ⟨hi, hk⟩
  · rintro ⟨hi, hk⟩
    exact ⟨pair.1, hi, pair.2, hk, rfl⟩

omit [Scalar α] in
/-- The kernels of all images take up the whole result. -/
theorem kernelRegions_iff (i : Nat) :
    (∃ pair ∈ l.pairs images, l.KernelRegion pair.1 pair.2 i) ↔ i < images * l.outputs.size := by
  rw [← Shape.planes_mul_planeSize, ← Buffer.within_pieces_iff]
  constructor
  · rintro ⟨pair, hmem, hin⟩
    obtain ⟨hi, hk⟩ := mem_pairs.1 hmem
    exact ⟨_, Shape.plane_lt hi hk, hin⟩
  · rintro ⟨plane, hplane, hin⟩
    have hkernels : 0 < l.kernelCount := Nat.pos_of_ne_zero fun h0 => by
      rw [kernelCount] at h0
      simp [h0] at hplane
    refine ⟨(plane / l.kernelCount, plane % l.kernelCount),
      mem_pairs.2 ⟨Nat.div_lt_of_lt_mul (Nat.mul_comm .. ▸ hplane), Nat.mod_lt _ hkernels⟩, ?_⟩
    rw [KernelRegion, Nat.div_add_mod']
    exact hin

/-- Kernels that write their sums unless they fail write all sums unless one of them fails. -/
theorem convolveKernels_ends {E : Failure → Array α → Prop} {scratch result : Array α}
    (hkernel : ∀ image < images, ∀ kernel < l.kernelCount, ∀ {scratch between : Array α},
      l.Scratch scratch → images * l.outputs.size ≤ between.size →
      EndsFrom (l.convolveKernel image kernel activations weights scratch) between (fun planes result' =>
        l.Scratch planes ∧ Buffer.Written between (l.KernelRegion image kernel)
          (l.outputs.flat (l.channelSums weights x)) result') E)
    (hscratch : l.Scratch scratch) (hsize : images * l.outputs.size ≤ result.size) :
    EndsFrom (l.convolveKernels images activations weights scratch) result (fun _ result' =>
      Buffer.Written result (· < images * l.outputs.size) (l.outputs.flat (l.channelSums weights x)) result')
      E := by
  -- The invariant: the kernels done so far have written their planes, and the scratch keeps its zeros.
  have hnothing : Buffer.Written result
      (fun i => ∃ pair ∈ ([] : List (Nat × Nat)), l.KernelRegion pair.1 pair.2 i)
      (l.outputs.flat (l.channelSums weights x)) result :=
    (Buffer.Written.refl result _).congr fun i => by simp
  refine (EndsFrom.foldlM_done
    (I := fun (done : List (Nat × Nat)) scratch result' => l.Scratch scratch ∧ Buffer.Written result
      (fun i => ∃ pair ∈ done, l.KernelRegion pair.1 pair.2 i)
      (l.outputs.flat (l.channelSums weights x)) result')
    (fun pair hpair done scratch between hdone => ?_) ⟨hscratch, hnothing⟩).mono
      (fun _ _ hall => hall.2.congr kernelRegions_iff) fun _ _ h => h
  obtain ⟨hi, hk⟩ := mem_pairs.1 hpair
  exact (hkernel _ hi _ hk hdone.1 (hdone.2.size ▸ hsize)).mono (fun _ _ hkernel =>
    ⟨hkernel.1, (hdone.2.trans hkernel.2).congr fun i => by simp [or_and_right, exists_or]⟩) fun _ _ h => h

/-- All kernels of all images write their sums. -/
theorem convolveKernels_completes (h : l.BatchReady images x activations weights) {scratch result : Array α}
    (hscratch : l.Scratch scratch) (hsize : images * l.outputs.size ≤ result.size) :
    Completes (l.convolveKernels images activations weights scratch) result fun _ result' =>
      Buffer.Written result (· < images * l.outputs.size) (l.outputs.flat (l.channelSums weights x))
        result' :=
  (convolveKernels_ends (fun _ hi _ hk _ _ hscratch hsize =>
    (convolveKernel_completes (h.kernelReady hi hk) h.layer.slides.planeSize_ne_zero hi hk hscratch hsize).endsFrom)
    hscratch hsize).completes

/-! ## The activation -/

/-- The activation reaches every logical element of the batch and leaves the pad lanes. -/
theorem applyTo_yields (f : Activation) {s : Shape} {before buffer : Array α} {y : Batch α}
    (hb : Buffer.Written before (· < images * s.size) (s.flat y) buffer) (hlanes : s.rowLanes ≠ 0)
    (hsize : images * s.size ≤ before.size) :
    Yields (f.applyTo s images buffer) (Buffer.Written before (· < images * s.size)
      (s.flat fun image chan r c =>
        if c < s.cols then f.apply (y image chan r c) else y image chan r c)) := by
  unfold Activation.applyTo
  split
  · next hf =>
    subst hf
    refine Yields.ok ⟨hb.size, fun i hi => ?_, hb.outside⟩
    rw [hb.inside i hi]
    simp only [Activation.apply, ite_self]
  · -- Whether a position is logical depends on its column alone.
    have hfits : ¬ buffer.size < images * s.size := by rw [hb.size]; omega
    simp only [hfits, if_false]
    refine Yields.ok ⟨by rw [Array.size_mapIdx, hb.size], fun i hi => ?_, fun i hi => ?_⟩
    · obtain ⟨image, chan, r, c, -, hc, hr, hl, rfl⟩ := s.exists_position hi
      have hlogical : s.isLogical (Tensor.position s image chan r c) = true ↔ c < s.cols := by
        rw [Shape.position_eq_offset]
        exact s.isLogical_offset _ _ hl
      rw [Array.getElem?_mapIdx, hb.inside _ hi, s.flat_position _ hc hr hl,
        s.flat_position _ hc hr hl, Option.map_some]
      simp [hi, hlogical]
    · rw [Array.getElem?_mapIdx, ← hb.outside i hi]
      simp [hi]

/-- The activation of the whole result, with which a convolution ends. -/
def activate (l : Layer) (images : Nat) : EStateM Failure (Array α) Unit := do
  match l.activation.applyTo l.outputs images (← get) with
  | .error failure => throw failure
  | .ok result => set result

/-- The sums of the channels are activated to what a convolution computes. -/
theorem activate_completes (hplane : l.outputs.planeSize ≠ 0) {before result : Array α}
    (hsums : Buffer.Written before (· < images * l.outputs.size)
      (l.outputs.flat (l.channelSums weights x)) result)
    (hsize : images * l.outputs.size ≤ before.size) :
    Completes (l.activate images) result fun _ result' => Buffer.Written before
      (· < images * l.outputs.size) (l.outputs.flat (l.convolved weights x)) result' := by
  have hlanes : l.outputs.rowLanes ≠ 0 := fun h0 => hplane (by rw [Shape.planeSize, h0, Nat.mul_zero])
  obtain ⟨result', hresult, hw⟩ := applyTo_yields l.activation hsums hlanes hsize
  have hvalue : (fun image kernel r c =>
      if c < l.outputs.cols then l.activation.apply (l.channelSums weights x image kernel r c)
      else l.channelSums weights x image kernel r c) = l.convolved weights x := by
    funext image kernel r c
    unfold convolved channelSums
    split <;> rfl
  refine ⟨(), result', ?_, hvalue ▸ hw⟩
  unfold activate
  rw [bind_get, hresult]
  rfl

/-! ## The batch -/

/-- A result that is too short is refused at once. -/
theorem convolve_of_short {result : Array α} (hsize : result.size < images * l.outputs.size) :
    l.convolve images activations weights result = .error (.error (.shapeMismatch l.name
      (.operandShort .result result.size (images * l.outputs.size)))) result := by
  unfold convolve
  rw [bind_get, if_pos hsize]
  rfl

/-- With room in the result a convolution is its kernels and the activation. -/
theorem convolve_eq_bind {result : Array α} (hsize : images * l.outputs.size ≤ result.size) :
    l.convolve images activations weights result =
      (l.convolveKernels images activations weights
        (Array.replicate (l.frame.height * l.outputs.planeSize) 0) >>= fun _ => l.activate images) result := by
  unfold convolve
  rw [bind_get, if_neg (Nat.not_lt.2 hsize)]
  dsimp only
  split
  · rfl
  · next hempty =>
    -- Without kernels the loop is left out, which is what it would do.
    rw [ne_eq, not_not] at hempty
    rw [convolveKernels, pairs, hempty]
    rfl

/-- A convolution overwrites the whole result with the convolved batch. -/
theorem convolve_completes (h : l.BatchReady images x activations weights) {result : Array α}
    (hsize : images * l.outputs.size ≤ result.size) :
    Completes (l.convolve images activations weights) result fun _ result' =>
      Buffer.Written result (· < images * l.outputs.size) (l.outputs.flat (l.convolved weights x))
        result' := by
  obtain ⟨_, between, hsums, hw⟩ := convolveKernels_completes h scratch_zeros hsize
  obtain ⟨_, result', hresult, hw'⟩ := activate_completes h.layer.slides.planeSize_ne_zero hw hsize
  refine ⟨(), result', ?_, hw'⟩
  rw [convolve_eq_bind hsize, bind_of_ok hsums]
  exact hresult

/-- A convolution puts the convolved batch in front of the elements that it does not reach. -/
theorem BatchReady.convolve_eq (h : l.BatchReady images x activations weights) {result : Array α}
    (hsize : images * l.outputs.size ≤ result.size) :
    l.convolve images activations weights result =
      .ok () (l.outputs.tabulate images (l.convolved weights x) ++
        result.extract (images * l.outputs.size)) := by
  obtain ⟨_, result', hresult, hwritten⟩ := convolve_completes h hsize
  rw [hresult, Shape.written_eq_append hwritten]

/-- A plane that does not pass the checks is refused before anything is written. -/
theorem convolvePlane_of_unchecked {at_ : PlaneIndex} {planes : Array α} {e : EngineError}
    (he : l.planeSchedule at_ activations.size weights.size planes.size = .error e) :
    l.convolvePlane at_ activations weights planes = .error (.error e) := by
  unfold convolvePlane
  rw [he]
  rfl

/-- A kernel whose first plane does not pass is refused before anything is written. -/
theorem convolveKernel_of_refused (hc : l.frame.height ≠ 0) {scratch : Array α} {e : EngineError}
    (he : l.planeSchedule ⟨image, kernel, 0⟩ activations.size weights.size scratch.size = .error e)
    (result : Array α) :
    l.convolveKernel image kernel activations weights scratch result = .error (.error e) result := by
  obtain ⟨channels, hchannels⟩ := Nat.exists_eq_succ_of_ne_zero hc
  unfold convolveKernel
  simp only [hchannels, List.range_succ_eq_map, List.foldlM_cons, convolvePlane_of_unchecked he]
  rfl

/-- The first plane that does not fit stops a convolution before anything is written. -/
theorem convolve_of_refused (hi : images ≠ 0) (hk : l.kernelCount ≠ 0) (hc : l.frame.height ≠ 0)
    {e : EngineError} (he : l.planeSchedule ⟨0, 0, 0⟩ activations.size weights.size
      (l.frame.height * l.outputs.planeSize) = .error e)
    {result : Array α} (hsize : images * l.outputs.size ≤ result.size) :
    l.convolve images activations weights result = .error (.error e) result := by
  -- No count is zero, so the first pass of the loop is kernel `0` of image `0`.
  obtain ⟨images, rfl⟩ := Nat.exists_eq_succ_of_ne_zero hi
  obtain ⟨kernels, hkernels⟩ := Nat.exists_eq_succ_of_ne_zero hk
  have hpairs : ∃ rest, l.pairs (images + 1) = (0, 0) :: rest := by
    simp only [pairs, hkernels, List.range_succ_eq_map, List.flatMap_cons, List.map_cons]
    exact ⟨_, rfl⟩
  obtain ⟨rest, hrest⟩ := hpairs
  have hkernel : l.convolveKernel 0 0 activations weights
      (Array.replicate (l.frame.height * l.outputs.planeSize) 0) result = .error (.error e) result :=
    convolveKernel_of_refused hc (by rwa [Array.size_replicate]) result
  rw [convolve_eq_bind hsize, convolveKernels, hrest, List.foldlM_cons]
  exact bind_of_error (bind_of_error hkernel _) _

end ForwardPass.Layer

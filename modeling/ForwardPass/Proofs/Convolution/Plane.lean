import ForwardPass.Proofs.Convolution.Pixel

/-!
# The plane of a convolution

A plane convolution passes its checks whenever the layer was constructed, its kernel fits into a vector,
the rows of its frame are whole vectors and its buffers are long enough. It then writes every logical
element of its channel with `planeValue` and nothing else.
-/

namespace ForwardPass

namespace Layer

variable {l : Layer} {at_ : PlaneIndex}

/-! ## The checks -/

theorem requireSize_eq_ok {role : Role} {have_ need : Nat} (h : need ≤ have_) :
    l.requireSize role have_ need = .ok () := if_neg (Nat.not_lt.2 h)

theorem Slides.planeSchedule_eq_ok (h : l.Slides) (hk : l.fieldSize ≤ vectorLanes)
    (haligned : l.frame.rowLanes % vectorLanes = 0) {activations kernels result : Nat}
    (ha : (at_.image + 1) * l.frame.size ≤ activations)
    (hw : (at_.kernel + 1) * l.weights.size ≤ kernels)
    (hr : (at_.channel + 1) * l.outputs.planeSize ≤ result) :
    ∃ s, l.planeSchedule at_ activations kernels result = .ok s ∧ s.Of l.fieldSize l.stride := by
  obtain ⟨s, hs, hof⟩ := Schedule.exists_ofKernel hk h.stride
  refine ⟨s, ?_, hof⟩
  unfold planeSchedule
  have hrows := Nat.not_lt.2 h.field_le_rows
  have hcols := Nat.not_lt.2 h.field_le_cols
  simp only [h.weights_cols, h.weights_rows, h.outputs_rows, h.outputs_cols, hs, haligned, hrows,
    hcols, requireSize_eq_ok ha, requireSize_eq_ok hw, requireSize_eq_ok hr, ne_eq, not_true_eq_false,
    or_self, if_false]
  rfl

/-- A kernel that is wider than a vector is refused before anything else is looked at. -/
theorem planeSchedule_of_wide (hk : vectorLanes < l.weights.cols) (activations kernels result : Nat) :
    l.planeSchedule at_ activations kernels result = .error (.kernelTooWide l.weights.cols) := by
  simp only [planeSchedule, Schedule.ofKernel_of_wide hk]
  rfl

/-- Rows that are not whole vectors are refused next. -/
theorem IsConvolution.planeSchedule_of_unaligned (h : l.IsConvolution)
    (hk : l.fieldSize ≤ vectorLanes) (haligned : l.frame.rowLanes % vectorLanes ≠ 0)
    (activations kernels result : Nat) :
    l.planeSchedule at_ activations kernels result =
      .error (.shapeMismatch l.name (.unalignedRows l.frame.rowLanes)) := by
  obtain ⟨s, hs, -⟩ := Schedule.exists_ofKernel hk h.stride
  unfold planeSchedule
  simp only [h.weights_cols, hs, ne_eq, haligned, not_false_eq_true, if_true]
  rfl

/-! ## The rows -/

variable {α : Type} [Scalar α] {x : Batch α} {activations kernels : Array α} {s : Schedule}
  {images r : Nat}

/-- The value of every element of the planes of one image and kernel, by its position. -/
def planeValues (l : Layer) (x : Batch α) (kernels : Array α) (image kernel : Nat) : Nat → α :=
  l.outputs.unpack fun chan r c => l.planeValue x kernels ⟨image, kernel, chan⟩ r c

/-- Where the logical elements of output row `r` of a plane are. -/
def InRow (l : Layer) (chan r i : Nat) : Prop := ∃ c < l.outputs.cols, i = l.outputs.offset chan r c

/-- Where the logical elements of a plane are. -/
def InPlane (l : Layer) (chan i : Nat) : Prop := ∃ r < l.outputs.rows, l.InRow chan r i

/-- The pixels of a group lie within its row. -/
theorem group_end_le {cols g : Nat} (hg : g * s.groupSize < cols) :
    g * s.groupSize + (s.groupAt cols g).pixels ≤ cols := by
  simp only [Schedule.groupAt]
  omega

/-- One group writes its pixels. -/
theorem writeGroup_yields (h : l.Slides) (hs : s.Of l.fieldSize l.stride)
    (hk : l.fieldSize ≤ vectorLanes) (haligned : l.frame.rowLanes % vectorLanes = 0)
    (hx : l.frame.Holds images activations x) (hi : at_.image < images)
    (hc : at_.channel < l.frame.height) (hw : (at_.kernel + 1) * l.weights.size ≤ kernels.size)
    (hr : r < l.outputs.rows) {g : Nat} (hg : g < l.groupCount) {result : Array α}
    (hsize : (at_.channel + 1) * l.outputs.planeSize ≤ result.size) :
    Yields (do
      let pixels ← l.groupPixels s at_ activations kernels r (s.groupAt l.outputs.cols g)
      let start := at_.channel * l.outputs.planeSize + r * l.outputs.rowLanes +
        (s.groupAt l.outputs.cols g).column
      if (s.groupAt l.outputs.cols g).pixels > vectorLanes then throw (Failure.fault .outOfRange)
      Buffer.put result start (pixels.toList.take (s.groupAt l.outputs.cols g).pixels))
      (Buffer.Written result
        (Buffer.Within (l.outputs.offset at_.channel r (g * s.groupSize))
          (s.groupAt l.outputs.cols g).pixels)
        (l.planeValues x kernels at_.image at_.kernel)) := by
  have hstart : at_.channel * l.outputs.planeSize + r * l.outputs.rowLanes +
      (s.groupAt l.outputs.cols g).column = l.outputs.offset at_.channel r (g * s.groupSize) := by
    simp only [Schedule.groupAt, Shape.offset, Shape.planeSize]
    ring
  have hend := group_end_le (h.across.column_lt hs hk hg)
  have hfit : (s.groupAt l.outputs.cols g).pixels ≤ vectorLanes :=
    Nat.le_trans (Nat.min_le_left ..) hs.groupSize_le
  have hlanes := l.outputs.cols_le_rowLanes
  have hrow := l.outputs.offset_add_rowLanes_le (show at_.channel < at_.channel + 1 by omega) hr
  refine (groupPixels_yields h hs haligned hx hi hc hw hr hg).bind fun v hv => ?_
  rw [if_neg (Nat.not_lt.2 hfit), hstart, take_toList_eq_map v hfit]
  refine Buffer.put_yields (by rw [List.length_map, List.length_range]) (by rw [Shape.offset_eq_add]; omega)
    fun j hj => ?_
  rw [Shape.offset_eq_add, Nat.add_assoc, ← Shape.offset_eq_add, planeValues,
    l.outputs.unpack_offset _ hr (by omega), ← hv j hj, List.getElem?_map, List.getElem?_range hj,
    Option.map_some]

/-- The groups of a row write its logical elements. -/
theorem mem_groups_iff (h : l.Slides) (hs : s.Of l.fieldSize l.stride)
    (hk : l.fieldSize ≤ vectorLanes) (i : Nat) :
    (∃ group ∈ l.rowGroups s,
      Buffer.Within (l.outputs.offset at_.channel r group.column) group.pixels i) ↔
      l.InRow at_.channel r i := by
  rw [h.across.rowGroups_eq hs hk]
  constructor
  · rintro ⟨group, hgroup, hstart, hend⟩
    obtain ⟨g, hg, rfl⟩ := List.mem_map.1 hgroup
    have hcols := group_end_le (h.across.column_lt hs hk (List.mem_range.1 hg))
    rw [Shape.offset_eq_add] at hstart hend
    refine ⟨i - l.outputs.offset at_.channel r 0, ?_, ?_⟩
    · simp only [Schedule.groupAt] at hstart hend hcols
      omega
    · rw [Shape.offset_eq_add]
      omega
  · rintro ⟨c, hc, rfl⟩
    -- The group of a pixel is found by division, because all groups but the last are full.
    have hg := h.across.exists_group hc
    rw [← hs.stride_eq] at hg
    refine ⟨_, List.mem_map.2 ⟨c / s.groupSize, List.mem_range.2 hg, rfl⟩, ?_⟩
    have hmod := Nat.mod_lt c hs.groupSize_pos
    have hdiv := Nat.div_add_mod' c s.groupSize
    simp only [Schedule.groupAt, Buffer.Within, Shape.offset_eq_add _ _ _ c,
      Shape.offset_eq_add _ _ _ (c / s.groupSize * s.groupSize)]
    omega

/-! ## The plane -/

/-- What a plane convolution asks of its layer and its buffers. -/
structure PlaneReady (l : Layer) (at_ : PlaneIndex) (x : Batch α)
    (activations kernels : Array α) (result : Nat) : Prop where
  layer : l.Slides
  field : l.fieldSize ≤ vectorLanes
  aligned : l.frame.rowLanes % vectorLanes = 0
  holds : l.frame.Holds (at_.image + 1) activations x
  channel : at_.channel < l.frame.height
  kernels : (at_.kernel + 1) * l.weights.size ≤ kernels.size
  result : (at_.channel + 1) * l.outputs.planeSize ≤ result

/-- A plane convolution writes the logical elements of its plane. -/
theorem convolvePlane_yields {result : Array α}
    (h : l.PlaneReady at_ x activations kernels result.size) :
    Yields (l.convolvePlane at_ activations kernels result)
      (Buffer.Written result (l.InPlane at_.channel) (l.planeValues x kernels at_.image at_.kernel)) := by
  obtain ⟨s, hs, hof⟩ :=
    h.layer.planeSchedule_eq_ok h.field h.aligned h.holds.le_size h.kernels h.result
  have hvectors : l.vectorsPerRow ≠ 0 := by
    have hpos := h.layer.field_pos
    have hle := h.layer.field_le_cols
    simp only [vectorsPerRow, vectorLanes]
    omega
  unfold convolvePlane
  refine Yields.bind_of_eq (by rw [hs, Except.mapError]) ?_
  rw [if_neg hvectors]
  refine (Buffer.foldlM_written (l.InRow at_.channel) (l.planeValues x kernels at_.image at_.kernel)
    (fun r hr before hsize => ?_) rfl).mono fun after hw => hw.congr fun i => ?_
  · -- Groups of a row write apart from each other, so it does not matter what the row held before.
    refine (Buffer.foldlM_written (fun group : PixelGroup =>
        Buffer.Within (l.outputs.offset at_.channel r group.column) group.pixels) _
      (fun group hgroup before hsize => ?_) hsize).mono fun after hw =>
        hw.congr (mem_groups_iff h.layer hof h.field)
    rw [h.layer.across.rowGroups_eq hof h.field] at hgroup
    obtain ⟨g, hg, rfl⟩ := List.mem_map.1 hgroup
    exact writeGroup_yields h.layer hof h.field h.aligned h.holds (Nat.lt_succ_self _) h.channel
      h.kernels (List.mem_range.1 hr) (List.mem_range.1 hg) (hsize ▸ h.result)
  · simp only [InPlane, List.mem_range]

end Layer

end ForwardPass

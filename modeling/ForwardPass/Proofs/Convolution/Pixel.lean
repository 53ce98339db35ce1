import ForwardPass.Proofs.Convolution.Schedule
import ForwardPass.Proofs.Layout
import ForwardPass.Proofs.Register

/-!
# The pixels of a group

`Layer.planeValue` is the value of one output pixel of a plane, operation by operation: products are
added kernel row by kernel row, four taps at a time, and no law of arithmetic is used to say so. The
main statement is that the pipes leave these values in the lanes of a group.
-/

namespace ForwardPass

variable {α : Type} [Scalar α]

/-! ## The value of a pixel -/

/-- The sum one pipe makes for a pixel: kernel row by kernel row, the products of `pipeLanes` taps with
the lanes they meet, from zero. -/
def pipeSum (rows : Nat) (taps lanes : Nat → Nat → α) : α :=
  (List.range rows).foldl (fun sum i => addProducts (taps i) (lanes i) sum) 0

/-- The value of a pixel. Taps past the first pipe's have a sum of their own, unless the kernel is too
narrow to have any. -/
def pixelValue (width : Nat) (taps lanes : Nat → Nat → α) : α :=
  let low := pipeSum width taps lanes
  let high := pipeSum width (fun i j => taps i (pipeLanes + j)) (fun i j => lanes i (pipeLanes + j))
  if width < pipeLanes then 0 + low else 0 + (low + high)

theorem pipeSum_succ (rows : Nat) (taps lanes : Nat → Nat → α) :
    pipeSum (rows + 1) taps lanes = addProducts (taps rows) (lanes rows) (pipeSum rows taps lanes) := by
  simp only [pipeSum, List.range_succ, List.foldl_append, List.foldl_cons, List.foldl_nil]

/-- A pixel depends on the rows of taps of its kernel. -/
theorem pixelValue_congr {width : Nat} {taps taps' lanes : Nat → Nat → α}
    (h : ∀ i < width, taps i = taps' i) : pixelValue width taps lanes = pixelValue width taps' lanes := by
  have hrows (start : Nat) (lanes : Nat → Nat → α) :
      pipeSum width (fun i j => taps i (start + j)) lanes =
        pipeSum width (fun i j => taps' i (start + j)) lanes :=
    foldl_congr (fun i hi sum => by dsimp only; rw [h i (List.mem_range.1 hi)]) 0
  have hlow : pipeSum width taps lanes = pipeSum width taps' lanes :=
    foldl_congr (fun i hi sum => by rw [h i (List.mem_range.1 hi)]) 0
  simp only [pixelValue, hlow, hrows]

namespace Layer

/-- Tap `j` of row `i` of one channel of a kernel, zero past the end of the row. -/
def tap (l : Layer) (kernels : Array α) (kernel chan i j : Nat) : α :=
  if j < l.fieldSize then l.weights.read kernels kernel chan i j else 0

/-- Lane `q` of a row of the frame, zero past the last vector that holds one of its columns. -/
def frameLane (l : Layer) (x : Batch α) (image chan row q : Nat) : α :=
  if q < vectorLanes * l.vectorsPerRow then x image chan row q else 0

/-- The value of output pixel `r`, `c` of a plane of the frame `x`. -/
def planeValue (l : Layer) (x : Batch α) (kernels : Array α) (at_ : PlaneIndex) (r c : Nat) : α :=
  pixelValue l.fieldSize (l.tap kernels at_.kernel at_.channel) fun i j =>
    l.frameLane x at_.image at_.channel (r * l.stride + i) (c * l.stride + j)

end Layer

/-! ## How far the pipes see -/

namespace Schedule.Of

variable {s : Schedule} {width stride : Nat}

/-- The pixels of a group start within its first vector. -/
theorem pixel_start (h : s.Of width stride) {p : Nat} (hp : p < s.groupSize) :
    p * stride < vectorLanes := by
  calc p * stride < s.groupSize * stride := Nat.mul_lt_mul_of_pos_right hp h.stride_pos
    _ = vectorLanes := h.groupSize_mul

/-- What the first pipe multiplies lies within the window. -/
theorem first_reach (h : s.Of width stride) {pixels n j : Nat} (hp : pixels ≤ s.groupSize)
    (hn : n < (s.throughput.budgets pixels).first) (hj : j < pipeLanes) :
    n * s.advance + j < windowLanes := by
  have hpixel : s.throughput.perStep * n < s.groupSize := by
    cases ht : s.throughput <;> simp only [ht, Throughput.budgets, Throughput.perStep] at hn ⊢ <;> omega
  have hstart := h.pixel_start hpixel
  have hmul : n * s.advance = s.throughput.perStep * n * stride := by
    rw [h.advance_eq]; ring
  simp only [vectorLanes, windowLanes, pipeLanes] at *
  omega

/-- What the second pipe multiplies lies within the window. -/
theorem second_reach (h : s.Of width stride) {pixels n j : Nat} (hp : pixels ≤ s.groupSize)
    (hn : n < (s.throughput.budgets pixels).second) (hj : j < pipeLanes) :
    s.lead + (n * s.advance + j) < windowLanes := by
  rw [h.lead_eq, h.advance_eq]
  cases ht : s.throughput with
  | double =>
    -- The second pipe is one pixel ahead, so its last pixel is odd and still one of the group.
    simp only [ht, Throughput.budgets, Throughput.perStep, Throughput.lead] at hn ⊢
    have hstart := h.pixel_start (p := 2 * n + 1) (by omega)
    have hmul : n * (2 * stride) + stride = (2 * n + 1) * stride := by ring
    simp only [vectorLanes, windowLanes, pipeLanes] at *
    omega
  | single =>
    simp only [ht, Throughput.budgets, Throughput.perStep, Throughput.lead, Nat.one_mul] at hn ⊢
    have hstart := h.pixel_start (p := n) (by omega)
    simp only [vectorLanes, windowLanes, pipeLanes] at *
    omega

end Schedule.Of

/-! ## What the pipes are handed -/

namespace Layer

variable {l : Layer} {x : Batch α} {activations kernels : Array α} {images image chan row : Nat}

omit [Scalar α] in
/-- A vector of a row holds its lanes. -/
theorem fetch_row {shape : Shape} {q : Nat} (hx : shape.Holds images activations x)
    (hi : image < images) (hc : chan < shape.height) (hr : row < shape.rows)
    (hq : q + vectorLanes ≤ shape.rowLanes) :
    Yields (Buffer.fetch activations (Tensor.position shape image chan row 0 + q)) fun v =>
      ∀ m < vectorLanes, v[m]? = some (x image chan row (q + m)) := by
  have hend := shape.position_add_rowLanes_le hi hc hr
  have hsize := hx.le_size
  refine (Buffer.fetch_yields (by omega)).mono fun v hv m hm => ?_
  rw [hv m hm, Nat.add_assoc, ← shape.position_eq_add]
  exact hx hi hc hr (by omega)

/-- The weights a pipe is handed are the taps of its half; at double throughput both have the same. -/
theorem laneAt_tapLanes (s : Schedule) (taps : List α) {j : Nat} (hj : j < pipeLanes) :
    laneAt (tapLanes s taps) j = taps.getD j 0 ∧
      laneAt (tapLanes s taps) (pipeLanes + j) =
        match s.throughput with
        | .double => taps.getD j 0
        | .single => taps.getD (pipeLanes + j) 0 := by
  have hj' : pipeLanes + j < vectorLanes := Nat.add_lt_add_left hj pipeLanes
  rw [laneAt_eq_getElem _ (Nat.lt_trans hj (by decide)), laneAt_eq_getElem _ hj']
  cases hd : s.throughput with
  | double =>
    simp only [tapLanes, hd, Vector.getElem_ofFn, Nat.add_mod_left, Nat.mod_eq_of_lt hj, and_self]
  | single => simp only [tapLanes, hd, LaneVector.load, Vector.getElem_ofFn, and_self]

/-- A row of a kernel, read with zeros behind it. -/
theorem taps_row {kernel i : Nat} (h : l.Slides) (hc : chan < l.frame.height)
    (hk : (kernel + 1) * l.weights.size ≤ kernels.size) (hi : i < l.fieldSize) :
    Yields (Buffer.slice kernels (Tensor.position l.weights kernel chan i 0) l.fieldSize) fun taps =>
      ∀ j, taps.toList.getD j 0 = l.tap kernels kernel chan i j := by
  have hlanes := h.weights_cols ▸ l.weights.cols_le_rowLanes
  have hend := l.weights.position_add_rowLanes_le (Nat.lt_add_one kernel)
    (Nat.lt_of_lt_of_le hc h.height_le) (h.weights_rows ▸ hi)
  have hin : Tensor.position l.weights kernel chan i 0 + l.fieldSize ≤ kernels.size := by omega
  refine Yields.of_eq (Buffer.slice_eq_ok hin) fun j => ?_
  rw [List.getD_eq_getElem?_getD, Array.getElem?_toList, tap]
  split
  · next hj =>
    rw [Buffer.getElem?_extract hj, ← l.weights.position_eq_add, Shape.read,
      Array.getD_eq_getD_getElem?]
  · next hj =>
    rw [Array.getElem?_eq_none (by simp; omega)]
    rfl

/-! ## One group -/

/-- The partial sums of the group that starts from vector `fetch` of output row `r`, after `rows` kernel
rows. Sum `n` of a pipe belongs to the window that starts where the pipe stands after `n` steps. -/
structure GroupSums (l : Layer) (s : Schedule) (x : Batch α) (kernels : Array α) (at_ : PlaneIndex)
    (r fetch pixels rows : Nat) (sums : PartialSums α) : Prop where
  first : ∀ n < (s.throughput.budgets pixels).first, laneAt sums.first n =
    pipeSum rows (l.tap kernels at_.kernel at_.channel) fun i j =>
      l.frameLane x at_.image at_.channel (r * l.stride + i) (fetch * vectorLanes + (n * s.advance + j))
  second : ∀ n < (s.throughput.budgets pixels).second, laneAt sums.second n =
    pipeSum rows
      (fun i j => match s.throughput with
        | .double => l.tap kernels at_.kernel at_.channel i j
        | .single => l.tap kernels at_.kernel at_.channel i (pipeLanes + j))
      fun i j => l.frameLane x at_.image at_.channel (r * l.stride + i)
        (fetch * vectorLanes + (s.lead + (n * s.advance + j)))

variable {s : Schedule} {at_ : PlaneIndex} {r fetch pixels : Nat}

theorem GroupSums.zero : GroupSums l s x kernels at_ r fetch pixels 0 PartialSums.zero where
  first n _ := by
    by_cases hn : n < vectorLanes <;> simp [laneAt, PartialSums.zero, LaneVector.zero, pipeSum, hn]
  second n _ := by
    by_cases hn : n < vectorLanes <;> simp [laneAt, PartialSums.zero, LaneVector.zero, pipeSum, hn]

/-- One kernel row adds its products to every sum of the group. -/
theorem GroupSums.accumulate (hs : s.Of l.fieldSize l.stride) (hp : pixels ≤ s.groupSize) {rows : Nat}
    {taps : List α} {w : Window α} {sums : PartialSums α}
    (ht : ∀ j, taps.getD j 0 = l.tap kernels at_.kernel at_.channel rows j)
    (hw : ∀ m < windowLanes, laneAt w m =
      l.frameLane x at_.image at_.channel (r * l.stride + rows) (fetch * vectorLanes + m))
    (hsums : GroupSums l s x kernels at_ r fetch pixels rows sums) :
    Yields (Pipes.accumulate (tapLanes s taps) s.advance (s.throughput.budgets pixels)
      ⟨w, Window.shiftInPlace w s.lead, sums⟩) fun q =>
      GroupSums l s x kernels at_ r fetch pixels (rows + 1) q.sums := by
  have hfit := s.throughput.budgets_fit (Nat.le_trans hp hs.groupSize_le)
  obtain ⟨q, hq, hafter⟩ := Pipes.accumulate_eq_ok (tapLanes s taps) s.advance
    ⟨w, Window.shiftInPlace w s.lead, sums⟩ hfit
  refine Yields.of_eq hq ⟨?_, ?_⟩
  · intro n hn
    have hn8 : n < vectorLanes := Nat.lt_of_lt_of_le hn hfit.1
    rw [pipeSum_succ, ← hsums.first n hn, laneAt_eq_getElem _ hn8, laneAt_eq_getElem _ hn8]
    refine (hafter.firstSum n hn8).trans ((if_pos hn).trans ?_)
    refine addProducts_congr (fun j hj => ?_) (fun j hj => ?_) _
    · exact (laneAt_tapLanes s taps hj).1.trans (ht j)
    · exact hw _ (hs.first_reach hp hn hj)
  · intro n hn
    have hn8 : n < vectorLanes := Nat.lt_of_lt_of_le hn (Nat.le_trans hfit.2.1 hfit.1)
    rw [pipeSum_succ, ← hsums.second n hn, laneAt_eq_getElem _ hn8, laneAt_eq_getElem _ hn8]
    refine (hafter.secondSum n hn8).trans
      ((if_pos ⟨Nat.lt_of_lt_of_le hn hfit.2.1, hn⟩).trans ?_)
    refine addProducts_congr (fun j hj => ?_) (fun j hj => ?_) _
    · rw [(laneAt_tapLanes s taps hj).2]
      cases s.throughput with
      | double => exact ht j
      | single => exact ht (pipeLanes + j)
    · rw [Window.shiftInPlace_eq, laneAt_shift]
      exact hw _ (hs.second_reach hp hn hj)

/-- At double throughput the pipes take turns: the first makes the even pixels, the second the odd ones. -/
theorem GroupSums.merge_double (hs : s.Of l.fieldSize l.stride) (hp : pixels ≤ s.groupSize)
    {sums : PartialSums α} (hsums : GroupSums l s x kernels at_ r fetch pixels l.fieldSize sums)
    (hd : s.throughput = .double) {p : Nat} (hpix : p < pixels) :
    laneAt (s.throughput.merge sums) p =
      l.planeValue x kernels at_ r (fetch * s.groupSize + p) := by
  have hp8 : p < vectorLanes := Nat.lt_of_lt_of_le hpix (Nat.le_trans hp hs.groupSize_le)
  rw [laneAt_eq_getElem _ hp8, planeValue, pixelValue, if_pos (hs.throughput_eq_double_iff.1 hd)]
  simp only [hs.pixel_lane, hd, Throughput.merge, Vector.getElem_ofFn]
  by_cases heven : p % 2 = 0
  · have hn : p / 2 < (s.throughput.budgets pixels).first := by
      simp only [hd, Throughput.budgets]
      omega
    have hstep : p / 2 * s.advance = p * l.stride := by
      rw [hs.advance_eq, hd, Throughput.perStep, ← Nat.mul_assoc, Nat.div_mul_cancel (by omega)]
    rw [if_pos heven, ← laneAt_eq_getElem _ (by omega), hsums.first _ hn, hstep]
  · have hn : p / 2 < (s.throughput.budgets pixels).second := by
      simp only [hd, Throughput.budgets]
      omega
    have hstep (j : Nat) : s.lead + (p / 2 * s.advance + j) = p * l.stride + j := by
      have hodd : p = p / 2 * 2 + 1 := by omega
      calc s.lead + (p / 2 * s.advance + j) = (p / 2 * 2 + 1) * l.stride + j := by
            rw [hs.lead_eq, hs.advance_eq, hd, Throughput.perStep, Throughput.lead]; ring
        _ = p * l.stride + j := by rw [← hodd]
    rw [if_neg heven, ← laneAt_eq_getElem _ (by omega), hsums.second _ hn]
    simp only [hstep, hd]

/-- At single throughput both pipes work on every pixel, each on its half of the taps. -/
theorem GroupSums.merge_single (hs : s.Of l.fieldSize l.stride) (hp : pixels ≤ s.groupSize)
    {sums : PartialSums α} (hsums : GroupSums l s x kernels at_ r fetch pixels l.fieldSize sums)
    (hd : s.throughput = .single) {p : Nat} (hpix : p < pixels) :
    laneAt (s.throughput.merge sums) p =
      l.planeValue x kernels at_ r (fetch * s.groupSize + p) := by
  have hp8 : p < vectorLanes := Nat.lt_of_lt_of_le hpix (Nat.le_trans hp hs.groupSize_le)
  have hwide : ¬ l.fieldSize < pipeLanes := by
    rw [← hs.throughput_eq_double_iff, hd]
    simp
  have hadvance : s.advance = l.stride := by
    rw [hs.advance_eq, hd, Throughput.perStep, Nat.one_mul]
  have hlead (j : Nat) : s.lead + (p * l.stride + j) = p * l.stride + (pipeLanes + j) := by
    rw [hs.lead_eq, hd, Throughput.lead]
    omega
  have hfirst := hsums.first p (by simpa only [hd, Throughput.budgets] using hpix)
  have hsecond := hsums.second p (by simpa only [hd, Throughput.budgets] using hpix)
  rw [laneAt_eq_getElem _ hp8] at hfirst hsecond
  simp only [hadvance, hlead, hd] at hfirst hsecond
  rw [laneAt_eq_getElem _ hp8, planeValue, pixelValue, if_neg hwide]
  simp only [hs.pixel_lane, hd, Throughput.merge, Vector.getElem_ofFn]
  rw [← hfirst, ← hsecond]
  rfl

/-- After the last kernel row, the merged sums are the pixels. -/
theorem GroupSums.merge (hs : s.Of l.fieldSize l.stride) (hp : pixels ≤ s.groupSize)
    {sums : PartialSums α} (hsums : GroupSums l s x kernels at_ r fetch pixels l.fieldSize sums)
    {p : Nat} (hpix : p < pixels) :
    laneAt (s.throughput.merge sums) p =
      l.planeValue x kernels at_ r (fetch * s.groupSize + p) := by
  cases hd : s.throughput with
  | double => exact hd ▸ hsums.merge_double hs hp hd hpix
  | single => exact hd ▸ hsums.merge_single hs hp hd hpix

/-! ## The window of a kernel row -/

/-- A vector that holds columns of a row is fetched with the lanes of the row. -/
theorem vector_yields {g : Nat} (haligned : l.frame.rowLanes % vectorLanes = 0)
    (hx : l.frame.Holds images activations x) (hi : image < images) (hc : chan < l.frame.height)
    (hr : row < l.frame.rows) (hg : g < l.vectorsPerRow) :
    Yields (Buffer.fetch activations (Tensor.position l.frame image chan row 0 + g * vectorLanes))
      fun v => ∀ m < vectorLanes,
        laneAt v m = l.frameLane x image chan row (g * vectorLanes + m) := by
  have hend : (g + 1) * vectorLanes ≤ l.frame.rowLanes :=
    Nat.le_trans (Nat.mul_le_mul_right _ hg) (l.frame.vectors_le_rowLanes haligned)
  have hvectors : (g + 1) * vectorLanes ≤ vectorLanes * l.vectorsPerRow :=
    Nat.mul_comm l.vectorsPerRow _ ▸ Nat.mul_le_mul_right _ hg
  rw [Nat.succ_mul] at hend hvectors
  refine (fetch_row hx hi hc hr hend).mono fun v hv m hm => ?_
  rw [frameLane, if_pos (by omega), laneAt, hv m hm]
  rfl

/-- Behind the last vector of a row the lanes are zero. -/
theorem frameLane_end {q : Nat} (hq : l.vectorsPerRow * vectorLanes ≤ q) :
    l.frameLane x image chan row q = 0 := by
  rw [frameLane, if_neg (by rw [Nat.mul_comm]; omega)]

theorem laneAt_window {g : Nat} {front back : LaneVector α}
    (hfront : ∀ m < vectorLanes,
      laneAt front m = l.frameLane x image chan row (g * vectorLanes + m))
    (hback : ∀ m < vectorLanes,
      laneAt back m = l.frameLane x image chan row ((g + 1) * vectorLanes + m))
    {m : Nat} (hm : m < windowLanes) :
    laneAt (Window.ofUnits front back) m =
      l.frameLane x image chan row (g * vectorLanes + m) := by
  have hlanes : windowLanes = vectorLanes + vectorLanes := rfl
  rw [laneAt_ofUnits]
  split
  · next hlt => exact hfront m hlt
  · next hge =>
    rw [hback (m - vectorLanes) (by omega), Nat.succ_mul, Nat.add_assoc,
      Nat.add_sub_cancel' (Nat.le_of_not_lt hge)]

/-! ## All kernel rows -/

/-- The pipes leave the values of its pixels in the lanes of a group. -/
theorem groupPixels_yields (h : l.Slides) (hs : s.Of l.fieldSize l.stride)
    (haligned : l.frame.rowLanes % vectorLanes = 0) (hx : l.frame.Holds images activations x)
    (hi : at_.image < images) (hc : at_.channel < l.frame.height)
    (hk : (at_.kernel + 1) * l.weights.size ≤ kernels.size) (hr : r < l.outputs.rows) {g : Nat}
    (hg : g < l.groupCount) :
    Yields (l.groupPixels s at_ activations kernels r (s.groupAt l.outputs.cols g)) fun v =>
      ∀ p < (s.groupAt l.outputs.cols g).pixels,
        laneAt v p = l.planeValue x kernels at_ r (g * s.groupSize + p) := by
  obtain ⟨hfetch, hlast⟩ := l.group_fetch hg
  have hpixels : (s.groupAt l.outputs.cols g).pixels ≤ s.groupSize := Nat.min_le_left ..
  unfold groupPixels
  refine Yields.bind (Yields.foldlM_range
    (I := fun rows => GroupSums l s x kernels at_ r g (s.groupAt l.outputs.cols g).pixels rows)
    (fun i hik sums hsums => ?_) GroupSums.zero) fun sums hsums => ?_
  · rw [hs.width_eq] at hik
    have hrow : r * s.stride + i < l.frame.rows := by
      have := window_le_extent h.field_le_rows (h.outputs_rows ▸ hr)
      rw [hs.stride_eq]
      omega
    rw [hs.width_eq]
    refine (vector_yields haligned hx hi hc hrow hfetch).bind fun front hfront => ?_
    -- The same row of taps meets the window, whether its second half was fetched or is the end of the row.
    have hrow_sums (back : LaneVector α)
        (hback : ∀ m < vectorLanes, laneAt back m =
          l.frameLane x at_.image at_.channel (r * s.stride + i) ((g + 1) * vectorLanes + m)) :=
      (taps_row h hc hk hik).bind fun taps htaps =>
        (hsums.accumulate hs hpixels htaps fun m hm => by
          rw [← hs.stride_eq]; exact laneAt_window hfront hback hm).bind fun q hq => Yields.ok hq
    split
    · next hend =>
      -- The suppressed fetch: the lanes behind the last vector are zero in the closed form as well.
      refine hrow_sums LaneVector.zero fun m hm => ?_
      rw [frameLane_end (by rw [hlast.1 hend]; omega)]
      simp [laneAt, LaneVector.zero, hm]
    · next hend =>
      have hnext : g + 1 < l.vectorsPerRow :=
        Nat.lt_of_le_of_ne hfetch (mt hlast.2 hend)
      exact (vector_yields haligned hx hi hc hrow hnext).bind hrow_sums
  · rw [hs.width_eq] at hsums
    exact Yields.ok fun p hp => GroupSums.merge hs hpixels hsums hp

end Layer

end ForwardPass

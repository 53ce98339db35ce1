import ForwardPass.Convolution.Plane
import ForwardPass.Proofs.Layer.Construction

/-!
# The groups of a row

At every width and stride a fetched vector makes `groupSize` output pixels, or as many as are left.
The groups of a row therefore start `groupSize` columns apart, each with at least one pixel, and the
column counter starts over after the last of them only.
-/

namespace ForwardPass

/-- How many pixels one step of the pipes adds to. -/
def Throughput.perStep : Throughput → Nat
  | .double => 2
  | .single => 1

/-- Where the second pipe starts: one pixel on, or one half of the weights on. -/
def Throughput.lead (t : Throughput) (stride : Nat) : Nat :=
  match t with
  | .double => stride
  | .single => pipeLanes

/-- The budgets that make this many pixels. -/
def Throughput.budgets (t : Throughput) (pixels : Nat) : Budgets :=
  match t with
  | .double => ⟨(pixels + 1) / 2, pixels / 2⟩
  | .single => ⟨pixels, pixels⟩

theorem Throughput.budgets_fit (t : Throughput) {pixels : Nat} (h : pixels ≤ vectorLanes) :
    (t.budgets pixels).Fit := by
  cases t with
  | double =>
    simp only [Budgets.Fit, budgets, vectorLanes] at h ⊢
    omega
  | single =>
    simp only [Budgets.Fit, budgets]
    omega

namespace Schedule

/-- How many neighbouring output pixels come from one fetched vector. -/
def groupSize (s : Schedule) : Nat := vectorLanes / s.stride

/-- The group that starts from vector `fetch` of a row with `cols` output pixels. -/
def groupAt (s : Schedule) (cols fetch : Nat) : PixelGroup :=
  let pixels := min s.groupSize (cols - fetch * s.groupSize)
  ⟨fetch, fetch * s.groupSize, s.throughput.budgets pixels, pixels⟩

/-! ## Schedules of a kernel -/

/-- The schedule of a kernel of this width at this stride. -/
structure Of (s : Schedule) (width stride : Nat) : Prop where
  stride_eq : s.stride = stride
  width_eq : s.kernelWidth = width
  throughput_eq : s.throughput = .ofKernel width
  /-- The pixels of a group use up one vector. -/
  groupSize_mul : s.groupSize * stride = vectorLanes
  /-- They are as many as the registers hold sums for. -/
  maxSums_mul : s.maxSums * s.throughput.perStep = s.groupSize
  lead_eq : s.lead = s.throughput.lead stride
  advance_eq : s.advance = s.throughput.perStep * stride

theorem exists_ofKernel {width stride : Nat} (hw : width ≤ vectorLanes)
    (hs : stride = 1 ∨ stride = 2 ∨ stride = 4) :
    ∃ s, ofKernel width stride = .ok s ∧ s.Of width stride := by
  unfold ofKernel
  rw [if_neg (Nat.not_lt.2 hw)]
  cases ht : Throughput.ofKernel width <;> rcases hs with rfl | rfl | rfl <;>
    (refine ⟨_, rfl, rfl, rfl, ht.symm, ?_, ?_, rfl, rfl⟩ <;>
      simp [groupSize, Throughput.perStep, vectorLanes, pipeLanes])

/-- A kernel that is wider than a vector has no schedule, whatever its stride. -/
theorem ofKernel_of_wide {width stride : Nat} (hw : vectorLanes < width) :
    ofKernel width stride = .error (.kernelTooWide width) := if_pos hw

variable {s : Schedule} {width stride : Nat}

theorem Of.groupSize_pos (h : s.Of width stride) : 0 < s.groupSize :=
  Nat.pos_of_ne_zero fun h0 => by
    have := h.groupSize_mul
    rw [h0, Nat.zero_mul] at this
    exact absurd this (by decide)

theorem Of.stride_pos (h : s.Of width stride) : 0 < stride :=
  Nat.pos_of_ne_zero fun h0 => by
    have := h.groupSize_mul
    rw [h0, Nat.mul_zero] at this
    exact absurd this (by decide)

theorem Of.groupSize_le (h : s.Of width stride) : s.groupSize ≤ vectorLanes :=
  h.groupSize_mul ▸ Nat.le_mul_of_pos_right _ h.stride_pos

/-- Pixel `p` of a group starts `p` strides behind the group's vector. -/
theorem Of.pixel_lane (h : s.Of width stride) (fetch p j : Nat) :
    (fetch * s.groupSize + p) * stride + j = fetch * vectorLanes + (p * stride + j) := by
  rw [Nat.add_mul, Nat.mul_assoc, h.groupSize_mul, Nat.add_assoc]

theorem Of.throughput_eq_double_iff (h : s.Of width stride) :
    s.throughput = .double ↔ width < pipeLanes := by
  rw [h.throughput_eq, Throughput.ofKernel]
  split <;> simp [*]

theorem Of.split_eq (h : s.Of width stride) (remaining : Nat) :
    s.split remaining =
      (s.throughput.budgets (min s.groupSize remaining), min s.groupSize remaining) := by
  have hsums := h.maxSums_mul
  unfold split Throughput.budgets
  cases ht : s.throughput with
  | double =>
    simp only [ht, Throughput.perStep] at hsums
    simp only [Prod.mk.injEq, Budgets.mk.injEq]
    omega
  | single =>
    simp only [ht, Throughput.perStep, Nat.mul_one] at hsums
    simp only [hsums]

/-- The groups for `count` vectors, as long as the last of them still starts within the row. -/
theorem Of.groups_eq (h : s.Of width stride) (cols count fetch : Nat)
    (hlast : ∀ g, g < count → (fetch + g) * s.groupSize < cols) :
    s.groups cols count fetch (fetch * s.groupSize) =
      (List.range' fetch count).map (s.groupAt cols) := by
  induction count generalizing fetch with
  | zero => rfl
  | succ count ih =>
    rw [groups, h.split_eq, List.range'_succ, List.map_cons]
    dsimp only
    congr 1
    -- The column counter starts over behind a row, so the hypothesis is needed for every group but the last.
    cases count with
    | zero => rfl
    | succ count =>
      have hnext : (fetch + 1) * s.groupSize < cols := hlast 1 (by omega)
      have hsum : (fetch + 1) * s.groupSize = fetch * s.groupSize + s.groupSize := Nat.succ_mul ..
      have hcolumn : fetch * s.groupSize + min s.groupSize (cols - fetch * s.groupSize) =
          (fetch + 1) * s.groupSize := by omega
      rw [hcolumn, if_neg (Nat.not_le.2 hnext)]
      refine ih (fetch + 1) fun g hg => ?_
      rw [Nat.add_assoc, Nat.add_comm 1 g]
      exact hlast (g + 1) (by omega)

end Schedule

/-! ## Rows of a layer -/

namespace Layer

/-- How many groups a row has. -/
def groupCount (l : Layer) : Nat :=
  if l.hasLastGroup then l.vectorsPerRow else l.vectorsPerRow - 1

theorem groupCount_eq (l : Layer) :
    l.groupCount = if (l.vectorsPerRow - 1) * vectorLanes < l.outputs.cols * l.stride
      then l.vectorsPerRow else l.vectorsPerRow - 1 := by
  simp [groupCount, hasLastGroup]

variable {l : Layer} {width : Nat}

/-- A kernel of this width slides over the columns of the frame, with an output column for each of its places. -/
structure SlidesAcross (l : Layer) (width : Nat) : Prop where
  stride : l.stride = 1 ∨ l.stride = 2 ∨ l.stride = 4
  pos : 0 < width
  le_cols : width ≤ l.frame.cols
  outputs_cols : l.outputs.cols = (l.frame.cols - width) / l.stride + 1

theorem Slides.across (h : l.Slides) : l.SlidesAcross l.fieldSize :=
  ⟨h.stride, h.field_pos, h.field_le_cols, h.outputs_cols⟩

/-- Every group has a pixel to make. -/
theorem SlidesAcross.group_starts (h : l.SlidesAcross width) (hk : width ≤ vectorLanes) {g : Nat}
    (hg : g < l.groupCount) : g * (vectorLanes / l.stride) < l.outputs.cols := by
  have hcols := h.outputs_cols
  have hpos := h.pos
  have hle := h.le_cols
  rw [l.groupCount_eq] at hg
  unfold vectorsPerRow at hg
  -- With the stride known, all divisions are by numerals.
  rcases h.stride with hs | hs | hs <;>
    (rw [hs] at hcols hg ⊢; simp only [vectorLanes] at hk hg ⊢; split at hg <;> omega)

/-- Every pixel has a group to make it. -/
theorem SlidesAcross.exists_group (h : l.SlidesAcross width) {c : Nat} (hc : c < l.outputs.cols) :
    c / (vectorLanes / l.stride) < l.groupCount := by
  have hcols := h.outputs_cols
  have hpos := h.pos
  have hle := h.le_cols
  rw [l.groupCount_eq]
  unfold vectorsPerRow
  rcases h.stride with hs | hs | hs <;>
    (rw [hs] at hcols ⊢; simp only [vectorLanes]; split <;> omega)

/-- A group reads within the vectors of its row, and the one that has no neighbour to its right is the
group that does not fetch it. -/
theorem group_fetch (l : Layer) {g : Nat} (hg : g < l.groupCount) :
    g < l.vectorsPerRow ∧
      ((l.hasLastGroup && g = l.vectorsPerRow - 1) = true ↔ g + 1 = l.vectorsPerRow) := by
  unfold groupCount at hg
  cases hb : l.hasLastGroup with
  | true =>
    simp only [hb, if_true] at hg
    simp only [Bool.true_and, decide_eq_true_eq]
    omega
  | false =>
    simp only [hb, Bool.false_eq_true, if_false] at hg
    simp only [Bool.false_and, Bool.false_eq_true, false_iff]
    omega

theorem SlidesAcross.column_lt (h : l.SlidesAcross width) {s : Schedule}
    (hs : s.Of width l.stride) (hk : width ≤ vectorLanes) {g : Nat}
    (hg : g < l.groupCount) : g * s.groupSize < l.outputs.cols := by
  rw [Schedule.groupSize, hs.stride_eq]
  exact h.group_starts hk hg

/-- The groups of a row, by the vector each starts from. -/
theorem SlidesAcross.rowGroups_eq (h : l.SlidesAcross width) {s : Schedule}
    (hs : s.Of width l.stride) (hk : width ≤ vectorLanes) :
    l.rowGroups s = (List.range l.groupCount).map (s.groupAt l.outputs.cols) := by
  have hstart := hs.groups_eq l.outputs.cols l.groupCount 0 fun g hg => by
    rw [Nat.zero_add]
    exact h.column_lt hs hk hg
  rw [Nat.zero_mul] at hstart
  rw [List.range_eq_range']
  exact hstart

end Layer

end ForwardPass

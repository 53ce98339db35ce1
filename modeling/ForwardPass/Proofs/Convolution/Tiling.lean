import ForwardPass.Tensor
import ForwardPass.Proofs.Convolution.Schedule
import ForwardPass.Proofs.Register
import ForwardPass.Proofs.Buffer

/-!
# The groups of a row tile it

Wherever a kernel slides over the columns of a frame, the groups of an output row lie side by side: one
behind the other they are its columns, none of them twice, and no group is empty. `fetches` names the
vectors of an input row that a group is computed from: two neighbouring ones, or the last one by itself.
-/

namespace ForwardPass

/-- The columns of the output row that a group writes. -/
def PixelGroup.columns (group : PixelGroup) : List Nat := List.range' group.column group.pixels

/-- Blocks of `size` columns, the last of them cut off at the end of the row, are the columns they
reach. -/
theorem flatMap_blocks {size cols count : Nat} (h : ∀ g < count, g * size < cols) :
    (List.range count).flatMap (fun g => List.range' (g * size) (min size (cols - g * size))) =
      List.range (min (count * size) cols) := by
  induction count with
  | zero => simp
  | succ count ih =>
    have hstart : count * size < cols := h count (Nat.lt_succ_self count)
    have hend : count * size + min size (cols - count * size) = min ((count + 1) * size) cols := by
      rw [Nat.succ_mul]
      omega
    rw [List.range_succ, List.flatMap_append, ih fun g hg => h g (Nat.lt_succ_of_lt hg),
      Nat.min_eq_left (Nat.le_of_lt hstart), List.range_eq_range', List.flatMap_singleton]
    have happend := List.range'_append_1 (s := 0) (m := count * size) (n := min size (cols - count * size))
    rw [Nat.zero_add, hend] at happend
    rw [happend, List.range_eq_range']

namespace Layer

variable {α : Type} [Scalar α] {l : Layer} {s : Schedule} {width g : Nat}

/-! ## What a group loads -/

/-- The vectors of an input row that a group is computed from. -/
def fetches (l : Layer) (group : PixelGroup) : List Nat :=
  if l.hasLastGroup && group.fetch = l.vectorsPerRow - 1 then [group.fetch]
  else [group.fetch, group.fetch + 1]

/-- The window of a group in the input row that starts at `start`: its vectors one behind the other, with
zeros for one that is not loaded. -/
def loadWindow (l : Layer) (activations : Array α) (start : Nat) (group : PixelGroup) :
    Except Failure (Window α) := do
  let units ← (l.fetches group).mapM fun v => Buffer.fetch activations (start + v * vectorLanes)
  return Window.ofUnits (units.getD 0 LaneVector.zero) (units.getD 1 LaneVector.zero)

/-- The output pixels of a group whose windows come from elsewhere. -/
def pixelsOfWindows (l : Layer) (s : Schedule) (at_ : PlaneIndex) (kernels : Array α)
    (window : Nat → Except Failure (Window α)) (budgets : Budgets) : Except Failure (LaneVector α) := do
  let sums ← (List.range s.kernelWidth).foldlM (fun sums kernelRow => do
    let window ← window kernelRow
    let taps ← Buffer.slice kernels
      (at_.kernel * l.weights.size + l.weights.offset at_.channel kernelRow 0) s.kernelWidth
    let pipes : Pipes α := ⟨window, Window.shift window s.lead, sums⟩
    let pipes ← pipes.accumulate (tapLanes s taps.toList) s.advance budgets
    return pipes.sums) PartialSums.zero
  return s.throughput.merge sums

/-- Of the activations, a group reads its windows and nothing else. -/
theorem groupPixels_eq_pixelsOfWindows (l : Layer) (s : Schedule) (at_ : PlaneIndex)
    (activations kernels : Array α) (r : Nat) (group : PixelGroup) :
    l.groupPixels s at_ activations kernels r group =
      l.pixelsOfWindows s at_ kernels (fun kernelRow => l.loadWindow activations
        (Tensor.position l.frame at_.image at_.channel (r * s.stride + kernelRow) 0) group) group.budgets := by
  unfold groupPixels pixelsOfWindows loadWindow fetches
  simp only [Window.shiftInPlace_eq]
  congr 2
  funext sums kernelRow
  -- The two branches of the loading are the two lists of vectors.
  split
  · simp [Tensor.position]
  · simp [Tensor.position]

/-! ## What a group writes -/

/-- A row takes the pixels of a group into the columns of the group and into no others. -/
theorem put_columns {group : PixelGroup} (hfit : group.pixels ≤ vectorLanes) {row : Nat}
    {pixels : LaneVector α} {before after : Array α}
    (h : Buffer.put before (row + group.column) (pixels.toList.take group.pixels) = .ok after) :
    Buffer.Written before (fun i => ∃ c ∈ group.columns, i = row + c)
      (fun i => laneAt pixels (i - (row + group.column))) after := by
  rw [take_toList_eq_map pixels hfit] at h
  unfold Buffer.put at h
  split at h
  · next hin =>
    cases h
    refine (Buffer.Written.store hin fun j hj => ?_).congr fun i => ?_
    · rw [List.length_map, List.length_range] at hj
      rw [List.getElem?_map, List.getElem?_range hj, Option.map_some, Nat.add_sub_cancel_left]
    · simp only [List.length_map, List.length_range, PixelGroup.columns, List.mem_range'_1]
      constructor
      · intro hi
        exact ⟨i - row, by omega, by omega⟩
      · rintro ⟨c, hc, rfl⟩
        omega
  · cases h

/-! ## Tiles -/

/-- Group `g` of a row of `count` groups. -/
structure Tile (l : Layer) (count g : Nat) (group : PixelGroup) : Prop where
  fetch_eq : group.fetch = g
  column_eq : group.column = g * (vectorLanes / l.stride)
  end_eq : group.column + group.pixels = min ((g + 1) * (vectorLanes / l.stride)) l.outputs.cols
  pixels_pos : 1 ≤ group.pixels
  pixels_le : group.pixels ≤ vectorLanes
  budgets : group.budgets.Fit
  /-- The column counter starts over behind the last group. -/
  complete_iff : l.outputs.cols ≤ group.column + group.pixels ↔ g + 1 = count
  fetches_le : ∀ v ∈ l.fetches group, (v + 1) * vectorLanes ≤ vectorLanes * l.vectorsPerRow
  /-- The second vector is left out behind the last vector of the row. -/
  fetches_alone_iff : l.fetches group = [group.fetch] ↔ group.fetch + 1 = l.vectorsPerRow

theorem fetches_groupAt (hg : g < l.groupCount) :
    l.fetches (s.groupAt l.outputs.cols g) = if g + 1 = l.vectorsPerRow then [g] else [g, g + 1] :=
  ite_congr (propext (l.group_fetch hg).2) (fun _ => rfl) fun _ => rfl

/-- The groups of a row are those that start within it. -/
theorem SlidesAcross.column_lt_iff (h : l.SlidesAcross width) (hs : s.Of width l.stride)
    (hk : width ≤ vectorLanes) : g * s.groupSize < l.outputs.cols ↔ g < l.groupCount := by
  constructor
  · intro hstart
    have hgroup : g * s.groupSize / (vectorLanes / l.stride) < l.groupCount := h.exists_group hstart
    rw [← hs.stride_eq] at hgroup
    exact Nat.mul_div_cancel g hs.groupSize_pos ▸ hgroup
  · exact h.column_lt hs hk

theorem SlidesAcross.tile (h : l.SlidesAcross width) (hs : s.Of width l.stride) (hk : width ≤ vectorLanes)
    (hg : g < l.groupCount) : l.Tile l.groupCount g (s.groupAt l.outputs.cols g) where
  fetch_eq := rfl
  column_eq := by simp only [Schedule.groupAt, Schedule.groupSize, hs.stride_eq]
  end_eq := by
    have hstart := h.column_lt hs hk hg
    rw [← hs.stride_eq]
    simp only [Schedule.groupAt, Nat.succ_mul]
    unfold Schedule.groupSize at hstart ⊢
    omega
  pixels_pos := by
    have hstart := h.column_lt hs hk hg
    have hsize := hs.groupSize_pos
    simp only [Schedule.groupAt]
    omega
  pixels_le := Nat.le_trans (Nat.min_le_left ..) hs.groupSize_le
  budgets := s.throughput.budgets_fit (Nat.le_trans (Nat.min_le_left ..) hs.groupSize_le)
  complete_iff := by
    have hstart := h.column_lt hs hk hg
    have hnext := h.column_lt_iff (g := g + 1) hs hk
    simp only [Schedule.groupAt]
    rw [Nat.succ_mul] at hnext
    omega
  fetches_le v hv := by
    have hfetch := (l.group_fetch hg).1
    rw [fetches_groupAt hg] at hv
    rw [Nat.mul_comm vectorLanes]
    refine Nat.mul_le_mul_right _ ?_
    split at hv
    · rw [List.mem_singleton] at hv
      omega
    · simp only [List.mem_cons, List.not_mem_nil, or_false] at hv
      omega
  fetches_alone_iff := by
    rw [fetches_groupAt hg]
    simp only [Schedule.groupAt]
    split <;> simp [*]

/-- The groups of a row are its columns, one behind the other. -/
theorem SlidesAcross.flatMap_columns (h : l.SlidesAcross width) (hs : s.Of width l.stride)
    (hk : width ≤ vectorLanes) :
    (l.rowGroups s).flatMap PixelGroup.columns = List.range l.outputs.cols := by
  have hreach : l.outputs.cols ≤ l.groupCount * s.groupSize :=
    Nat.le_of_not_lt fun hshort => Nat.lt_irrefl _ ((h.column_lt_iff hs hk).1 hshort)
  rw [h.rowGroups_eq hs hk, List.flatMap_map]
  exact (flatMap_blocks fun g hg => h.column_lt hs hk hg).trans (by rw [Nat.min_eq_right hreach])

/-- What a group does to the buffers: of every input row it reads the vectors that it fetches, and in the
output row it writes its columns. -/
structure Accesses (α : Type) [Scalar α] (l : Layer) (s : Schedule) (group : PixelGroup) : Prop where
  reads : ∀ (at_ : PlaneIndex) (activations kernels : Array α) (r : Nat),
    l.groupPixels s at_ activations kernels r group =
      l.pixelsOfWindows s at_ kernels (fun kernelRow => l.loadWindow activations
        (Tensor.position l.frame at_.image at_.channel (r * s.stride + kernelRow) 0) group) group.budgets
  writes : ∀ (row : Nat) (pixels : LaneVector α) (before after : Array α),
    Buffer.put before (row + group.column) (pixels.toList.take group.pixels) = .ok after →
      Buffer.Written before (fun i => ∃ c ∈ group.columns, i = row + c)
        (fun i => laneAt pixels (i - (row + group.column))) after

/-- The groups of an output row tile it. Each of them but the last makes as many pixels as a vector has
places for, and the last one what is left, which is at least one pixel. -/
theorem rowGroups_tile (α : Type) [Scalar α] {l : Layer} {width : Nat} (hpos : 1 ≤ width)
    (hwidth : width ≤ vectorLanes) (hstride : l.stride = 1 ∨ l.stride = 2 ∨ l.stride = 4)
    (hcols : width ≤ l.frame.cols) (houtputs : l.outputs.cols = (l.frame.cols - width) / l.stride + 1) :
    ∃ s, Schedule.ofKernel width l.stride = .ok s ∧
      (∀ remaining, (s.split remaining).2 = min remaining (vectorLanes / l.stride)) ∧
      (∀ g group, (l.rowGroups s)[g]? = some group →
        l.Tile (l.rowGroups s).length g group ∧ l.Accesses α s group) ∧
      (l.rowGroups s).flatMap PixelGroup.columns = List.range l.outputs.cols := by
  have h : l.SlidesAcross width := ⟨hstride, hpos, hcols, houtputs⟩
  obtain ⟨s, hs, hof⟩ := Schedule.exists_ofKernel hwidth hstride
  refine ⟨s, hs, fun remaining => ?_, fun g group hgroup => ?_, h.flatMap_columns hof hwidth⟩
  · rw [hof.split_eq, Schedule.groupSize, hof.stride_eq, Nat.min_comm]
  · rw [h.rowGroups_eq hof hwidth, List.getElem?_map, Option.map_eq_some_iff] at hgroup
    obtain ⟨g', hg', rfl⟩ := hgroup
    obtain ⟨hg, hvalue⟩ := List.getElem?_eq_some_iff.1 hg'
    obtain rfl : g = g' := (List.getElem_range hg).symm.trans hvalue
    rw [List.length_range] at hg
    have htile := h.tile hof hwidth hg
    rw [h.rowGroups_eq hof hwidth, List.length_map, List.length_range]
    exact ⟨htile, fun at_ activations kernels r => l.groupPixels_eq_pixelsOfWindows s at_ activations kernels r _,
      fun row pixels before after hput => put_columns htile.pixels_le hput⟩

/-- Eleven output columns from thirteen input columns, in two groups. -/
def twoGroups : Layer where
  name := "row"
  kind := .convolution
  inputs := ⟨3, 13, 1, 3⟩
  outputs := ⟨1, 11, 1, 5⟩
  weights := ⟨3, 3, 1, 5⟩
  fieldSize := 3
  stride := 1
  border := 0
  activation := .identity
  pooling := .none

/-- The second group has three pixels to make, of which the odd one falls to the first pipe, and no vector
behind its own. -/
theorem rowGroups_tile_two :
    1 ≤ 3 ∧ 3 ≤ vectorLanes ∧ (twoGroups.stride = 1 ∨ twoGroups.stride = 2 ∨ twoGroups.stride = 4) ∧
      3 ≤ twoGroups.frame.cols ∧ twoGroups.outputs.cols = (twoGroups.frame.cols - 3) / twoGroups.stride + 1 ∧
      ∃ s, Schedule.ofKernel 3 twoGroups.stride = .ok s ∧
        twoGroups.rowGroups s = [⟨0, 0, ⟨4, 4⟩, 8⟩, ⟨1, 8, ⟨2, 1⟩, 3⟩] ∧
        twoGroups.Tile 2 1 ⟨1, 8, ⟨2, 1⟩, 3⟩ ∧ twoGroups.fetches ⟨1, 8, ⟨2, 1⟩, 3⟩ = [1] ∧
        (twoGroups.rowGroups s).flatMap PixelGroup.columns = List.range 11 := by
  have hstride : twoGroups.stride = 1 ∨ twoGroups.stride = 2 ∨ twoGroups.stride = 4 := .inl rfl
  obtain ⟨s, hs, -, htiles, hcover⟩ := @rowGroups_tile Float32 _ twoGroups 3 (by decide) (by decide) hstride
    (by decide) (by decide)
  cases hs
  exact ⟨by decide, by decide, hstride, by decide, by decide, _, rfl, rfl, (htiles 1 _ rfl).1, rfl, hcover⟩

end Layer

end ForwardPass

import ForwardPass.Proofs.Exact
import ForwardPass.Proofs.Layout

/-!
# Dense and padded

A tensor lists its logical values by image, channel, row and column, and stores them with pad lanes behind
each row. `fill_written` and `getElem?_toDense` tie the two to the coordinates, one for the way in and one for
the way out. From the list the stored data comes back exactly when its pad lanes are zero.
-/

namespace ForwardPass

variable {α : Type}

/-! ## Blocks of one length -/

/-- Two nested loops over blocks are one loop. -/
theorem flatMap_range_mul {β : Type} (a b : Nat) (f : Nat → List β) :
    ((List.range a).flatMap fun i => (List.range b).flatMap fun j => f (i * b + j)) =
      (List.range (a * b)).flatMap f := by
  induction a with
  | zero => rw [Nat.zero_mul]; rfl
  | succ a ih =>
    rw [List.range_succ, List.flatMap_append, ih, Nat.succ_mul, List.range_add, List.flatMap_append,
      List.flatMap_map, List.flatMap_singleton]

/-- The elements of a block come behind those of all blocks before it. -/
theorem getElem?_flatMap_range {β : Type} {f : Nat → List β} {count size i j : Nat}
    (hf : ∀ i < count, (f i).length = size) (hi : i < count) (hj : j < size) :
    ((List.range count).flatMap f)[i * size + j]? = (f i)[j]? := by
  induction count with
  | zero => cases hi
  | succ count ih =>
    have hlength : ((List.range count).flatMap f).length = count * size := by
      rw [List.length_flatMap, List.map_congr_left fun i hi =>
        hf i (Nat.lt_succ_of_lt (List.mem_range.1 hi)), List.map_const', List.sum_replicate_nat,
        List.length_range]
    rw [List.range_succ, List.flatMap_append, List.flatMap_singleton]
    rcases Nat.lt_succ_iff_lt_or_eq.1 hi with hlt | rfl
    · have hend := Buffer.piece_end_le hlt (Nat.le_refl (count * size))
      rw [List.getElem?_append_left (by omega)]
      exact ih (fun i hi => hf i (Nat.lt_succ_of_lt hi)) hlt
    · rw [List.getElem?_append_right (by omega), hlength, Nat.add_sub_cancel_left]

namespace Shape

/-! ## The order of the logical elements -/

/-- Where element `[image][chan][row][col]` comes among the logical elements. -/
def logicalIndex (s : Shape) (image chan row col : Nat) : Nat :=
  ((image * s.height + chan) * s.rows + row) * s.cols + col

/-- The logical elements come as they are stored where there are no pad lanes. -/
theorem logicalIndex_eq_position (s : Shape) (image chan row col : Nat) :
    s.logicalIndex image chan row col = Tensor.position { s with pad := 0 } image chan row col :=
  (position_eq_offset { s with pad := 0 } image chan row col).symm

/-- Without pad lanes an image takes as much as it has logical elements. -/
theorem size_unpadded (s : Shape) : ({ s with pad := 0 } : Shape).size = s.logicalSize :=
  (Nat.mul_assoc ..).symm

theorem logicalIndex_lt (s : Shape) {images image chan row col : Nat} (hi : image < images)
    (hc : chan < s.height) (hr : row < s.rows) (hl : col < s.cols) :
    s.logicalIndex image chan row col < images * s.logicalSize := by
  rw [logicalIndex_eq_position, ← size_unpadded]
  exact position_lt { s with pad := 0 } hi hc hr hl

theorem exists_logicalIndex (s : Shape) {images i : Nat} (h : i < images * s.logicalSize) :
    ∃ image chan row col, image < images ∧ chan < s.height ∧ row < s.rows ∧ col < s.cols ∧
      i = s.logicalIndex image chan row col := by
  rw [← size_unpadded] at h
  obtain ⟨image, chan, row, col, hi, hc, hr, hl, rfl⟩ := exists_position { s with pad := 0 } h
  exact ⟨image, chan, row, col, hi, hc, hr, hl, (s.logicalIndex_eq_position ..).symm⟩

/-- No two elements are stored at one position. -/
theorem position_inj (s : Shape) {image image' chan chan' row row' col col' : Nat} (hc : chan < s.height)
    (hr : row < s.rows) (hl : col < s.rowLanes) (hc' : chan' < s.height) (hr' : row' < s.rows)
    (hl' : col' < s.rowLanes)
    (h : Tensor.position s image' chan' row' col' = Tensor.position s image chan row col) :
    (image', chan', row', col') = (image, chan, row, col) := by
  -- What is read back at the position is both.
  let x : Batch (Nat × Nat × Nat × Nat) := fun image chan row col => (image, chan, row, col)
  calc (image', chan', row', col') = s.flat x (Tensor.position s image' chan' row' col') :=
        (s.flat_position x hc' hr' hl').symm
    _ = s.flat x (Tensor.position s image chan row col) := by rw [h]
    _ = (image, chan, row, col) := s.flat_position x hc hr hl

end Shape

namespace Tensor

/-! ## Positions of the logical elements -/

theorem mem_positions {s : Shape} {batch i : Nat} :
    i ∈ positions s batch ↔ ∃ image chan row col, image < batch ∧ chan < s.height ∧ row < s.rows ∧
      col < s.cols ∧ i = position s image chan row col := by
  simp only [positions, Shape.logicalOffsets, List.mem_flatMap, List.mem_map, List.mem_range]
  constructor
  · rintro ⟨image, hi, _, ⟨chan, hc, row, hr, col, hl, rfl⟩, rfl⟩
    exact ⟨image, chan, row, col, hi, hc, hr, hl, rfl⟩
  · rintro ⟨image, chan, row, col, hi, hc, hr, hl, rfl⟩
    exact ⟨image, hi, _, ⟨chan, hc, row, hr, col, hl, rfl⟩, rfl⟩

theorem pad_not_mem_positions {s : Shape} {batch image chan row q : Nat} (hcols : s.cols ≤ q)
    (hq : q < s.rowLanes) : position s image chan row q ∉ positions s batch := by
  intro hmem
  obtain ⟨image', chan', row', col, -, -, -, hl, heq⟩ := mem_positions.1 hmem
  rw [Shape.position_eq_offset, Shape.position_eq_offset] at heq
  exact s.offset_pad_ne hcols hq hl heq

/-- The logical elements are stored row by row, each row as long as its columns and its pads. -/
theorem positions_eq (s : Shape) (batch : Nat) :
    positions s batch = (List.range (batch * s.height * s.rows)).flatMap fun line =>
      (List.range s.cols).map fun col => line * s.rowLanes + col := by
  have hposition : ∀ image chan row col, image * s.size + s.offset chan row col =
      ((image * s.height + chan) * s.rows + row) * s.rowLanes + col := s.position_eq_offset
  rw [← flatMap_range_mul, ← flatMap_range_mul]
  simp only [positions, Shape.logicalOffsets, List.map_flatMap, List.map_map, Function.comp_def, hposition]

theorem length_positions (s : Shape) (batch : Nat) :
    (positions s batch).length = batch * s.logicalSize := by
  simp only [positions, List.length_map, List.length_flatMap, Shape.logicalOffsets_eq,
    Shape.length_coordinates, List.map_const', List.sum_replicate_nat, List.length_range]

theorem getElem?_positions {s : Shape} {batch image chan row col : Nat} (hi : image < batch)
    (hc : chan < s.height) (hr : row < s.rows) (hl : col < s.cols) :
    (positions s batch)[s.logicalIndex image chan row col]? = some (position s image chan row col) := by
  have hline : (image * s.height + chan) * s.rows + row < batch * s.height * s.rows :=
    Shape.plane_lt (Shape.plane_lt hi hc) hr
  rw [positions_eq, Shape.logicalIndex, getElem?_flatMap_range (fun _ _ => by simp) hline hl,
    List.getElem?_map, List.getElem?_range hl, Shape.position_eq_offset]
  rfl

/-! ## Elements by their coordinates -/

section Elements

variable {t u : Tensor α} {image chan row col : Nat}

theorem position_lt_size (t : Tensor α) (hi : image < t.batch) (hc : chan < t.shape.height)
    (hr : row < t.shape.rows) (hl : col < t.shape.rowLanes) :
    position t.shape image chan row col < t.data.size := by
  rw [t.size_data]
  exact t.shape.position_lt hi hc hr hl

theorem isSome_get? (t : Tensor α) (hi : image < t.batch) (hc : chan < t.shape.height)
    (hr : row < t.shape.rows) (hl : col < t.shape.rowLanes) :
    ∃ v, t.get? image chan row col = some v :=
  ⟨_, Array.getElem?_eq_getElem (t.position_lt_size hi hc hr hl)⟩

/-- The stored data is told by its elements, pad lanes included. -/
theorem data_eq_of_get? (hshape : u.shape = t.shape) (hbatch : u.batch = t.batch)
    (h : ∀ image chan row q, image < t.batch → chan < t.shape.height → row < t.shape.rows →
      q < t.shape.rowLanes → u.get? image chan row q = t.get? image chan row q) : u.data = t.data := by
  have hsize : u.data.size = t.data.size := by rw [u.size_data, t.size_data, hshape, hbatch]
  apply Array.ext_getElem?
  intro i
  by_cases hi : i < t.batch * t.shape.size
  · obtain ⟨image, chan, row, q, himage, hc, hr, hq, rfl⟩ := t.shape.exists_position hi
    have hget := h image chan row q himage hc hr hq
    rwa [get?, get?, hshape] at hget
  · rw [← t.size_data] at hi
    rw [Array.getElem?_eq_none (by omega), Array.getElem?_eq_none (by omega)]

/-! ## Assignments -/

/-- What a fill assigns, by coordinates. -/
def filling (s : Shape) (f : Nat → α) : Batch α := fun image chan row col =>
  f (s.logicalIndex image chan row col)

/-- A fill gives each logical element its value and leaves the pad lanes. -/
theorem fill_written (t : Tensor α) (f : Nat → α) :
    Buffer.Written t.data (· ∈ positions t.shape t.batch) (t.shape.flat (filling t.shape f))
      (t.fill f).data := by
  have hstep : ∀ p ∈ (positions t.shape t.batch).zipIdx, ∀ data : Array α,
      data.size = t.batch * t.shape.size →
      Buffer.Written data (· = p.1) (t.shape.flat (filling t.shape f)) (data.setIfInBounds p.1 (f p.2)) := by
    rintro ⟨i, k⟩ hp data hdata
    have hk : (positions t.shape t.batch)[k]? = some i := List.mem_zipIdx_iff_getElem?.1 hp
    obtain ⟨hlt, -⟩ := List.getElem?_eq_some_iff.1 hk
    rw [length_positions] at hlt
    -- The number of an element and its position belong to the same coordinates.
    obtain ⟨image, chan, row, col, hi, hc, hr, hl, rfl⟩ := t.shape.exists_logicalIndex hlt
    rw [getElem?_positions hi hc hr hl] at hk
    cases hk
    have hlanes := Nat.lt_of_lt_of_le hl t.shape.cols_le_rowLanes
    have hwritten := Buffer.Written.setIfInBounds (t.shape.flat (filling t.shape f))
      (hdata ▸ t.shape.position_lt hi hc hr hlanes)
    rwa [t.shape.flat_position _ hc hr hlanes] at hwritten
  refine (Buffer.foldl_written (fun p : Nat × Nat => (· = p.1)) _ hstep t.size_data).congr fun i =>
    ⟨?_, fun hi => ?_⟩
  · rintro ⟨p, hp, rfl⟩
    exact List.mem_of_getElem? (List.mem_zipIdx_iff_getElem?.1 hp)
  · obtain ⟨k, hk⟩ := List.mem_iff_getElem?.1 hi
    exact ⟨(i, k), List.mem_zipIdx_iff_getElem?.2 hk, rfl⟩

theorem get?_fill (t : Tensor α) (f : Nat → α) (hi : image < t.batch) (hc : chan < t.shape.height)
    (hr : row < t.shape.rows) (hl : col < t.shape.cols) :
    (t.fill f).get? image chan row col = some (f (t.shape.logicalIndex image chan row col)) := by
  have hlanes := Nat.lt_of_lt_of_le hl t.shape.cols_le_rowLanes
  have hinside := (t.fill_written f).inside _ (mem_positions.2 ⟨_, _, _, _, hi, hc, hr, hl, rfl⟩)
  rwa [t.shape.flat_position _ hc hr hlanes] at hinside

theorem get?_fill_pad (t : Tensor α) (f : Nat → α) (hcols : t.shape.cols ≤ col)
    (hl : col < t.shape.rowLanes) : (t.fill f).get? image chan row col = t.get? image chan row col :=
  (t.fill_written f).outside _ (pad_not_mem_positions hcols hl)

/-- An element that is stored can be replaced, and nothing else changes. -/
theorem set?_eq_some {t' : Tensor α} {value : α} (h : t.set? image chan row col value = some t') :
    t'.name = t.name ∧ t'.shape = t.shape ∧ t'.batch = t.batch ∧
      Buffer.Written t.data (· = position t.shape image chan row col) (fun _ => value) t'.data := by
  unfold set? write? at h
  split at h
  · next hlt =>
    cases h
    exact ⟨rfl, rfl, rfl, .setIfInBounds (fun _ => value) hlt⟩
  · cases h

theorem exists_set? (t : Tensor α) (value : α) (hi : image < t.batch) (hc : chan < t.shape.height)
    (hr : row < t.shape.rows) (hl : col < t.shape.rowLanes) :
    ∃ t', t.set? image chan row col value = some t' :=
  ⟨_, if_pos (t.position_lt_size hi hc hr hl)⟩

end Elements

/-! ## The logical values -/

section Values

variable [Scalar α] {t u : Tensor α} {image chan row col : Nat} {values : List α}

theorem length_toDense (t : Tensor α) : t.toDense.length = t.batch * t.shape.logicalSize := by
  rw [toDense, List.length_map, length_positions]

theorem getElem?_toDense (t : Tensor α) (hi : image < t.batch) (hc : chan < t.shape.height)
    (hr : row < t.shape.rows) (hl : col < t.shape.cols) :
    t.toDense[t.shape.logicalIndex image chan row col]? = t.get? image chan row col := by
  have hlt := t.position_lt_size hi hc hr (Nat.lt_of_lt_of_le hl t.shape.cols_le_rowLanes)
  rw [toDense, List.getElem?_map, getElem?_positions hi hc hr hl, Option.map_some, get?,
    Array.getD_eq_getD_getElem?, Array.getElem?_eq_getElem hlt, Option.getD_some]

/-- The logical values are what is read at the coordinates. -/
theorem toDense_eq (hlength : values.length = t.batch * t.shape.logicalSize)
    (h : ∀ image chan row col, image < t.batch → chan < t.shape.height → row < t.shape.rows →
      col < t.shape.cols →
      t.get? image chan row col = values[t.shape.logicalIndex image chan row col]?) :
    t.toDense = values := by
  apply List.ext_getElem?
  intro i
  by_cases hi : i < t.batch * t.shape.logicalSize
  · obtain ⟨image, chan, row, col, himage, hc, hr, hl, rfl⟩ := t.shape.exists_logicalIndex hi
    rw [t.getElem?_toDense himage hc hr hl, h image chan row col himage hc hr hl]
  · rw [List.getElem?_eq_none (by rw [length_toDense]; omega), List.getElem?_eq_none (by omega)]

/-- The logical values are the columns of the rows into which the stored data is cut. -/
theorem toDense_eq_rows (t : Tensor α) :
    t.toDense = (List.range (t.batch * t.shape.height * t.shape.rows)).flatMap fun line =>
      (t.data.toList.drop (line * t.shape.rowLanes)).take t.shape.cols := by
  rw [toDense, positions_eq, List.map_flatMap]
  refine List.flatMap_congr fun line hline => ?_
  have hend : line * t.shape.rowLanes + t.shape.rowLanes ≤
      t.batch * t.shape.height * t.shape.rows * t.shape.rowLanes :=
    Buffer.piece_end_le (List.mem_range.1 hline) (Nat.le_refl _)
  have hsize : t.batch * t.shape.height * t.shape.rows * t.shape.rowLanes = t.data.size := by
    rw [t.size_data, ← t.shape.planes_mul_planeSize, Shape.planeSize, Nat.mul_assoc _ t.shape.rows]
  have hlanes := t.shape.cols_le_rowLanes
  apply List.ext_getElem?
  intro col
  rw [List.map_map, List.getElem?_map, List.getElem?_take]
  split
  · next hcol =>
    rw [List.getElem?_range hcol, List.getElem?_drop, Array.getElem?_toList, Option.map_some,
      Function.comp_apply, Array.getD_eq_getD_getElem?, Array.getElem?_eq_getElem (by omega),
      Option.getD_some]
  · next hcol => rw [List.getElem?_eq_none (by rw [List.length_range]; omega), Option.map_none]

/-! ## Images -/

theorem isSome_image?_iff : (t.image? image).isSome = true ↔ image < t.batch ∨ t.shape.logicalSize = 0 := by
  have hisSome : (t.image? image).isSome = true ↔
      (image + 1) * t.shape.logicalSize ≤ t.batch * t.shape.logicalSize := by
    rw [← length_toDense, image?]
    split
    · next hle => exact iff_of_true rfl hle
    · next hgt => exact iff_of_false nofun hgt
  rw [hisSome]
  rcases Nat.eq_zero_or_pos t.shape.logicalSize with hzero | hpos
  · exact iff_of_true (by rw [hzero, Nat.mul_zero]; exact Nat.zero_le _) (.inr hzero)
  · rw [Nat.mul_le_mul_right_iff hpos, Nat.succ_le_iff]
    exact ⟨.inl, fun h => h.resolve_right (Nat.ne_of_gt hpos)⟩

theorem length_of_image?_eq_some (h : t.image? image = some values) :
    values.length = t.shape.logicalSize := by
  unfold image? at h
  dsimp only at h
  split at h
  · next hle =>
    cases h
    rw [List.length_take, List.length_drop]
    rw [Nat.succ_mul] at hle
    omega
  · cases h

/-- The images of a batch lie behind one another in the list of its values. -/
theorem image?_eq (hi : image < t.batch) :
    t.image? image = some ((t.toDense.drop (image * t.shape.logicalSize)).take t.shape.logicalSize) := by
  refine if_pos ?_
  rw [length_toDense]
  exact Nat.mul_le_mul_right _ hi

/-! ## From the list and back -/

/-- The tensor holds the values one behind the other, and zeros in its pad lanes. -/
structure Lists (t : Tensor α) (values : List α) : Prop where
  dense : t.toDense = values
  elements : ∀ image < t.batch, ∀ chan < t.shape.height, ∀ row < t.shape.rows, ∀ col < t.shape.cols, ∃ v,
    t.get? image chan row col = some v ∧
      values[((image * t.shape.height + chan) * t.shape.rows + row) * t.shape.cols + col]? = some v
  pads : t.shape.PadsZero t.batch t.data
  images : ∀ image < t.batch, t.image? image =
    some ((values.drop (image * t.shape.logicalSize)).take t.shape.logicalSize)

theorem padsZero_zeros (name : String) (shape : Shape) (batch : Nat) :
    shape.PadsZero batch (zeros name shape batch : Tensor α).data := by
  intro image chan row q hi hc hr _ hq
  exact (Array.getElem?_replicate ..).trans (if_pos (shape.position_lt hi hc hr hq))

theorem padsZero_fill (f : Nat → α) (h : t.shape.PadsZero t.batch t.data) :
    t.shape.PadsZero t.batch (t.fill f).data := by
  intro image chan row q hi hc hr hcols hq
  exact (t.get?_fill_pad f hcols hq).trans (h hi hc hr hcols hq)

/-- A list of the right length is put into a tensor that holds it. -/
theorem ofDense_yields (name : String) {shape : Shape} {batch : Nat}
    (hlength : values.length = batch * shape.logicalSize) :
    Yields (ofDense name shape batch values) fun t =>
      t.name = name ∧ t.shape = shape ∧ t.batch = batch ∧ t.Lists values := by
  let filled : Tensor α := (zeros name shape batch).fill fun i => values.toArray.getD i 0
  have hget : ∀ image chan row col, image < batch → chan < shape.height → row < shape.rows →
      col < shape.cols →
      filled.get? image chan row col = values[shape.logicalIndex image chan row col]? := by
    intro image chan row col hi hc hr hl
    have hlt := shape.logicalIndex_lt hi hc hr hl
    rw [get?_fill _ _ hi hc hr hl, Array.getD_eq_getD_getElem?, List.getElem?_toArray]
    change some (values[shape.logicalIndex image chan row col]?.getD 0) = _
    rw [List.getElem?_eq_getElem (by omega), Option.getD_some]
  have hdense : filled.toDense = values := toDense_eq hlength hget
  refine Yields.of_eq (if_neg (not_not.2 hlength)) ⟨rfl, rfl, rfl, hdense, ?_,
    padsZero_fill (t := zeros name shape batch) _ (padsZero_zeros name shape batch), fun image hi => ?_⟩
  · intro image hi chan hc row hr col hl
    obtain ⟨v, hv⟩ := filled.isSome_get? hi hc hr (Nat.lt_of_lt_of_le hl shape.cols_le_rowLanes)
    exact ⟨v, hv, (hget image chan row col hi hc hr hl).symm.trans hv⟩
  · change filled.image? image = _
    rw [image?_eq hi, hdense]

/-- From its list of values a tensor comes back if its pad lanes were zero, and only then. -/
theorem ofDense_toDense (name : String) (t : Tensor α) :
    Yields (ofDense name t.shape t.batch t.toDense) fun u =>
      u.data = t.data ↔ t.shape.PadsZero t.batch t.data := by
  refine (ofDense_yields name t.length_toDense).mono fun u hu => ?_
  obtain ⟨-, hshape, hbatch, hlists⟩ := hu
  have hpads := hlists.pads
  have helements := hlists.elements
  rw [hshape, hbatch] at hpads helements
  refine ⟨fun hdata => hdata ▸ hpads, fun hzero =>
    data_eq_of_get? hshape hbatch fun image chan row q hi hc hr hq => ?_⟩
  by_cases hl : q < t.shape.cols
  · obtain ⟨v, hv, hvalue⟩ := helements image hi chan hc row hr q hl
    rw [hv, ← hvalue]
    exact t.getElem?_toDense hi hc hr hl
  · rw [get?, hshape, hpads hi hc hr (Nat.le_of_not_lt hl) hq, get?,
      hzero hi hc hr (Nat.le_of_not_lt hl) hq]

/-- The list of the logical values and the padded data are two forms of one tensor. A list is taken if it has as
many values as the shape asks for, and refused with both numbers if not; the way back cuts the data into rows.
A tensor survives the way out and in if its pad lanes are zero, and only then. Setting an element leaves all
others, and so the pad lanes, as they are. -/
theorem dense_padded_inverse :
    (∀ (name : String) (shape : Shape) (batch : Nat) (values : List α),
      (values.length = batch * shape.logicalSize → Yields (ofDense name shape batch values) fun t =>
        t.name = name ∧ t.shape = shape ∧ t.batch = batch ∧ t.Lists values) ∧
      (values.length ≠ batch * shape.logicalSize → ofDense name shape batch values =
        .error (.shapeMismatch name (.valueCount (batch * shape.logicalSize) values.length)))) ∧
    ∀ t : Tensor α,
      (t.toDense = (List.range (t.batch * t.shape.height * t.shape.rows)).flatMap fun line =>
        (t.data.toList.drop (line * t.shape.rowLanes)).take t.shape.cols) ∧
      (∀ name, Yields (ofDense name t.shape t.batch t.toDense) fun u =>
        u.data = t.data ↔ t.shape.PadsZero t.batch t.data) ∧
      ∀ image < t.batch, ∀ chan < t.shape.height, ∀ row < t.shape.rows, ∀ col < t.shape.cols, ∀ value,
        ∃ t', t.set? image chan row col value = some t' ∧
          t'.name = t.name ∧ t'.shape = t.shape ∧ t'.batch = t.batch ∧
          t'.get? image chan row col = some value ∧
          ∀ image' < t.batch, ∀ chan' < t.shape.height, ∀ row' < t.shape.rows, ∀ q < t.shape.rowLanes,
            (image', chan', row', q) ≠ (image, chan, row, col) →
            t'.get? image' chan' row' q = t.get? image' chan' row' q := by
  refine ⟨fun name shape batch values => ⟨ofDense_yields name, fun hlength => if_pos hlength⟩, fun t =>
    ⟨t.toDense_eq_rows, fun name => t.ofDense_toDense name, ?_⟩⟩
  intro image hi chan hc row hr col hl value
  have hlanes := Nat.lt_of_lt_of_le hl t.shape.cols_le_rowLanes
  obtain ⟨t', hset⟩ := t.exists_set? value hi hc hr hlanes
  obtain ⟨hname, hshape, hbatch, hwritten⟩ := set?_eq_some hset
  refine ⟨t', hset, hname, hshape, hbatch, ?_, fun image' _ chan' hc' row' hr' q hq hne => ?_⟩
  · rw [get?, hshape]
    exact hwritten.inside _ rfl
  · rw [get?, hshape]
    exact hwritten.outside _ fun heq => hne (t.shape.position_inj hc hr hlanes hc' hr' hq heq)

/-- Two columns and a pad lane that is not zero. -/
def spilled : Tensor Int where
  name := "spilled"
  shape := ⟨1, 2, 1, 1⟩
  batch := 1
  data := #[1, 2, 9]
  size_data := rfl

theorem dense_padded_inverse_spilled :
    (∃ t, @ofDense Int integers "t" ⟨1, 2, 2, 1⟩ 2 [1, 2, 3, 4, 5, 6, 7, 8] = .ok t ∧
      t.get? 1 0 0 1 = some 6 ∧ @image? Int integers t 1 = some [5, 6, 7, 8]) ∧
    @ofDense Int integers "t" ⟨1, 2, 2, 1⟩ 2 [1, 2, 3] =
      .error (.shapeMismatch "t" (.valueCount 8 3)) ∧
    (∃ u, @ofDense Int integers "u" spilled.shape 1 [1, 2] = .ok u ∧ u.data ≠ spilled.data) ∧
    ∃ t', spilled.set? 0 0 0 1 5 = some t' ∧ t'.get? 0 0 0 1 = some 5 ∧ t'.get? 0 0 0 2 = some 9 := by
  obtain ⟨hlist, htensor⟩ := @dense_padded_inverse Int integers
  obtain ⟨t, ht, -, hshape, hbatch, -, helements, -, himages⟩ :=
    (hlist "t" ⟨1, 2, 2, 1⟩ 2 [1, 2, 3, 4, 5, 6, 7, 8]).1 rfl
  rw [hshape, hbatch] at helements himages
  obtain ⟨v, hv, hvalue⟩ := helements 1 (by decide) 0 (by decide) 0 (by decide) 1 (by decide)
  cases hvalue
  obtain ⟨-, hback, hset⟩ := htensor spilled
  obtain ⟨u, hu, hdata⟩ := hback "u"
  obtain ⟨t', ht', -, -, -, hself, hothers⟩ :=
    hset 0 (by decide) 0 (by decide) 0 (by decide) 1 (by decide) 5
  refine ⟨⟨t, ht, hv, himages 1 (by decide)⟩, (hlist _ _ _ _).2 (by decide), ⟨u, hu, fun h => ?_⟩, t', ht',
    hself, hothers 0 (by decide) 0 (by decide) 0 (by decide) 2 (by decide) (by decide)⟩
  have hpad := hdata.1 h (show 0 < 1 by decide) (show 0 < 1 by decide) (show 0 < 1 by decide)
    (show 2 ≤ 2 by decide) (show 2 < 3 by decide)
  exact absurd hpad (by decide)

end Values

end Tensor

end ForwardPass

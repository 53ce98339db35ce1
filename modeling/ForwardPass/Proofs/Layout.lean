import Mathlib.Tactic.Ring
import ForwardPass.Proofs.Buffer
import ForwardPass.Tensor

/-!
# Layout

`Shape.offset` numbers the elements of a stack of planes, pad lanes included, without gaps: `unpack` is
its inverse. A `Batch` is the elements of a stack of images by their coordinates; `Holds` says that a
buffer begins with them, and `tabulate` writes them out.
-/

namespace ForwardPass

variable {α : Type}

/-! ## Numbers of two digits -/

section Digits

variable {width high high' low low' : Nat}

theorem digits_div (high : Nat) (hl : low < width) : (high * width + low) / width = high := by
  rw [Nat.mul_comm, Nat.mul_add_div (by omega), Nat.div_eq_of_lt hl, Nat.add_zero]

/-- A number is made of its digits in one way. -/
theorem digits_eq_iff (hl : low < width) (hl' : low' < width) :
    high * width + low = high' * width + low' ↔ high = high' ∧ low = low' := by
  constructor
  · intro heq
    have hdiv := digits_div high hl
    have hmod := Nat.mul_add_mod_of_lt (a := high) hl
    rw [heq, digits_div high' hl'] at hdiv
    rw [heq, Nat.mul_add_mod_of_lt hl'] at hmod
    exact ⟨hdiv.symm, hmod.symm⟩
  · rintro ⟨rfl, rfl⟩
    rfl

/-- Numbers compare by the first digit in which they differ. -/
theorem digits_lt_iff (hl : low < width) (hl' : low' < width) :
    high * width + low < high' * width + low' ↔ high < high' ∨ high = high' ∧ low < low' := by
  rcases Nat.lt_trichotomy high high' with hhigh | rfl | hhigh
  · have hend : high * width + width ≤ high' * width := Buffer.piece_end_le hhigh (Nat.le_refl _)
    omega
  · omega
  · have hend : high' * width + width ≤ high * width := Buffer.piece_end_le hhigh (Nat.le_refl _)
    omega

end Digits

/-! ## Rounding up -/

section Rounding

variable {alignment : Nat}

theorem alignPad_eq (cols : Nat) (h : 0 < alignment) :
    alignPad cols alignment = (alignment - cols % alignment) % alignment := if_neg (Nat.ne_of_gt h)

theorem alignPad_lt (cols : Nat) (h : 0 < alignment) : alignPad cols alignment < alignment := by
  rw [alignPad_eq cols h]
  exact Nat.mod_lt _ h

theorem dvd_add_alignPad (cols : Nat) (h : 0 < alignment) : alignment ∣ cols + alignPad cols alignment := by
  have hrest := Nat.mod_lt cols h
  refine Nat.dvd_of_mod_eq_zero ?_
  calc (cols + alignPad cols alignment) % alignment
      = (cols % alignment + (alignment - cols % alignment)) % alignment := by
        rw [alignPad_eq cols h, Nat.add_mod_mod, Nat.mod_add_mod]
    _ = alignment % alignment := by rw [Nat.add_sub_cancel' (Nat.le_of_lt hrest)]
    _ = 0 := Nat.mod_self alignment

/-- No smaller pad rounds up. -/
theorem alignPad_le {cols pad : Nat} (h : 0 < alignment) (hpad : alignment ∣ cols + pad) :
    alignPad cols alignment ≤ pad := by
  by_contra hless
  -- Two pads that round up are a multiple of the alignment apart, and this one is below the first multiple.
  have hdvd : alignment ∣ alignPad cols alignment - pad := by
    have := Nat.dvd_sub (dvd_add_alignPad cols h) hpad
    rwa [Nat.add_sub_add_left] at this
  have hle := Nat.le_of_dvd (by omega) hdvd
  have hlt := alignPad_lt cols h
  omega

end Rounding

namespace Shape

/-! ## Offsets -/

theorem cols_le_rowLanes (s : Shape) : s.cols ≤ s.rowLanes := Nat.le_add_right ..

/-- The column counts from the start of the row. -/
theorem offset_eq_add (s : Shape) (plane row col : Nat) :
    s.offset plane row col = s.offset plane row 0 + col := rfl

/-- The planes before a plane are as long as they are many. -/
theorem offset_eq_plane_add (s : Shape) (plane row col : Nat) :
    s.offset plane row col = plane * s.planeSize + s.offset 0 row col := by
  unfold offset planeSize
  ring

/-- A row lies within the planes up to its own. -/
theorem offset_add_rowLanes_le (s : Shape) {planes plane row : Nat} (hp : plane < planes)
    (hr : row < s.rows) : s.offset plane row 0 + s.rowLanes ≤ planes * s.planeSize := by
  have hline : plane * s.rows + row + 1 ≤ planes * s.rows := by
    calc plane * s.rows + row + 1 ≤ (plane + 1) * s.rows := by rw [Nat.succ_mul]; omega
      _ ≤ planes * s.rows := Nat.mul_le_mul_right _ hp
  calc s.offset plane row 0 + s.rowLanes = (plane * s.rows + row + 1) * s.rowLanes := by
        unfold offset; ring
    _ ≤ planes * s.rows * s.rowLanes := Nat.mul_le_mul_right _ hline
    _ = planes * s.planeSize := Nat.mul_assoc ..

theorem offset_lt (s : Shape) {planes plane row col : Nat} (hp : plane < planes) (hr : row < s.rows)
    (hc : col < s.rowLanes) : s.offset plane row col < planes * s.planeSize := by
  have := s.offset_add_rowLanes_le hp hr
  rw [offset_eq_add]
  omega

theorem offset_lt_size (s : Shape) {chan row col : Nat} (hc : chan < s.height) (hr : row < s.rows)
    (hl : col < s.rowLanes) : s.offset chan row col < s.size := s.offset_lt hc hr hl

/-- The images of a batch are one stack of planes. -/
theorem position_eq_offset (s : Shape) (image chan row col : Nat) :
    Tensor.position s image chan row col = s.offset (image * s.height + chan) row col := by
  unfold Tensor.position offset size planeSize
  ring

theorem position_eq_add (s : Shape) (image chan row col : Nat) :
    Tensor.position s image chan row col = Tensor.position s image chan row 0 + col := by
  unfold Tensor.position offset
  omega

theorem plane_lt {height images image chan : Nat} (hi : image < images) (hc : chan < height) :
    image * height + chan < images * height := by
  calc image * height + chan < (image + 1) * height := by rw [Nat.succ_mul]; omega
    _ ≤ images * height := Nat.mul_le_mul_right _ hi

theorem planes_mul_planeSize (s : Shape) (images : Nat) :
    images * s.height * s.planeSize = images * s.size := Nat.mul_assoc ..

theorem position_add_rowLanes_le (s : Shape) {images image chan row : Nat} (hi : image < images)
    (hc : chan < s.height) (hr : row < s.rows) :
    Tensor.position s image chan row 0 + s.rowLanes ≤ images * s.size := by
  rw [position_eq_offset, ← planes_mul_planeSize]
  exact s.offset_add_rowLanes_le (plane_lt hi hc) hr

theorem position_lt (s : Shape) {images image chan row col : Nat} (hi : image < images)
    (hc : chan < s.height) (hr : row < s.rows) (hl : col < s.rowLanes) :
    Tensor.position s image chan row col < images * s.size := by
  rw [position_eq_offset, ← planes_mul_planeSize]
  exact s.offset_lt (plane_lt hi hc) hr hl

/-! ## Coordinates of an offset -/

/-- The value of `f` at the plane, row and column that lie at offset `i`. -/
def unpack (s : Shape) (f : Nat → Nat → Nat → α) (i : Nat) : α :=
  f (i / s.rowLanes / s.rows) (i / s.rowLanes % s.rows) (i % s.rowLanes)

theorem offset_mod (s : Shape) (plane row : Nat) {col : Nat} (hc : col < s.rowLanes) :
    s.offset plane row col % s.rowLanes = col := Nat.mul_add_mod_of_lt hc

theorem unpack_offset (s : Shape) (f : Nat → Nat → Nat → α) {plane row col : Nat} (hr : row < s.rows)
    (hc : col < s.rowLanes) : s.unpack f (s.offset plane row col) = f plane row col := by
  have hline : s.offset plane row col / s.rowLanes = plane * s.rows + row := digits_div _ hc
  rw [unpack, hline, digits_div plane hr, offset_mod s plane row hc, Nat.mul_add_mod_of_lt hr]

/-- Whether an element is logical is read off its column. -/
theorem isLogical_offset (s : Shape) (plane row : Nat) {col : Nat} (hc : col < s.rowLanes) :
    s.isLogical (s.offset plane row col) = true ↔ col < s.cols := by
  rw [isLogical, offset_mod s plane row hc, decide_eq_true_iff]

/-- No pad lane is a logical element of another row. -/
theorem offset_pad_ne (s : Shape) {plane plane' row row' pad col : Nat} (hpad : s.cols ≤ pad)
    (hl : pad < s.rowLanes) (hc : col < s.cols) :
    s.offset plane row pad ≠ s.offset plane' row' col := by
  intro heq
  -- Both lie in rows of the same length, so equal offsets have equal columns.
  obtain ⟨-, hcols⟩ := (digits_eq_iff hl (Nat.lt_of_lt_of_le hc s.cols_le_rowLanes)).1 heq
  omega

/-- Every element of a stack of planes lies at the offset of its coordinates. -/
theorem exists_offset (s : Shape) {planes i : Nat} (h : i < planes * s.planeSize) :
    ∃ plane row col, plane < planes ∧ row < s.rows ∧ col < s.rowLanes ∧
      i = s.offset plane row col := by
  have hsize : planes * s.planeSize = s.rowLanes * (s.rows * planes) := by
    unfold planeSize; ring
  -- There is an element, so no extent is zero and the divisions below are proper.
  have hlanes : 0 < s.rowLanes := Nat.pos_of_ne_zero fun h0 => by simp [hsize, h0] at h
  have hrows : 0 < s.rows := Nat.pos_of_ne_zero fun h0 => by simp [hsize, h0] at h
  have hline : i / s.rowLanes < s.rows * planes := Nat.div_lt_of_lt_mul (hsize ▸ h)
  refine ⟨i / s.rowLanes / s.rows, i / s.rowLanes % s.rows, i % s.rowLanes,
    Nat.div_lt_of_lt_mul hline, Nat.mod_lt _ hrows, Nat.mod_lt _ hlanes, ?_⟩
  rw [offset, Nat.div_add_mod', Nat.div_add_mod']

/-! ## Coordinates in order -/

/-- Three nested loops run through all triples within their bounds. -/
theorem mem_triples {a b c : Nat} {p : Nat × Nat × Nat} :
    p ∈ ((List.range a).flatMap fun i => (List.range b).flatMap fun j =>
      (List.range c).map fun k => (i, j, k)) ↔ p.1 < a ∧ p.2.1 < b ∧ p.2.2 < c := by
  simp only [List.mem_flatMap, List.mem_map, List.mem_range]
  constructor
  · rintro ⟨i, hi, j, hj, k, hk, rfl⟩
    exact ⟨hi, hj, hk⟩
  · rintro ⟨hi, hj, hk⟩
    exact ⟨p.1, hi, p.2.1, hj, p.2.2, hk, rfl⟩

/-- The coordinates of the logical elements of an image, in the order channel, row, column. -/
def coordinates (s : Shape) : List (Nat × Nat × Nat) :=
  (List.range s.height).flatMap fun chan => (List.range s.rows).flatMap fun row =>
    (List.range s.cols).map fun col => (chan, row, col)

theorem logicalOffsets_eq (s : Shape) :
    s.logicalOffsets = s.coordinates.map fun p => s.offset p.1 p.2.1 p.2.2 := by
  simp only [logicalOffsets, coordinates, List.map_flatMap, List.map_map, Function.comp_def]

theorem length_coordinates (s : Shape) : s.coordinates.length = s.logicalSize := by
  simp only [coordinates, List.length_flatMap, List.length_map, List.length_range, List.map_const',
    List.sum_replicate_nat, logicalSize, Nat.mul_assoc]

/-! ## Aligned rows -/

theorem aligned_rowLanes_mod (rows cols height : Nat) :
    (aligned rows cols height).rowLanes % vectorLanes = 0 :=
  Nat.mod_eq_zero_of_dvd (dvd_add_alignPad cols (by decide))

/-- A row of whole vectors has room for every vector that holds one of its columns. -/
theorem vectors_le_rowLanes (s : Shape) (h : s.rowLanes % vectorLanes = 0) :
    (s.cols + vectorLanes - 1) / vectorLanes * vectorLanes ≤ s.rowLanes := by
  have := s.cols_le_rowLanes
  simp only [vectorLanes] at h ⊢
  omega

end Shape

/-! ## Batches -/

/-- The elements of a batch, by image, channel, row and column, pad lanes included. -/
abbrev Batch (α : Type) : Type := Nat → Nat → Nat → Nat → α

namespace Shape

/-- The batch that is stored in `data`. -/
def read [Zero α] (s : Shape) (data : Array α) : Batch α :=
  fun image chan row col => data.getD (Tensor.position s image chan row col) 0

/-- The element of a batch that is stored at position `i`. -/
def flat (s : Shape) (x : Batch α) : Nat → α :=
  s.unpack fun plane row col => x (plane / s.height) (plane % s.height) row col

/-- The first `images` images of a batch, as they are stored. -/
def tabulate (s : Shape) (images : Nat) (x : Batch α) : Array α :=
  Array.ofFn fun i : Fin (images * s.size) => s.flat x i

/-- The buffer begins with the first `images` images of the batch. -/
def Holds (s : Shape) (images : Nat) (buffer : Array α) (x : Batch α) : Prop :=
  ∀ ⦃image chan row col : Nat⦄, image < images → chan < s.height → row < s.rows →
    col < s.rowLanes → buffer[Tensor.position s image chan row col]? = some (x image chan row col)

theorem flat_position (s : Shape) (x : Batch α) {image chan row col : Nat} (hc : chan < s.height)
    (hr : row < s.rows) (hl : col < s.rowLanes) :
    s.flat x (Tensor.position s image chan row col) = x image chan row col := by
  rw [position_eq_offset, flat, unpack_offset s _ hr hl, digits_div image hc, Nat.mul_add_mod_of_lt hc]

/-- Every stored element lies at the position of its coordinates. -/
theorem exists_position (s : Shape) {images i : Nat} (h : i < images * s.size) :
    ∃ image chan row col, image < images ∧ chan < s.height ∧ row < s.rows ∧ col < s.rowLanes ∧
      i = Tensor.position s image chan row col := by
  rw [← planes_mul_planeSize] at h
  obtain ⟨plane, row, col, hp, hr, hc, rfl⟩ := s.exists_offset h
  have hheight : 0 < s.height := Nat.pos_of_ne_zero fun h0 => by simp [h0] at hp
  refine ⟨plane / s.height, plane % s.height, row, col,
    Nat.div_lt_of_lt_mul (Nat.mul_comm .. ▸ hp), Nat.mod_lt _ hheight, hr, hc, ?_⟩
  rw [position_eq_offset, Nat.div_add_mod']

@[simp]
theorem size_tabulate (s : Shape) (images : Nat) (x : Batch α) :
    (s.tabulate images x).size = images * s.size := Array.size_ofFn

theorem getElem?_tabulate (s : Shape) {images i : Nat} (x : Batch α) (h : i < images * s.size) :
    (s.tabulate images x)[i]? = some (s.flat x i) := by
  simp [tabulate, h]

theorem holds_tabulate (s : Shape) (images : Nat) (x : Batch α) :
    s.Holds images (s.tabulate images x) x := by
  intro image chan row col hi hc hr hl
  rw [getElem?_tabulate s x (s.position_lt hi hc hr hl), flat_position s x hc hr hl]

/-- What a buffer begins with is determined, as stored, by the batch it holds. -/
theorem Holds.extract_eq {s : Shape} {images : Nat} {buffer : Array α} {x : Batch α}
    (h : s.Holds images buffer x) : buffer.extract 0 (images * s.size) = s.tabulate images x := by
  apply Array.ext_getElem?
  intro i
  by_cases hi : i < images * s.size
  · obtain ⟨image, chan, row, col, himage, hc, hr, hl, rfl⟩ := s.exists_position hi
    rw [s.holds_tabulate images x himage hc hr hl, ← h himage hc hr hl, Array.getElem?_extract]
    simp [hi]
  · rw [Array.getElem?_eq_none (by simp; omega), Array.getElem?_eq_none (by simp; omega)]

/-- A buffer that is long enough holds what is read from it. -/
theorem holds_read [Zero α] (s : Shape) {images : Nat} {buffer : Array α}
    (hsize : images * s.size ≤ buffer.size) : s.Holds images buffer (s.read buffer) := by
  intro image chan row col hi hc hr hl
  have := s.position_lt hi hc hr hl
  rw [read, Array.getD_eq_getD_getElem?, Array.getElem?_eq_getElem (by omega)]
  rfl

/-- A buffer that holds a batch is long enough for it. -/
theorem Holds.le_size {s : Shape} {images : Nat} {buffer : Array α} {x : Batch α}
    (h : s.Holds images buffer x) : images * s.size ≤ buffer.size := by
  by_contra hlt
  -- Otherwise the first position behind the buffer belongs to the batch.
  obtain ⟨image, chan, row, col, hi, hc, hr, hl, hpos⟩ := s.exists_position (Nat.lt_of_not_le hlt)
  have hnone : buffer[buffer.size]? = none := Array.getElem?_eq_none (Nat.le_refl _)
  rw [hpos, h hi hc hr hl] at hnone
  cases hnone

/-- Fewer images are held too. -/
theorem Holds.take {s : Shape} {images images' : Nat} {buffer : Array α} {x : Batch α}
    (h : s.Holds images buffer x) (hle : images' ≤ images) : s.Holds images' buffer x :=
  fun _ _ _ _ hi => h (Nat.lt_of_lt_of_le hi hle)

/-- The logical elements of the first `images` images of a buffer are those of the batch; its pad lanes
may be anything. -/
structure Shows (s : Shape) (images : Nat) (buffer : Array α) (x : Batch α) : Prop where
  size : images * s.size ≤ buffer.size
  lanes : ∀ ⦃image chan row col : Nat⦄, image < images → chan < s.height → row < s.rows →
    col < s.cols → buffer[Tensor.position s image chan row col]? = some (x image chan row col)

theorem Holds.shows {s : Shape} {images : Nat} {buffer : Array α} {x : Batch α}
    (h : s.Holds images buffer x) : s.Shows images buffer x where
  size := h.le_size
  lanes _ _ _ _ hi hc hr hl := h hi hc hr (Nat.lt_of_lt_of_le hl s.cols_le_rowLanes)

/-- A slice of the logical lanes of a row shows them. -/
theorem Shows.slice_yields {s : Shape} {images image chan row col count : Nat} {buffer : Array α}
    {x : Batch α} (h : s.Shows images buffer x) (hi : image < images) (hc : chan < s.height)
    (hr : row < s.rows) (hend : col + count ≤ s.cols) :
    Yields (Buffer.slice buffer (Tensor.position s image chan row col) count) fun lanes =>
      lanes.size = count ∧ ∀ j < count, lanes[j]? = some (x image chan row (col + j)) := by
  have hrow := s.position_add_rowLanes_le hi hc hr
  have hlanes := s.cols_le_rowLanes
  have hsize := h.size
  rw [position_eq_add]
  refine Yields.of_eq (Buffer.slice_eq_ok (by omega)) ⟨?_, fun j hj => ?_⟩
  · rw [Array.size_extract]
    omega
  · rw [Buffer.getElem?_extract hj, Nat.add_assoc, ← position_eq_add]
    exact h.lanes hi hc hr (by omega)

/-- One image of a batch, cut out. -/
theorem Shows.image {s : Shape} {images image : Nat} {buffer : Array α} {x : Batch α}
    (h : s.Shows images buffer x) (hi : image < images) :
    s.Shows 1 (buffer.extract (image * s.size) (image * s.size + s.size)) fun _ => x image where
  size := by
    have hend := Buffer.piece_end_le hi h.size
    rw [Array.size_extract]
    omega
  lanes first chan row col hfirst hc hr hl := by
    obtain rfl : first = 0 := by omega
    have hlt := s.offset_lt_size hc hr (Nat.lt_of_lt_of_le hl s.cols_le_rowLanes)
    rw [Tensor.position, Nat.zero_mul, Nat.zero_add, Buffer.getElem?_extract hlt]
    exact h.lanes hi hc hr hl

/-- Buffers with the same beginning hold the same batches. -/
theorem Holds.of_prefix {s : Shape} {images : Nat} {buffer buffer' : Array α} {x : Batch α}
    (h : s.Holds images buffer x) (hb : ∀ i < images * s.size, buffer'[i]? = buffer[i]?) :
    s.Holds images buffer' x := by
  intro image chan row col hi hc hr hl
  rw [hb _ (s.position_lt hi hc hr hl)]
  exact h hi hc hr hl

/-- A buffer that was written over with a batch holds it. -/
theorem holds_of_written {s : Shape} {images : Nat} {before after : Array α} {x : Batch α}
    (h : Buffer.Written before (· < images * s.size) (s.flat x) after) : s.Holds images after x := by
  intro image chan row col hi hc hr hl
  rw [h.inside _ (s.position_lt hi hc hr hl), flat_position s x hc hr hl]

/-- A batch is held in front of anything. -/
theorem holds_append (s : Shape) (images : Nat) (x : Batch α) (rest : Array α) :
    s.Holds images (s.tabulate images x ++ rest) x :=
  Holds.of_prefix (s.holds_tabulate images x) fun _ hi => Array.getElem?_append_left (by simpa using hi)

/-- A batch that is put over the front of a buffer does not make it longer. -/
theorem size_over {s : Shape} {images : Nat} {x : Batch α} {buffer : Array α}
    (h : images * s.size ≤ buffer.size) :
    (s.tabulate images x ++ buffer.extract (images * s.size)).size = buffer.size := by
  rw [Array.size_append, size_tabulate, Array.size_extract, Nat.min_self, Nat.add_sub_cancel' h]

/-- A buffer that was written over with a batch is the batch, and behind it what the buffer held. -/
theorem written_eq_append {s : Shape} {images : Nat} {before after : Array α} {x : Batch α}
    (h : Buffer.Written before (· < images * s.size) (s.flat x) after) :
    after = s.tabulate images x ++ before.extract (images * s.size) := by
  apply Array.ext_getElem?
  intro i
  by_cases hi : i < images * s.size
  · rw [h.inside i hi, Array.getElem?_append_left (by simpa using hi), getElem?_tabulate s x hi]
  · have hback : images * s.size + (i - images * s.size) = i := Nat.add_sub_cancel' (Nat.le_of_not_lt hi)
    rw [h.outside i hi, Array.getElem?_append_right (by simpa using hi), size_tabulate,
      Array.getElem?_extract, hback]
    split
    · rfl
    · exact Array.getElem?_eq_none (by omega)

/-- The pad lanes of the first `images` images that the buffer holds are zero. -/
def PadsZero [Zero α] (s : Shape) (images : Nat) (buffer : Array α) : Prop :=
  ∀ ⦃image chan row q : Nat⦄, image < images → chan < s.height → row < s.rows → s.cols ≤ q →
    q < s.rowLanes → buffer[Tensor.position s image chan row q]? = some 0

theorem Holds.padsZero [Zero α] {s : Shape} {images : Nat} {buffer : Array α} {x : Batch α}
    (h : s.Holds images buffer x) (hx : ∀ image chan row q, s.cols ≤ q → x image chan row q = 0) :
    s.PadsZero images buffer := by
  intro image chan row q hi hc hr hcols hq
  rw [h hi hc hr hq, hx image chan row q hcols]

/-- Buffers that hold the same batch have the same pad lanes. -/
theorem PadsZero.congr [Zero α] {s : Shape} {images : Nat} {buffer buffer' : Array α} {x : Batch α}
    (h : s.PadsZero images buffer) (hb : s.Holds images buffer x) (hb' : s.Holds images buffer' x) :
    s.PadsZero images buffer' := by
  intro image chan row q hi hc hr hcols hq
  rw [hb' hi hc hr hq, ← hb hi hc hr hq, h hi hc hr hcols hq]

end Shape

namespace Tensor

/-- The first `batch` images of `x` as a tensor, pad lanes included. -/
def ofBatch (name : String) (shape : Shape) (batch : Nat) (x : Batch α) : Tensor α where
  name := name
  shape := shape
  batch := batch
  data := shape.tabulate batch x
  size_data := shape.size_tabulate batch x

/-- The tensor that is read from a buffer is the batch the buffer holds. -/
theorem ofPadded_eq_ok {name : String} {shape : Shape} {batch : Nat} {data : Array α} {x : Batch α}
    (h : shape.Holds batch data x) : ofPadded name shape batch data = .ok (ofBatch name shape batch x) := by
  unfold ofPadded
  rw [dif_neg (Nat.not_lt.2 h.le_size)]
  simp only [ofBatch, h.extract_eq]

end Tensor

end ForwardPass

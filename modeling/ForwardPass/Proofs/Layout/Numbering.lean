import Mathlib.Data.List.Sort
import Mathlib.Data.Set.Function
import ForwardPass.Proofs.Layout

/-!
# The numbering of the elements

An offset is a number of three digits, the channel, the row and the column. Its values are the numbers below the
size, each of them once, and they ascend with the digits; the last digit tells the logical elements from the pad
lanes. Where a row is whole vectors, the vectors that start at its columns end in it.
-/

namespace ForwardPass.Shape

/-! ## Places -/

/-- The channels, rows and columns of the elements of an image. Pad lanes have the columns behind the logical
ones. -/
def places (s : Shape) : Set (Nat × Nat × Nat) :=
  {p | p.1 < s.height ∧ p.2.1 < s.rows ∧ p.2.2 < s.rowLanes}

/-- The lexicographic order: the channel counts first, then the row, then the column. -/
def Precedes : Nat × Nat × Nat → Nat × Nat × Nat → Prop :=
  Prod.Lex (· < ·) (Prod.Lex (· < ·) (· < ·))

/-- Where the element at a place lies within its image. -/
def offsetAt (s : Shape) (p : Nat × Nat × Nat) : Nat := s.offset p.1 p.2.1 p.2.2

theorem precedes_iff {p q : Nat × Nat × Nat} :
    Precedes p q ↔ p.1 < q.1 ∨ p.1 = q.1 ∧ (p.2.1 < q.2.1 ∨ p.2.1 = q.2.1 ∧ p.2.2 < q.2.2) := by
  rw [Precedes, Prod.lex_iff, Prod.lex_iff]

/-- Offsets ascend as their places do. -/
theorem offsetAt_lt_iff (s : Shape) {p q : Nat × Nat × Nat} (hp : p ∈ s.places) (hq : q ∈ s.places) :
    s.offsetAt p < s.offsetAt q ↔ Precedes p q := by
  obtain ⟨-, hrow, hcol⟩ := hp
  obtain ⟨-, hrow', hcol'⟩ := hq
  rw [offsetAt, offsetAt, offset, offset, digits_lt_iff hcol hcol', digits_lt_iff hrow hrow',
    digits_eq_iff hrow hrow', precedes_iff]
  tauto

theorem offsetAt_injOn (s : Shape) : Set.InjOn s.offsetAt s.places := by
  rintro ⟨chan, row, col⟩ ⟨-, hrow, hcol⟩ ⟨chan', row', col'⟩ ⟨-, hrow', hcol'⟩ heq
  obtain ⟨hline, rfl⟩ := (digits_eq_iff hcol hcol').1 heq
  obtain ⟨rfl, rfl⟩ := (digits_eq_iff hrow hrow').1 hline
  rfl

/-- Every element of an image lies at one place, and every place holds one element. -/
theorem offsetAt_bijOn (s : Shape) : Set.BijOn s.offsetAt s.places (Set.Iio s.size) := by
  refine ⟨fun p hp => s.offset_lt_size hp.1 hp.2.1 hp.2.2, s.offsetAt_injOn, fun i hi => ?_⟩
  obtain ⟨chan, row, col, hc, hr, hl, rfl⟩ := s.exists_offset hi
  exact ⟨(chan, row, col), ⟨hc, hr, hl⟩, rfl⟩

/-- The lanes of a row lie side by side. -/
theorem map_offset_row (s : Shape) (chan row : Nat) :
    (List.range s.rowLanes).map (s.offset chan row) = List.range' (s.offset chan row 0) s.rowLanes := by
  rw [List.range'_eq_map_range]
  rfl

/-! ## The logical elements -/

/-- A loop around loops that each run in order runs in lexicographic order. -/
theorem pairwise_loop {β : Type} {r : β → β → Prop} {body : Nat → List β} {n : Nat}
    (h : ∀ i < n, (body i).Pairwise r) :
    ((List.range n).flatMap fun i => (body i).map (i, ·)).Pairwise (Prod.Lex (· < ·) r) := by
  refine List.pairwise_flatMap.2 ⟨fun i hi => ?_, List.pairwise_lt_range.imp fun hlt => ?_⟩
  · exact List.pairwise_map.2 ((h i (List.mem_range.1 hi)).imp (Prod.Lex.right i))
  · intro x hx y hy
    obtain ⟨_, -, rfl⟩ := List.mem_map.1 hx
    obtain ⟨_, -, rfl⟩ := List.mem_map.1 hy
    exact Prod.Lex.left _ _ hlt

theorem pairwise_coordinates (s : Shape) : s.coordinates.Pairwise Precedes := by
  have hloops : s.coordinates = (List.range s.height).flatMap fun chan =>
      ((List.range s.rows).flatMap fun row => (List.range s.cols).map (row, ·)).map (chan, ·) := by
    simp only [coordinates, List.map_flatMap, List.map_map, Function.comp_def]
  rw [hloops]
  exact pairwise_loop fun _ _ => pairwise_loop fun _ _ => List.pairwise_lt_range

theorem mem_places_of_mem_coordinates {s : Shape} {p : Nat × Nat × Nat} (hp : p ∈ s.coordinates) :
    p ∈ s.places := by
  obtain ⟨hc, hr, hl⟩ := mem_triples.1 hp
  exact ⟨hc, hr, Nat.lt_of_lt_of_le hl s.cols_le_rowLanes⟩

theorem pairwise_logicalOffsets (s : Shape) : s.logicalOffsets.Pairwise (· < ·) := by
  rw [logicalOffsets_eq, List.pairwise_map]
  exact s.pairwise_coordinates.imp_of_mem fun hp hq hpq =>
    (s.offsetAt_lt_iff (mem_places_of_mem_coordinates hp) (mem_places_of_mem_coordinates hq)).2 hpq

theorem mem_logicalOffsets_iff {s : Shape} {i : Nat} :
    i ∈ s.logicalOffsets ↔ i < s.size ∧ s.isLogical i = true := by
  rw [logicalOffsets_eq, List.mem_map]
  constructor
  · rintro ⟨p, hp, rfl⟩
    obtain ⟨hc, hr, hl⟩ := mem_places_of_mem_coordinates hp
    exact ⟨s.offset_lt_size hc hr hl, (s.isLogical_offset _ _ hl).2 (mem_triples.1 hp).2.2⟩
  · rintro ⟨hi, hlogical⟩
    obtain ⟨chan, row, col, hc, hr, hl, rfl⟩ := s.exists_offset hi
    exact ⟨(chan, row, col), mem_triples.2 ⟨hc, hr, (s.isLogical_offset _ _ hl).1 hlogical⟩, rfl⟩

/-- In ascending order, the elements that are logical are those that a walk by channel, row and column meets. -/
theorem filter_isLogical (s : Shape) : (List.range s.size).filter s.isLogical = s.logicalOffsets := by
  refine (List.pairwise_lt_range.filter _).eq_of_mem_iff s.pairwise_logicalOffsets fun i => ?_
  rw [List.mem_filter, List.mem_range, mem_logicalOffsets_iff]

theorem countP_isLogical (s : Shape) : (List.range s.size).countP s.isLogical = s.logicalSize := by
  rw [List.countP_eq_length_filter, filter_isLogical, logicalOffsets_eq, List.length_map,
    length_coordinates]

/-! ## The numbering -/

/-- The offsets number the elements of an image, row behind row and plane behind plane. -/
structure Numbered (s : Shape) : Prop where
  bijOn : Set.BijOn s.offsetAt s.places (Set.Iio s.size)
  lt_iff : ∀ p ∈ s.places, ∀ q ∈ s.places, s.offsetAt p < s.offsetAt q ↔ Precedes p q
  row : ∀ chan row,
    (List.range s.rowLanes).map (s.offset chan row) = List.range' (s.offset chan row 0) s.rowLanes
  isLogical_iff : ∀ p ∈ s.places, s.isLogical (s.offsetAt p) = true ↔ p.2.2 < s.cols
  filter_eq : (List.range s.size).filter s.isLogical = s.logicalOffsets
  count_eq : (List.range s.size).countP s.isLogical = s.logicalSize

theorem numbered (s : Shape) : s.Numbered where
  bijOn := s.offsetAt_bijOn
  lt_iff _ hp _ hq := s.offsetAt_lt_iff hp hq
  row := s.map_offset_row
  isLogical_iff p hp := s.isLogical_offset p.1 p.2.1 hp.2.2
  filter_eq := s.filter_isLogical
  count_eq := s.countP_isLogical

/-! ## Rows of whole vectors -/

/-- A vector that starts within the columns ends within the row. -/
theorem vector_end_le {s : Shape} {start : Nat} (h : vectorLanes ∣ s.rowLanes) (hstart : start < s.cols)
    (hdvd : vectorLanes ∣ start) : start + vectorLanes ≤ s.rowLanes := by
  have := s.cols_le_rowLanes
  simp only [vectorLanes] at h hdvd ⊢
  omega

/-- The rows are whole vectors, so that each of them starts at one. A vector that starts at one of the columns is
fetched from the lanes of a single row. -/
structure WholeVectors (s : Shape) : Prop where
  pad_lt : s.pad < vectorLanes
  rowLanes_dvd : vectorLanes ∣ s.rowLanes
  offset_dvd : ∀ chan row, vectorLanes ∣ s.offset chan row 0
  position_dvd : ∀ image chan row, vectorLanes ∣ Tensor.position s image chan row 0
  end_le : ∀ start < s.cols, vectorLanes ∣ start → start + vectorLanes ≤ s.rowLanes
  fetch_yields : ∀ {α : Type} {images : Nat} {buffer : Array α}, images * s.size ≤ buffer.size →
    ∀ image < images, ∀ chan < s.height, ∀ row < s.rows, ∀ start < s.cols, vectorLanes ∣ start →
      Yields (Buffer.fetch buffer (Tensor.position s image chan row start)) fun v =>
        ∀ j < vectorLanes, v[j]? = buffer[Tensor.position s image chan row (start + j)]?

theorem wholeVectors_of_dvd {s : Shape} (hpad : s.pad < vectorLanes) (h : vectorLanes ∣ s.rowLanes) :
    s.WholeVectors where
  pad_lt := hpad
  rowLanes_dvd := h
  offset_dvd _ _ := Nat.dvd_mul_left_of_dvd h _
  position_dvd image chan row := by
    rw [position_eq_offset]
    exact Nat.dvd_mul_left_of_dvd h _
  end_le _ hstart hdvd := vector_end_le h hstart hdvd
  fetch_yields := by
    intro α images buffer hsize image hi chan hc row hr start hstart hdvd
    have hrow := s.position_add_rowLanes_le hi hc hr
    have hend := vector_end_le h hstart hdvd
    have hin : Tensor.position s image chan row start + vectorLanes ≤ buffer.size := by
      rw [position_eq_add]
      omega
    refine (Buffer.fetch_yields hin).mono fun v hv j hj => ?_
    rw [hv j hj, position_eq_add s image chan row start, position_eq_add s image chan row (start + j),
      Nat.add_assoc]

theorem wholeVectors_aligned (rows cols height : Nat) :
    ∃ pad, aligned rows cols height = ⟨rows, cols, height, pad⟩ ∧ WholeVectors ⟨rows, cols, height, pad⟩ := by
  have hlanes : 0 < vectorLanes := by decide
  exact ⟨_, rfl, wholeVectors_of_dvd (alignPad_lt cols hlanes) (dvd_add_alignPad cols hlanes)⟩

/-! ## The layout -/

/-- Pads are the fewest that round up. Whatever the pads of a shape are, its offsets number its elements in the
order of their places, and as many of them as it has logical elements are logical. An aligned shape, and one with
a border around it, has rows of whole vectors. -/
theorem layout_exact :
    (∀ cols alignment, 0 < alignment →
      IsLeast {pad | alignment ∣ cols + pad} (alignPad cols alignment) ∧
        alignPad cols alignment < alignment) ∧
    (∀ s : Shape, s.Numbered) ∧
    (∀ rows cols height, ∃ pad, aligned rows cols height = ⟨rows, cols, height, pad⟩ ∧
      WholeVectors ⟨rows, cols, height, pad⟩) ∧
    ∀ (s : Shape) (border : Nat), ∃ pad,
      s.bordered border = ⟨s.rows + 2 * border, s.cols + 2 * border, s.height, pad⟩ ∧
        WholeVectors ⟨s.rows + 2 * border, s.cols + 2 * border, s.height, pad⟩ := by
  refine ⟨fun cols alignment h => ⟨⟨dvd_add_alignPad cols h, fun pad hpad => alignPad_le h hpad⟩,
    alignPad_lt cols h⟩, numbered, wholeVectors_aligned, fun s border => ?_⟩
  exact wholeVectors_aligned (s.rows + 2 * border) (s.cols + 2 * border) s.height

/-- Three columns and two pads, which do not make a vector. -/
def oddlyPadded : Shape := ⟨2, 3, 2, 2⟩

/-- The last pad of a plane comes right before the plane behind it. With a border of three columns on either side
there are nine, and a vector that starts at the last of them has all its other lanes among the pads. -/
theorem layout_exact_oddlyPadded :
    0 < vectorLanes ∧ IsLeast {pad | vectorLanes ∣ 9 + pad} 7 ∧
      (0, 1, 4) ∈ oddlyPadded.places ∧ (1, 0, 0) ∈ oddlyPadded.places ∧
      oddlyPadded.offsetAt (0, 1, 4) < oddlyPadded.offsetAt (1, 0, 0) ∧
      oddlyPadded.isLogical (oddlyPadded.offsetAt (0, 1, 4)) = false ∧
      (List.range 20).countP oddlyPadded.isLogical = 12 ∧
      oddlyPadded.bordered 3 = ⟨8, 9, 2, 7⟩ ∧ 8 < 9 ∧ vectorLanes ∣ 8 ∧ 8 + vectorLanes ≤ 16 ∧
      ∃ v, Buffer.fetch (Array.range 256) 248 = .ok v ∧ v[7]? = some 255 := by
  obtain ⟨hpad, hnumbered, -, hbordered⟩ := layout_exact
  have hodd := hnumbered oddlyPadded
  have hlast : (0, 1, 4) ∈ oddlyPadded.places := ⟨by decide, by decide, by decide⟩
  have hfirst : (1, 0, 0) ∈ oddlyPadded.places := ⟨by decide, by decide, by decide⟩
  have hlogical := hodd.isLogical_iff _ hlast
  obtain ⟨pad, hnine, hvectors⟩ := hbordered oddlyPadded 3
  obtain rfl : pad = 7 := (congrArg Shape.pad hnine).symm
  have hroom : 1 * (⟨8, 9, 2, 7⟩ : Shape).size ≤ (Array.range 256).size := by
    rw [Array.size_range]
    decide
  obtain ⟨v, hfetch, hv⟩ := hvectors.fetch_yields hroom 0 (by decide) 1 (by decide) 7 (by decide) 8
    (by decide) (by decide)
  have hend : (Array.range 256)[Tensor.position ⟨8, 9, 2, 7⟩ 0 1 7 (8 + 7)]? = some 255 :=
    Array.getElem?_range.trans (if_pos (by decide))
  exact ⟨by decide, (hpad 9 vectorLanes (by decide)).1, hlast, hfirst,
    (hodd.lt_iff _ hlast _ hfirst).2 (Prod.Lex.left _ _ (by decide)),
    Bool.eq_false_iff.2 (mt hlogical.1 (by decide)), hodd.count_eq, hnine, by decide, by decide,
    hvectors.end_le 8 (by decide) (by decide), v, hfetch, (hv 7 (by decide)).trans hend⟩

end ForwardPass.Shape

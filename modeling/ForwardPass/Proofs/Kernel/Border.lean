import ForwardPass.Kernel.Border
import ForwardPass.Proofs.Exact
import ForwardPass.Proofs.Layout

/-!
# What a border is

A bordered copy holds the batch, moved down and to the right by the border, and zeros around it. What its
target held there, and what the pad lanes of its source hold, does not show in it.
-/

namespace ForwardPass.Border

variable {α : Type} [Scalar α] {s : Shape} {x : Batch α} {images border : Nat}

/-- The batch inside a border of zeros. -/
def framed (s : Shape) (border : Nat) (x : Batch α) : Batch α := fun image chan r q =>
  if (border ≤ r ∧ r < border + s.rows) ∧ border ≤ q ∧ q < border + s.cols then
    x image chan (r - border) (q - border)
  else 0

/-- Where a row of the batch lies inside the border. -/
def RowRegion (s : Shape) (border : Nat) (row : Nat × Nat × Nat) : Nat → Prop :=
  Buffer.Within (Tensor.position (s.bordered border) row.1 row.2.1 (row.2.2 + border) border) s.cols

omit [Scalar α] in
theorem mem_rows {row : Nat × Nat × Nat} :
    row ∈ rows s images ↔ row.1 < images ∧ row.2.1 < s.height ∧ row.2.2 < s.rows := Shape.mem_triples

/-- A row of the frame has room for a row of the batch and its border. -/
theorem bordered_cols_le (s : Shape) (border : Nat) :
    border + s.cols ≤ (s.bordered border).rowLanes := by
  have := (s.bordered border).cols_le_rowLanes
  simp only [Shape.bordered, Shape.aligned] at this ⊢
  omega

/-- One row is copied inside the border. Its pad lanes are not read. -/
theorem copyRow_yields {source target : Array α} (hx : s.Shows images source x)
    (hsize : images * (s.bordered border).size ≤ target.size) {image chan row : Nat}
    (hi : image < images) (hc : chan < s.height) (hr : row < s.rows) :
    Yields (do
      let lanes ← Buffer.slice source (image * s.size + s.offset chan row 0) s.cols
      Buffer.put target
        (image * (s.bordered border).size + (s.bordered border).offset chan (row + border) border)
        lanes.toList)
      (Buffer.Written target (RowRegion s border (image, chan, row))
        ((s.bordered border).flat (framed s border x))) := by
  have hlanes := bordered_cols_le s border
  have hrow : row + border < (s.bordered border).rows := by
    simp only [Shape.bordered, Shape.aligned]
    omega
  have hchan : chan < (s.bordered border).height := hc
  have hend := (s.bordered border).position_add_rowLanes_le hi hchan hrow
  refine (hx.slice_yields hi hc hr (Nat.le_of_eq (Nat.zero_add _))).bind fun lanes hlane => ?_
  have hlength : lanes.toList.length = s.cols := by rw [Array.length_toList, hlane.1]
  change Yields (Buffer.put target
    (Tensor.position (s.bordered border) image chan (row + border) border) lanes.toList) _
  refine Buffer.put_yields hlength (by rw [Shape.position_eq_add]; omega) fun j hj => ?_
  rw [Array.getElem?_toList, hlane.2 j hj, Shape.position_eq_add, Nat.add_assoc,
    ← Shape.position_eq_add, Shape.flat_position _ _ hchan hrow (by omega), framed,
    if_pos (by omega), Nat.add_sub_cancel, Nat.add_sub_cancel_left, Nat.zero_add]

/-- What the rows of the batch do not reach is border. -/
theorem exists_rowRegion {image chan r q : Nat} (hi : image < images) (hc : chan < s.height)
    (hr : border ≤ r ∧ r < border + s.rows) (hq : border ≤ q ∧ q < border + s.cols) :
    ∃ row ∈ rows s images, RowRegion s border row (Tensor.position (s.bordered border) image chan r q) := by
  refine ⟨(image, chan, r - border), mem_rows.2 ⟨hi, hc, by dsimp only; omega⟩, ?_⟩
  dsimp only [RowRegion, Buffer.Within]
  rw [Nat.sub_add_cancel hr.1, Shape.position_eq_add _ _ _ _ q, Shape.position_eq_add _ _ _ _ border]
  omega

/-- The rows of the batch lie inside the frame. -/
theorem RowRegion.lt {row : Nat × Nat × Nat} (hmem : row ∈ rows s images) {i : Nat}
    (h : RowRegion s border row i) : i < images * (s.bordered border).size := by
  obtain ⟨hi, hc, hr⟩ := mem_rows.1 hmem
  have hrow : row.2.2 + border < (s.bordered border).rows := by
    simp only [Shape.bordered, Shape.aligned]
    omega
  have hlanes := bordered_cols_le s border
  have hend := (s.bordered border).position_add_rowLanes_le hi
    (show row.2.1 < (s.bordered border).height from hc) hrow
  have hlt := h.2
  rw [Shape.position_eq_add] at hlt
  omega

/-- A bordered copy overwrites as much of the target as the bordered batch takes up. -/
theorem copy_yields {source target : Array α} (hx : s.Shows images source x)
    (hsize : images * (s.bordered border).size ≤ target.size) :
    Yields (copy s images border source target)
      (Buffer.Written target (· < images * (s.bordered border).size)
        ((s.bordered border).flat (framed s border x))) := by
  -- First everything is cleared, then the rows are copied over the zeros.
  have hclear : Yields (Buffer.put target 0 (List.replicate (images * (s.bordered border).size) (0 : α)))
      (Buffer.Written target (Buffer.Within 0 (images * (s.bordered border).size)) fun _ => 0) :=
    Buffer.put_yields List.length_replicate (by rwa [Nat.zero_add]) fun j hj => by
      rw [List.getElem?_replicate, if_pos hj]
  refine hclear.bind fun cleared hcleared => ?_
  have hrows := Buffer.foldlM_written (RowRegion s border) ((s.bordered border).flat (framed s border x))
    (fun row (hrow : row ∈ rows s images) between hbetween => by
      obtain ⟨hi, hc, hr⟩ := mem_rows.1 hrow
      exact copyRow_yields hx (hbetween ▸ hsize) hi hc hr) hcleared.size
  refine hrows.mono fun after hw => ⟨hw.size.trans hcleared.size, fun i hi => ?_, fun i hi => ?_⟩
  · obtain ⟨image, chan, r, q, himage, hc, hr, hq, rfl⟩ := (s.bordered border).exists_position hi
    -- A position of the frame lies in a copied row, or the border was cleared there and left alone.
    by_cases hin : ∃ row ∈ rows s images,
        RowRegion s border row (Tensor.position (s.bordered border) image chan r q)
    · exact hw.inside _ hin
    · have hborder : ¬ ((border ≤ r ∧ r < border + s.rows) ∧ border ≤ q ∧ q < border + s.cols) :=
        fun hinside => hin (exists_rowRegion himage hc hinside.1 hinside.2)
      rw [hw.outside _ hin, hcleared.inside _ ⟨Nat.zero_le _, by omega⟩,
        Shape.flat_position _ _ hc hr hq, framed, if_neg hborder]
  · rw [hw.outside i fun ⟨row, hmem, hin⟩ => hi (hin.lt hmem), hcleared.outside i fun hin => hi (by
      have := hin.2
      omega)]

/-- What a bordered copy leaves, element by element, pad lanes included. It is the same for every source with
these logical elements and every target that ends as this one does. -/
theorem copy_exact {source target : Array α} (hsource : images * s.size ≤ source.size)
    (htarget : images * (s.bordered border).size ≤ target.size) :
    Yields (copy s images border source target) fun after =>
      after.size = target.size ∧
      (∀ image < images, ∀ chan < s.height, ∀ r < (s.bordered border).rows,
        ∀ q < (s.bordered border).rowLanes,
          after[Tensor.position (s.bordered border) image chan r q]? =
            if (border ≤ r ∧ r < border + s.rows) ∧ border ≤ q ∧ q < border + s.cols then
              source[Tensor.position s image chan (r - border) (q - border)]?
            else some 0) ∧
      (∀ i, images * (s.bordered border).size ≤ i → after[i]? = target[i]?) ∧
      ∀ source' target' : Array α, images * s.size ≤ source'.size →
        (∀ image < images, ∀ chan < s.height, ∀ row < s.rows, ∀ col < s.cols,
          source'[Tensor.position s image chan row col]? = source[Tensor.position s image chan row col]?) →
        images * (s.bordered border).size ≤ target'.size →
        (∀ i, images * (s.bordered border).size ≤ i → target'[i]? = target[i]?) →
        copy s images border source' target' = .ok after := by
  have hread := s.holds_read hsource
  refine (copy_yields hread.shows htarget).mono fun after hafter => ⟨hafter.size, ?_,
    fun i hi => hafter.outside i (Nat.not_lt.2 hi), ?_⟩
  · intro image hi chan hc r hr q hq
    have hchan : chan < (s.bordered border).height := hc
    rw [hafter.inside _ (Shape.position_lt _ hi hchan hr hq), Shape.flat_position _ _ hchan hr hq, framed]
    split
    · next hin =>
      have hlanes := s.cols_le_rowLanes
      rw [hread hi hc (by omega) (by omega)]
    · rfl
  · intro source' target' hsource' hlogical htarget' hbehind
    -- The other source shows the batch that is read from this one.
    have hshows : s.Shows images source' (s.read source) := ⟨hsource', fun image chan row col hi hc hr hl =>
      (hlogical image hi chan hc row hr col hl).trans (hread.shows.lanes hi hc hr hl)⟩
    obtain ⟨after', hcopy, hafter'⟩ := copy_yields hshows htarget'
    rw [hcopy, hafter.eq_of_outside hafter' fun i hi => hbehind i (Nat.le_of_not_lt hi)]

/-- Two images of two channels, each a row of two columns and a pad lane, in a border of one; the pad lanes and
what the target held are different the second time. -/
theorem copy_exact_twoImages :
    ∃ after,
      @copy Int integers ⟨1, 2, 2, 1⟩ 2 1 #[1, 2, 99, 3, 4, 99, 5, 6, 99, 7, 8, 99]
        ((Array.replicate 96 7).push 5) = .ok after ∧
      @copy Int integers ⟨1, 2, 2, 1⟩ 2 1 #[1, 2, -1, 3, 4, -1, 5, 6, -1, 7, 8, -1, 50]
        ((Array.replicate 96 0).push 5) = .ok after ∧
      after[81]? = some 7 ∧ after[82]? = some 8 ∧ after[83]? = some 0 ∧ after[84]? = some 0 ∧
      after[96]? = some 5 := by
  obtain ⟨after, hcopy, -, hlanes, hrest, hother⟩ := @copy_exact Int integers ⟨1, 2, 2, 1⟩ 2 1
    #[1, 2, 99, 3, 4, 99, 5, 6, 99, 7, 8, 99] ((Array.replicate 96 7).push 5) (by decide) (by decide)
  have hrow := hlanes 1 (by decide) 1 (by decide) 1 (by decide)
  refine ⟨after, hcopy, hother _ _ (by decide) (by decide) (by decide) fun i hi => ?_, hrow 1 (by decide),
    hrow 2 (by decide), hrow 3 (by decide), hrow 4 (by decide), (hrest 96 (by decide)).trans rfl⟩
  have hge : 96 ≤ i := hi
  rw [Array.getElem?_push, Array.getElem?_push, Array.size_replicate, Array.size_replicate,
    Array.getElem?_eq_none (by simpa using hge), Array.getElem?_eq_none (by simpa using hge)]

end ForwardPass.Border

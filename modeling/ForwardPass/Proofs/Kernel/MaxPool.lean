import ForwardPass.Kernel.MaxPool
import ForwardPass.Proofs.Layout

/-!
# What max pooling computes

Every output is the running maximum over its window, row by row, and pad lanes are zero.
-/

namespace ForwardPass.MaxPool

variable {α : Type} [Scalar α] {w : Windows} {x : Batch α} {images image : Nat}

/-! ## What is computed -/

/-- The running maximum over the window of output `r`, `c`, row by row from below every number. -/
def windowValue (w : Windows) (x : Batch α) (image chan r c : Nat) : α :=
  (List.range w.fieldSize).foldl (fun best i =>
    (List.range w.fieldSize).foldl (fun best j =>
      Scalar.larger best (x image chan (r * w.stride + i) (c * w.stride + j))) best) Scalar.lowest

/-- The elements of the window of output `r`, `c`, row by row. -/
def windowElements (w : Windows) (x : Batch α) (image chan r c : Nat) : List α :=
  (List.range w.fieldSize).flatMap fun i =>
    (List.range w.fieldSize).map fun j => x image chan (r * w.stride + i) (c * w.stride + j)

theorem windowValue_eq_foldl (w : Windows) (x : Batch α) (image chan r c : Nat) :
    windowValue w x image chan r c =
      (windowElements w x image chan r c).foldl Scalar.larger Scalar.lowest := by
  simp only [windowValue, windowElements, List.foldl_flatMap, List.foldl_map]

/-- The pooled batch; pad lanes are zero. -/
def pooled (w : Windows) (x : Batch α) : Batch α := fun image chan r c =>
  if c < w.output.cols then windowValue w x image chan r c else 0

/-- Every window lies within its plane, and there are as many planes on both sides. -/
structure Windows.Fit (w : Windows) : Prop where
  height : w.output.height = w.input.height
  rows : ∀ r < w.output.rows, r * w.stride + w.fieldSize ≤ w.input.rows
  cols : ∀ c < w.output.cols, c * w.stride + w.fieldSize ≤ w.input.cols

/-! ## One window -/

theorem windowMax_yields (h : w.Fit) {input : Array α} (hx : w.input.Shows 1 input fun _ => x image)
    {chan r c : Nat} (hc : chan < w.input.height) (hr : r < w.output.rows) (hl : c < w.output.cols) :
    Yields (windowMax w input chan r c) (· = windowValue w x image chan r c) := by
  have hrows := h.rows r hr
  have hcols := h.cols c hl
  -- After `n` rows of the window the running maximum is that of the first `n` rows.
  refine (Yields.foldlM_range (I := fun n best => best = (List.range n).foldl (fun best i =>
    (List.range w.fieldSize).foldl (fun best j =>
      Scalar.larger best (x image chan (r * w.stride + i) (c * w.stride + j))) best) Scalar.lowest)
    (fun i hi best hbest => ?_) rfl).mono fun best hbest => hbest
  have hrow : r * w.stride + i < w.input.rows := by omega
  have hslice := hx.slice_yields Nat.one_pos hc hrow hcols
  rw [Tensor.position, Nat.zero_mul, Nat.zero_add] at hslice
  refine hslice.bind fun lanes hlane => Yields.ok ?_
  rw [List.range_succ, List.foldl_append, List.foldl_cons, List.foldl_nil, ← hbest,
    ← Array.foldl_toList, Buffer.toList_eq_map hlane.1 hlane.2, List.foldl_map]

/-! ## One image -/

/-- The values of one image of the result, by their offset. -/
def imageValues (w : Windows) (x : Batch α) (image : Nat) : Nat → α :=
  w.output.unpack fun chan r c => windowValue w x image chan r c

omit [Scalar α] in
theorem mem_positions {p : Nat × Nat × Nat} :
    p ∈ w.positions ↔ p.1 < w.input.height ∧ p.2.1 < w.output.rows ∧ p.2.2 < w.output.cols :=
  Shape.mem_triples

theorem poolImage_yields (h : w.Fit) {input : Array α} (hx : w.input.Shows 1 input fun _ => x image) :
    Yields (poolImage w input) fun output => output.size = w.output.size ∧
      ∀ chan < w.output.height, ∀ r < w.output.rows, ∀ q < w.output.rowLanes,
        output[w.output.offset chan r q]? = some (pooled w x image chan r q) := by
  refine (Buffer.foldlM_written
    (fun p : Nat × Nat × Nat => Buffer.Within (w.output.offset p.1 p.2.1 p.2.2) 1)
    (imageValues w x image) (fun p hp between hbetween => ?_)
    Array.size_replicate).mono fun output hw => ⟨hw.size.trans Array.size_replicate, ?_⟩
  · obtain ⟨chan, r, c⟩ := p
    obtain ⟨hc, hr, hl⟩ : chan < w.input.height ∧ r < w.output.rows ∧ c < w.output.cols :=
      mem_positions.1 hp
    refine (windowMax_yields h hx hc hr hl).bind fun best hbest => ?_
    have hlanes := Nat.lt_of_lt_of_le hl w.output.cols_le_rowLanes
    have hlt := w.output.offset_lt_size (h.height ▸ hc) hr hlanes
    refine Buffer.put_yields (List.length_singleton ..) (by omega) fun j hj => ?_
    obtain rfl : j = 0 := by omega
    rw [Nat.add_zero, imageValues, w.output.unpack_offset _ hr hlanes, ← hbest]
    rfl
  · intro chan hchan r hr q hq
    rw [pooled]
    split
    · next hcol =>
      have hin : ∃ p ∈ w.positions,
          Buffer.Within (w.output.offset p.1 p.2.1 p.2.2) 1 (w.output.offset chan r q) :=
        ⟨(chan, r, q), mem_positions.2 ⟨h.height ▸ hchan, hr, hcol⟩, Nat.le_refl _, Nat.lt_succ_self _⟩
      rw [hw.inside _ hin, imageValues, w.output.unpack_offset _ hr hq]
    · next hcol =>
      -- No window ends in a pad lane, so it keeps its zero.
      have hout : ¬ ∃ p ∈ w.positions,
          Buffer.Within (w.output.offset p.1 p.2.1 p.2.2) 1 (w.output.offset chan r q) := by
        rintro ⟨p, hp, hstart, hend⟩
        exact w.output.offset_pad_ne (Nat.le_of_not_lt hcol) hq (mem_positions.1 hp).2.2
          (Nat.le_antisymm (Nat.lt_succ_iff.1 hend) hstart)
      rw [hw.outside _ hout, Array.getElem?_replicate, if_pos (w.output.offset_lt_size hchan hr hq)]

/-! ## The batch -/

/-- Max pooling overwrites as much of the result as the pooled batch takes up. -/
theorem run_yields (h : w.Fit) {activations result : Array α} (hx : w.input.Shows images activations x)
    (hsize : images * w.output.size ≤ result.size) :
    Yields (run w images activations result)
      (Buffer.Written result (· < images * w.output.size) (w.output.flat (pooled w x))) := by
  refine (Buffer.foldlM_written
    (fun image => Buffer.Within (image * w.output.size) w.output.size)
    (w.output.flat (pooled w x)) (fun image hi between hbetween => ?_) rfl).mono
      fun after hafter => hafter.congr fun i => by
        simp only [List.mem_range, Buffer.within_pieces_iff]
  rw [List.mem_range] at hi
  have hinput := Buffer.piece_end_le hi hx.size
  have houtput := Buffer.piece_end_le hi (hbetween ▸ hsize)
  refine Yields.bind_of_eq (Buffer.slice_eq_ok hinput) ?_
  -- The slice of the result is cut out for its bounds only: its elements are replaced as a whole.
  refine Yields.bind_of_eq (Buffer.slice_eq_ok houtput) ?_
  refine (poolImage_yields h (hx.image hi)).bind fun output houtput' => ?_
  refine Buffer.put_yields (by rw [Array.length_toList, houtput'.1]) houtput fun j hj => ?_
  have hlt : j < 1 * w.output.size := by rwa [Nat.one_mul]
  obtain ⟨first, chan, r, q, hfirst, hc, hr, hl, rfl⟩ := w.output.exists_position hlt
  obtain rfl : first = 0 := by omega
  rw [Tensor.position, Nat.zero_mul, Nat.zero_add, Array.getElem?_toList,
    houtput'.2 chan hc r hr q hl]
  exact congrArg some (w.output.flat_position _ hc hr hl).symm

/-! ## Windows of any kind -/

theorem windowMax_ends (w : Windows) (image : Array α) (chan row col : Nat) :
    Ends (windowMax w image chan row col) (fun _ => True) Failure.IsFault := by
  refine Ends.foldlM (fun i _ best _ => ?_) trivial
  exact (Buffer.slice_ends ..).bind fun lanes _ => trivial

theorem poolImage_ends (w : Windows) (image : Array α) :
    Ends (poolImage w image) (fun _ => True) Failure.IsFault := by
  refine Ends.foldlM (fun position _ output _ => ?_) trivial
  refine (windowMax_ends ..).bind fun best _ => ?_
  exact (Buffer.put_keeps ..).mono fun _ _ => trivial

/-- Whatever the windows are, a pooling that is stopped broke a contract. -/
theorem run_ends (w : Windows) (images : Nat) (activations result : Array α) :
    Ends (run w images activations result) (·.size = result.size) Failure.IsFault := by
  refine Ends.foldlM (fun image _ between hbetween => ?_) rfl
  refine (Buffer.slice_ends ..).bind fun input _ => ?_
  refine (Buffer.slice_ends ..).bind fun room _ => ?_
  refine (poolImage_ends ..).bind fun output _ => ?_
  exact (Buffer.put_keeps ..).mono fun after hafter => hafter.size.trans hbetween

end ForwardPass.MaxPool

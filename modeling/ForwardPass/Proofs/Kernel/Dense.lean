import ForwardPass.Kernel.Dense
import ForwardPass.Proofs.Exact
import ForwardPass.Proofs.Layout

/-!
# What a matrix product computes

Every output is the activation of its bias with the logical elements of the image added in order, each
times its own row of the weights. The product changes whole rows in place; read column by column it is this sum.
Images, weights and outputs each have pads of their own, of which those of the outputs are written as zeros
and no others matter.
-/

namespace ForwardPass.Dense

variable {α : Type} [Scalar α] {shapes : Shapes} {x : Batch α} {w : Nat → Nat → α} {weights : Array α}
  {images image : Nat}

/-! ## What is computed -/

/-- The weight of element `k` of an image for output `c`. -/
def weight (shapes : Shapes) (weights : Array α) (k c : Nat) : α := shapes.weights.read weights 0 0 k c

/-- The bias of output `c` with every logical element of the image added, times its weight, in order. -/
def weightedSum (shapes : Shapes) (weights : Array α) (x : Batch α) (image c : Nat) : α :=
  shapes.input.coordinates.zipIdx.foldl (fun sum (p, k) =>
    sum + x image p.1 p.2.1 p.2.2 * weight shapes weights k c)
    (weight shapes weights shapes.input.logicalSize c)

/-- The outputs of a batch; pad lanes are zero. -/
def outputs (shapes : Shapes) (activation : Activation) (weights : Array α) (x : Batch α) : Batch α :=
  fun image _ _ c =>
    if c < shapes.output.cols then activation.apply (weightedSum shapes weights x image c) else 0

/-- The shapes of a fully connected layer: one row of weights for every logical element and one for the
bias, and one output for every column. -/
structure Shapes.Fit (shapes : Shapes) : Prop where
  output_rows : shapes.output.rows = 1
  output_height : shapes.output.height = 1
  weights_rows : shapes.weights.rows = shapes.input.logicalSize + 1
  weights_cols : shapes.weights.cols = shapes.output.cols
  weights_height : shapes.weights.height = 1

/-- The shapes a product is defined for: one row of outputs, and no more of them than a row of weights has
columns. -/
structure Shapes.OneRow (shapes : Shapes) : Prop where
  output_rows : shapes.output.rows = 1
  output_height : shapes.output.height = 1
  output_cols : shapes.output.cols ≤ shapes.weights.cols

/-- The weights as a product reads them: one row for every logical element and behind them the bias. -/
def Shapes.weightRows (shapes : Shapes) : Shape :=
  { shapes.weights with rows := shapes.input.logicalSize + 1, height := 1 }

/-- The sum of output `c` over the elements of an image and weights `w` that are given by row and column. -/
def accumulated (shapes : Shapes) (x : Batch α) (w : Nat → Nat → α) (image c : Nat) : α :=
  shapes.input.coordinates.zipIdx.foldl (fun sum (p, k) =>
    sum + x image p.1 p.2.1 p.2.2 * w k c) (w shapes.input.logicalSize c)

/-- The sum of output `c` over the elements in `done` only, each with its number. -/
def addedUp (shapes : Shapes) (x : Batch α) (w : Nat → Nat → α) (image : Nat)
    (done : List ((Nat × Nat × Nat) × Nat)) (c : Nat) : α :=
  done.foldl (fun sum (p, k) => sum + x image p.1 p.2.1 p.2.2 * w k c) (w shapes.input.logicalSize c)

/-- The activated sums of a batch; pad lanes are zero. -/
def activated (shapes : Shapes) (activation : Activation) (x : Batch α) (w : Nat → Nat → α) : Batch α :=
  fun image _ _ c =>
    if c < shapes.output.cols then activation.apply (accumulated shapes x w image c) else 0

theorem addedUp_concat (done : List ((Nat × Nat × Nat) × Nat)) (p : Nat × Nat × Nat) (k : Nat) :
    addedUp shapes x w image (done ++ [(p, k)]) =
      fun c => addedUp shapes x w image done c + x image p.1 p.2.1 p.2.2 * w k c := by
  funext c
  simp [addedUp]

theorem outputs_eq_activated (shapes : Shapes) (activation : Activation) (weights : Array α)
    (x : Batch α) : outputs shapes activation weights x =
      activated shapes activation x (weight shapes weights) := rfl

omit [Scalar α] in
theorem Shapes.Fit.oneRow (h : shapes.Fit) : shapes.OneRow where
  output_rows := h.output_rows
  output_height := h.output_height
  output_cols := Nat.le_of_eq h.weights_cols.symm

omit [Scalar α] in
theorem Shapes.OneRow.output_size (h : shapes.OneRow) : shapes.output.size = shapes.output.rowLanes := by
  rw [Shape.size, Shape.planeSize, h.output_height, h.output_rows, Nat.one_mul, Nat.one_mul]

omit [Scalar α] in
/-- The outputs of an image are stored in the order of their columns. -/
theorem Shapes.OneRow.flat_eq (h : shapes.OneRow) (y : Batch α) {c : Nat} (hc : c < shapes.output.size) :
    shapes.output.flat y (image * shapes.output.size + c) = y image 0 0 c := by
  have hposition : image * shapes.output.size + c = Tensor.position shapes.output image 0 0 c := by
    simp only [Tensor.position, Shape.offset, Nat.zero_mul, Nat.zero_add]
  rw [hposition, Shape.flat_position _ _ (h.output_height ▸ Nat.one_pos)
    (h.output_rows ▸ Nat.one_pos) (h.output_size ▸ hc)]

omit [Scalar α] in
theorem Shapes.Fit.weightRows_eq (h : shapes.Fit) : shapes.weightRows = shapes.weights := by
  rw [Shapes.weightRows, ← h.weights_rows, ← h.weights_height]

/-! ## Rows of weights -/

/-- A buffer with room for every row shows the weights that are read from it. -/
theorem weights_shows (hsize : shapes.weightRows.size ≤ weights.size) :
    shapes.weightRows.Shows 1 weights fun _ _ => weight shapes weights := by
  have hone : 1 * shapes.weightRows.size ≤ weights.size := by rwa [Nat.one_mul]
  have hread := (shapes.weightRows.holds_read hone).shows
  refine ⟨hread.size, fun image chan row col hi hc hr hl => ?_⟩
  rw [hread.lanes hi hc hr hl]
  obtain rfl : image = 0 := Nat.lt_one_iff.1 hi
  obtain rfl : chan = 0 := Nat.lt_one_iff.1 hc
  simp only [weight, Shape.read, Tensor.position, Shape.offset, Nat.zero_mul, Nat.zero_add]
  rfl

omit [Scalar α] in
/-- A row of the weights lies within them. -/
theorem weightRow_end_le (h : shapes.OneRow) (hw : shapes.weightRows.Shows 1 weights fun _ _ => w)
    {k : Nat} (hk : k ≤ shapes.input.logicalSize) :
    k * shapes.weights.rowLanes + shapes.output.cols ≤ weights.size := by
  have hrow := shapes.weightRows.position_add_rowLanes_le Nat.one_pos Nat.one_pos (Nat.lt_succ_of_le hk)
  simp only [Tensor.position, Shape.offset, Nat.zero_mul, Nat.zero_add, Nat.add_zero] at hrow
  calc k * shapes.weights.rowLanes + shapes.output.cols
      ≤ k * shapes.weights.rowLanes + shapes.weights.rowLanes :=
        Nat.add_le_add_left (Nat.le_trans h.output_cols shapes.weights.cols_le_rowLanes) _
    _ ≤ weights.size := Nat.le_trans hrow hw.size

omit [Scalar α] in
/-- A row of the weights holds the weights of its element. -/
theorem weightRow_eq (h : shapes.OneRow) (hw : shapes.weightRows.Shows 1 weights fun _ _ => w) {k : Nat}
    (hk : k ≤ shapes.input.logicalSize) :
    (weights.extract (k * shapes.weights.rowLanes)
      (k * shapes.weights.rowLanes + shapes.output.cols)).toList =
      (List.range shapes.output.cols).map (w k) := by
  have hend := weightRow_end_le h hw hk
  refine Buffer.toList_eq_map (by rw [Array.size_extract]; omega) fun c hc => ?_
  have hlane := hw.lanes Nat.one_pos Nat.one_pos (Nat.lt_succ_of_le hk)
    (Nat.lt_of_lt_of_le hc h.output_cols)
  simp only [Tensor.position, Shape.offset, Nat.zero_mul, Nat.zero_add] at hlane
  rw [Buffer.getElem?_extract hc]
  exact hlane

/-! ## A row of outputs -/

/-- A row that holds `sums` in its columns and zero in its pads. -/
structure HoldsSums (shape : Shape) (sums : Nat → α) (out : Array α) : Prop where
  size : out.size = shape.size
  lanes : ∀ c < shape.size, out[c]? = some (if c < shape.cols then sums c else 0)

omit [Scalar α] in
/-- A row whose first lanes are changed one after the other is changed in each of them once. -/
theorem getElem?_foldl_modify (f : Nat → α → α) (n : Nat) (out : Array α) (c : Nat) :
    ((List.range n).foldl (fun out lane => out.modify lane (f lane)) out)[c]? =
      if c < n then out[c]?.map (f c) else out[c]? := by
  induction n with
  | zero => simp
  | succ n ih =>
    rw [List.range_succ, List.foldl_append, List.foldl_cons, List.foldl_nil, Array.getElem?_modify, ih]
    grind

omit [Scalar α] in
@[simp]
theorem size_foldl_modify (f : Nat → α → α) (n : Nat) (out : Array α) :
    ((List.range n).foldl (fun out lane => out.modify lane (f lane)) out).size = out.size := by
  induction n with
  | zero => rfl
  | succ n ih => simp [List.range_succ, ih]

namespace HoldsSums

variable {shape : Shape} {sums : Nat → α} {out : Array α}

/-- Changing the columns of a row changes its sums, and leaves its pads. -/
theorem modify (h : HoldsSums shape sums out) (f : Nat → α → α) :
    HoldsSums shape (fun c => f c (sums c))
      ((List.range shape.cols).foldl (fun out lane => out.modify lane (f lane)) out) where
  size := by rw [size_foldl_modify, h.size]
  lanes c hc := by
    rw [getElem?_foldl_modify, h.lanes c hc]
    split <;> rfl

theorem addRow (h : HoldsSums shape sums out) (a : α) (row : Nat → α) :
    HoldsSums shape (fun c => sums c + a * row c)
      (Dense.addRow a ((List.range shape.cols).map row) out) := by
  have hloop : Dense.addRow a ((List.range shape.cols).map row) out =
      (List.range shape.cols).foldl (fun out lane => out.modify lane (· + a * row lane)) out := by
    rw [Dense.addRow, List.zipIdx_map, List.foldl_map, List.zipIdx_eq_zip_range', List.length_range,
      ← List.range_eq_range', List.zip, List.zipWith_self, List.foldl_map]
    rfl
  rw [hloop]
  exact h.modify fun c sum => sum + a * row c

theorem activate (h : HoldsSums shape sums out) (activation : Activation) :
    HoldsSums shape (fun c => activation.apply (sums c)) (Dense.activate activation shape.cols out) :=
  h.modify fun _ => activation.apply

/-- A row starts at the bias. -/
theorem put_yields (hcols : shape.cols ≤ shape.size) (bias : Nat → α) :
    Yields (Buffer.put (Array.replicate shape.size 0) 0 ((List.range shape.cols).map bias))
      (HoldsSums shape bias) := by
  have hroom : 0 + ((List.range shape.cols).map bias).length ≤ (Array.replicate shape.size (0 : α)).size := by
    simpa using hcols
  refine .of_eq (Buffer.put_eq_ok hroom) ⟨by simp, fun c hc => ?_⟩
  rw [Buffer.getElem?_store _ _ _ _ hroom]
  by_cases hlt : c < shape.cols <;> simp [hlt, hc]

end HoldsSums

/-! ## The product -/

/-- The features of an image are its logical elements. -/
theorem features_eq {activations : Array α} (hx : shapes.input.Shows images activations x)
    (hi : image < images) :
    features shapes.input (activations.extract (image * shapes.input.size)
      (image * shapes.input.size + shapes.input.size)) =
      shapes.input.coordinates.map fun p => x image p.1 p.2.1 p.2.2 := by
  rw [features, Shape.logicalOffsets_eq, List.map_map]
  refine List.map_congr_left fun p hp => ?_
  obtain ⟨hc, hr, hl⟩ := Shape.mem_triples.1 hp
  have hlanes := Nat.lt_of_lt_of_le hl shapes.input.cols_le_rowLanes
  rw [Function.comp_apply, Array.getD_eq_getD_getElem?,
    Buffer.getElem?_extract (shapes.input.offset_lt_size hc hr hlanes)]
  exact congrArg (Option.getD · 0) (hx.lanes hi hc hr hl)

/-- The row of an image holds its activated sums, whatever it held before. -/
theorem fillRow_yields (h : shapes.OneRow) (hw : shapes.weightRows.Shows 1 weights fun _ _ => w)
    (activation : Activation) {activations out : Array α}
    (hx : shapes.input.Shows images activations x) (hi : image < images)
    (hout : out.size = shapes.output.size) :
    Yields (fillRow shapes activation weights
      (weights.extract (shapes.input.logicalSize * shapes.weights.rowLanes)
        (shapes.input.logicalSize * shapes.weights.rowLanes + shapes.output.cols))
      (activations.extract (image * shapes.input.size) (image * shapes.input.size + shapes.input.size)) out)
      (HoldsSums shapes.output fun c => activation.apply (accumulated shapes x w image c)) := by
  have hcols : shapes.output.cols ≤ shapes.output.size := by
    rw [h.output_size]
    exact shapes.output.cols_le_rowLanes
  unfold fillRow
  rw [hout, weightRow_eq h hw (Nat.le_refl _), features_eq hx hi, List.zipIdx_map]
  refine (HoldsSums.put_yields hcols _).bind fun start hstart => ?_
  rw [List.foldlM_map]
  refine Yields.bind (P := HoldsSums shapes.output (accumulated shapes x w image)) ?_
    fun out hout => .ok (hout.activate activation)
  -- The invariant: the elements that are done are in the sums.
  have hnone : HoldsSums shapes.output (addedUp shapes x w image []) start := hstart
  refine Yields.foldlM (I := fun done => HoldsSums shapes.output (addedUp shapes x w image done)) ?_ hnone
  rintro ⟨p, k⟩ hp done between hbetween
  have hk : k ≤ shapes.input.logicalSize := by
    have hlt := List.snd_lt_of_mem_zipIdx hp
    rw [Shape.length_coordinates, Nat.add_zero] at hlt
    exact Nat.le_of_lt hlt
  refine Yields.bind_of_eq (Buffer.slice_eq_ok (weightRow_end_le h hw hk)) (.ok ?_)
  simp only [id, weightRow_eq h hw hk, addedUp_concat]
  exact hbetween.addRow _ (w k)

/-- One image writes its outputs and their pad lanes. -/
theorem writeImage_yields (h : shapes.OneRow) (hw : shapes.weightRows.Shows 1 weights fun _ _ => w)
    (activation : Activation) {activations result : Array α}
    (hx : shapes.input.Shows images activations x) (hi : image < images)
    (hsize : images * shapes.output.size ≤ result.size) :
    Yields (do
      let input ← Buffer.slice activations (image * shapes.input.size) shapes.input.size
      let out ← Buffer.slice result (image * shapes.output.size) shapes.output.size
      let out ← fillRow shapes activation weights
        (weights.extract (shapes.input.logicalSize * shapes.weights.rowLanes)
          (shapes.input.logicalSize * shapes.weights.rowLanes + shapes.output.cols)) input out
      Buffer.put result (image * shapes.output.size) out.toList)
      (Buffer.Written result (Buffer.Within (image * shapes.output.size) shapes.output.size)
        (shapes.output.flat (activated shapes activation x w))) := by
  have hend := Buffer.piece_end_le hi hsize
  refine Yields.bind_of_eq (Buffer.slice_eq_ok (Buffer.piece_end_le hi hx.size)) ?_
  refine Yields.bind_of_eq (Buffer.slice_eq_ok hend) ?_
  have hout : (result.extract (image * shapes.output.size)
      (image * shapes.output.size + shapes.output.size)).size = shapes.output.size := by
    rw [Array.size_extract]
    omega
  refine (fillRow_yields h hw activation hx hi hout).bind fun out hsums => ?_
  refine Buffer.put_yields (by rw [Array.length_toList, hsums.size]) hend fun c hc => ?_
  rw [Array.getElem?_toList, hsums.lanes c hc, h.flat_eq _ hc, activated]

/-- A matrix product overwrites as much of the result as the outputs of the batch take up. -/
theorem run_written (h : shapes.OneRow) (hw : shapes.weightRows.Shows 1 weights fun _ _ => w)
    (activation : Activation) {activations result : Array α}
    (hx : shapes.input.Shows images activations x)
    (hsize : images * shapes.output.size ≤ result.size) :
    Yields (run shapes images activation activations weights result)
      (Buffer.Written result (· < images * shapes.output.size)
        (shapes.output.flat (activated shapes activation x w))) := by
  unfold run
  refine Yields.bind_of_eq (Buffer.slice_eq_ok (weightRow_end_le h hw (Nat.le_refl _))) ?_
  refine (Buffer.foldlM_written
    (fun image => Buffer.Within (image * shapes.output.size) shapes.output.size)
    (shapes.output.flat (activated shapes activation x w))
    (fun image hi between hbetween => writeImage_yields h hw activation hx (List.mem_range.1 hi)
      (hbetween ▸ hsize)) rfl).mono fun after hafter => hafter.congr fun i => by
        simp only [List.mem_range, Buffer.within_pieces_iff]

/-- The product of a fully connected layer. -/
theorem run_yields (h : shapes.Fit) (hw : shapes.weights.size ≤ weights.size)
    (activation : Activation) {activations result : Array α}
    (hx : shapes.input.Shows images activations x)
    (hsize : images * shapes.output.size ≤ result.size) :
    Yields (run shapes images activation activations weights result)
      (Buffer.Written result (· < images * shapes.output.size)
        (shapes.output.flat (outputs shapes activation weights x))) := by
  rw [outputs_eq_activated]
  exact run_written h.oneRow (weights_shows (h.weightRows_eq ▸ hw)) activation hx hsize

/-- What a product leaves, element by element. The elements of the images and the weights are given by
their coordinates, and what a pad lane of either buffer or the result held before does not occur. -/
theorem product_exact (hshapes : shapes.OneRow) (activation : Activation) (images : Nat)
    {activations result : Array α} (hx : shapes.input.Shows images activations x)
    (hw : shapes.weightRows.Shows 1 weights fun _ _ => w)
    (hsize : images * shapes.output.size ≤ result.size) :
    Yields (run shapes images activation activations weights result) fun after =>
      after.size = result.size ∧
      (∀ image < images,
        (∀ c < shapes.output.cols, after[image * shapes.output.size + c]? =
          some (activation.apply (accumulated shapes x w image c))) ∧
        ∀ c < shapes.output.size, shapes.output.cols ≤ c →
          after[image * shapes.output.size + c]? = some 0) ∧
      ∀ i, images * shapes.output.size ≤ i → after[i]? = result[i]? := by
  refine (run_written hshapes hw activation hx hsize).mono fun after hafter =>
    ⟨hafter.size, fun image hi => ?_, fun i hi => hafter.outside i (Nat.not_lt.2 hi)⟩
  have hblock : ∀ c < shapes.output.size, after[image * shapes.output.size + c]? =
      some (activated shapes activation x w image 0 0 c) := by
    intro c hc
    have hend := Buffer.piece_end_le hi (Nat.le_refl (images * shapes.output.size))
    rw [hafter.inside _ (by omega), hshapes.flat_eq _ hc]
  have hcols : shapes.output.cols ≤ shapes.output.size := by
    rw [hshapes.output_size]
    exact shapes.output.cols_le_rowLanes
  refine ⟨fun c hc => ?_, fun c hc hpad => ?_⟩
  · rw [hblock c (Nat.lt_of_lt_of_le hc hcols), activated, if_pos hc]
  · rw [hblock c hc, activated, if_neg (Nat.not_lt.2 hpad)]

/-- Images of two channels of two columns, weights for three outputs of which two are asked for; every row
has a pad lane. -/
def twoOfThree : Shapes where
  input := ⟨1, 2, 2, 1⟩
  weights := ⟨5, 3, 1, 1⟩
  output := ⟨1, 2, 1, 1⟩

theorem product_exact_twoOfThree :
    twoOfThree.OneRow ∧ ∃ after,
      @run Int integers twoOfThree 2 .relu #[1, 2, 99, 3, 4, 99, -1, 0, 99, 0, 5, 99]
        #[1, 10, 0, 77, 2, 20, 0, 77, 3, 30, 0, 77, 4, 40, 0, 77, 5, -60, 0, 77]
        #[8, 8, 8, 8, 8, 8, 8] = .ok after ∧
      after[0]? = some 35 ∧ after[4]? = some 130 ∧ after[5]? = some 0 ∧ after[6]? = some 8 := by
  have hshapes : twoOfThree.OneRow := ⟨rfl, rfl, by decide⟩
  let activations : Array Int := #[1, 2, 99, 3, 4, 99, -1, 0, 99, 0, 5, 99]
  let weights : Array Int := #[1, 10, 0, 77, 2, 20, 0, 77, 3, 30, 0, 77, 4, 40, 0, 77, 5, -60, 0, 77]
  have hx := (@Shape.holds_read Int ⟨0⟩ twoOfThree.input 2 activations (by decide)).shows
  have hw := @weights_shows Int integers twoOfThree weights (by decide)
  obtain ⟨after, hrun, -, hblocks, hrest⟩ := @product_exact Int integers twoOfThree _ _ weights hshapes
    .relu 2 activations #[8, 8, 8, 8, 8, 8, 8] hx hw (by decide)
  obtain ⟨hfirst, -⟩ := hblocks 0 (by decide)
  obtain ⟨hsecond, hpads⟩ := hblocks 1 (by decide)
  refine ⟨hshapes, after, hrun, (hfirst 0 (by decide)).trans ?_, (hsecond 1 (by decide)).trans ?_,
    hpads 2 (by decide) (by decide), hrest 6 (by decide)⟩
  · decide +kernel
  · decide +kernel

theorem fillRow_ends (shapes : Shapes) (activation : Activation) (weights bias input out : Array α) :
    Ends (fillRow shapes activation weights bias input out) (fun _ => True) Failure.IsFault := by
  unfold fillRow
  refine (Buffer.put_keeps ..).bind fun start _ => ?_
  refine Ends.bind (P := fun _ => True) ?_ fun _ _ => trivial
  refine Ends.foldlM (fun feature _ between _ => ?_) trivial
  exact (Buffer.slice_ends ..).bind fun row _ => trivial

/-- Whatever the shapes are, a matrix product that is stopped broke a contract. -/
theorem run_ends (shapes : Shapes) (images : Nat) (activation : Activation)
    (activations weights result : Array α) :
    Ends (run shapes images activation activations weights result) (·.size = result.size)
      Failure.IsFault := by
  unfold run
  refine (Buffer.slice_ends ..).bind fun bias _ => ?_
  refine Ends.foldlM (fun image _ between hbetween => ?_) rfl
  refine (Buffer.slice_ends ..).bind fun input _ => ?_
  refine (Buffer.slice_ends ..).bind fun out _ => ?_
  refine (fillRow_ends ..).bind fun out' _ => ?_
  exact (Buffer.put_keeps ..).mono fun after hafter => hafter.size.trans hbetween

end ForwardPass.Dense

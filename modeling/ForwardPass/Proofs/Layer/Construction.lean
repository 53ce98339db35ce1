import ForwardPass.Layer

/-!
# What the constructors promise

The facts about a layer that follow from the way it was made. `Constructed` collects the three ways to
make a layer, and `Consistent` what its shapes have to do with each other then. Everything that is proved
of a layer's run rests on the latter.
-/

namespace ForwardPass.Layer

/-! ## Windows -/

theorem windowCount_eq_ok {layer : String} {extent field stride count : Nat}
    (h : windowCount layer extent field stride = .ok count) :
    0 < stride ∧ 0 < field ∧ field ≤ extent ∧ count = (extent - field) / stride + 1 := by
  unfold windowCount at h
  split at h
  · cases h
  · split at h
    · cases h
    · cases h
      omega

/-- The last window ends within the extent. -/
theorem window_le_extent {extent field stride i : Nat} (hf : field ≤ extent)
    (hi : i < (extent - field) / stride + 1) : i * stride + field ≤ extent := by
  have := Nat.mul_le_of_le_div stride i (extent - field) (Nat.lt_succ_iff.1 hi)
  omega

/-- There are `count` windows of `field` elements, `stride` apart, within the extent, and no room for
another. -/
structure WindowsFill (extent field stride count : Nat) : Prop where
  within : ∀ r < count, ∀ i < field, r * stride + i < extent
  full : extent < count * stride + field

theorem windowCount_of_fits (layer : String) {extent field stride : Nat} (hs : 0 < stride)
    (hpos : 0 < field) (hle : field ≤ extent) :
    windowCount layer extent field stride = .ok ((extent - field) / stride + 1) := by
  unfold windowCount
  rw [if_neg (by omega), if_neg (by omega)]

theorem windowCount_of_misfit (layer : String) {extent field stride : Nat} (hs : 0 < stride)
    (h : field = 0 ∨ extent < field) :
    windowCount layer extent field stride =
      .error (.shapeMismatch layer (.fieldOverExtent field extent)) := by
  unfold windowCount
  rw [if_neg (by omega), if_pos h]

theorem windowCount_fills {layer : String} {extent field stride count : Nat}
    (h : windowCount layer extent field stride = .ok count) : WindowsFill extent field stride count := by
  obtain ⟨hs, hpos, hle, rfl⟩ := windowCount_eq_ok h
  constructor
  · intro r hr i hi
    have hlast := window_le_extent hle hr
    omega
  · have hroom : extent - field < stride * ((extent - field) / stride + 1) :=
      Nat.lt_mul_div_succ (extent - field) hs
    rw [Nat.mul_comm] at hroom
    omega

/-! ## Convolutions -/

/-- What the construction of a convolution checks and derives. -/
structure IsConvolution (l : Layer) : Prop where
  kind : l.kind = .convolution
  stride : l.stride = 1 ∨ l.stride = 2 ∨ l.stride = 4
  field_pos : 0 < l.fieldSize
  field_le_rows : l.fieldSize ≤ l.frame.rows
  field_le_cols : l.fieldSize ≤ l.frame.cols
  outputs : l.outputs = .aligned ((l.frame.rows - l.fieldSize) / l.stride + 1)
    ((l.frame.cols - l.fieldSize) / l.stride + 1) l.kernelCount
  weights : l.weights = .aligned l.fieldSize l.fieldSize l.frame.height

namespace IsConvolution

variable {l : Layer}

theorem outputs_rows (h : l.IsConvolution) :
    l.outputs.rows = (l.frame.rows - l.fieldSize) / l.stride + 1 := by
  rw [h.outputs]
  rfl

theorem outputs_cols (h : l.IsConvolution) :
    l.outputs.cols = (l.frame.cols - l.fieldSize) / l.stride + 1 := by
  rw [h.outputs]
  rfl

theorem weights_rows (h : l.IsConvolution) : l.weights.rows = l.fieldSize := by
  rw [h.weights]
  rfl

theorem weights_cols (h : l.IsConvolution) : l.weights.cols = l.fieldSize := by
  rw [h.weights]
  rfl

theorem weights_height (h : l.IsConvolution) : l.weights.height = l.frame.height := by
  rw [h.weights]
  rfl

end IsConvolution

/-- The kernel of the layer slides over its frame: there is an output for each of its positions, and weights
for each channel. -/
structure Slides (l : Layer) : Prop where
  stride : l.stride = 1 ∨ l.stride = 2 ∨ l.stride = 4
  field_pos : 0 < l.fieldSize
  field_le_rows : l.fieldSize ≤ l.frame.rows
  field_le_cols : l.fieldSize ≤ l.frame.cols
  outputs_rows : l.outputs.rows = (l.frame.rows - l.fieldSize) / l.stride + 1
  outputs_cols : l.outputs.cols = (l.frame.cols - l.fieldSize) / l.stride + 1
  weights_rows : l.weights.rows = l.fieldSize
  weights_cols : l.weights.cols = l.fieldSize
  height_le : l.frame.height ≤ l.weights.height

theorem IsConvolution.slides {l : Layer} (h : l.IsConvolution) : l.Slides where
  stride := h.stride
  field_pos := h.field_pos
  field_le_rows := h.field_le_rows
  field_le_cols := h.field_le_cols
  outputs_rows := h.outputs_rows
  outputs_cols := h.outputs_cols
  weights_rows := h.weights_rows
  weights_cols := h.weights_cols
  height_le := Nat.le_of_eq h.weights_height.symm

instance {l : Layer} : Coe l.IsConvolution l.Slides := ⟨IsConvolution.slides⟩

theorem maxSumsPerFetch_eq_ok {stride sums : Nat} {t : Throughput}
    (h : maxSumsPerFetch stride t = .ok sums) : stride = 1 ∨ stride = 2 ∨ stride = 4 := by
  unfold maxSumsPerFetch at h
  split at h <;> simp_all

theorem maxSumsPerFetch_of_supported {stride : Nat} (h : stride = 1 ∨ stride = 2 ∨ stride = 4)
    (t : Throughput) : ∃ sums, maxSumsPerFetch stride t = .ok sums := by
  rcases h with rfl | rfl | rfl <;> cases t <;> exact ⟨_, rfl⟩

theorem maxSumsPerFetch_of_unsupported {stride : Nat} (h : ¬ (stride = 1 ∨ stride = 2 ∨ stride = 4))
    (t : Throughput) : maxSumsPerFetch stride t = .error (.unsupportedStride stride) := by
  unfold maxSumsPerFetch
  split <;> simp_all

/-- A border leaves the channels alone. -/
theorem withBorder_height (inputs : Shape) (border : Nat) :
    (withBorder inputs border).height = inputs.height := by
  unfold withBorder
  split <;> rfl

theorem withBorder_rows (inputs : Shape) (border : Nat) :
    (withBorder inputs border).rows = inputs.rows + 2 * border := by
  unfold withBorder
  split
  · rfl
  · omega

theorem withBorder_cols (inputs : Shape) (border : Nat) :
    (withBorder inputs border).cols = inputs.cols + 2 * border := by
  unfold withBorder
  split
  · rfl
  · omega

/-- A convolution that was accepted is made of its arguments and two window counts. -/
theorem convolution_eq_ok {name : String} {inputs : Shape} {fieldSize stride border kernels : Nat}
    {activation : Activation} {l : Layer}
    (h : convolution name inputs fieldSize stride border kernels activation = .ok l) :
    (∃ sums, maxSumsPerFetch stride (.ofKernel fieldSize) = .ok sums) ∧
      ∃ rows cols, windowCount name (withBorder inputs border).rows fieldSize stride = .ok rows ∧
        windowCount name (withBorder inputs border).cols fieldSize stride = .ok cols ∧
        l = {
          name, inputs, fieldSize, stride, border, activation
          kind := .convolution
          outputs := .aligned rows cols kernels
          weights := .aligned fieldSize fieldSize inputs.height
          pooling := .none } := by
  unfold convolution at h
  cases hs : maxSumsPerFetch stride (.ofKernel fieldSize) with
  | error e => rw [hs] at h; cases h
  | ok sums =>
    rw [hs] at h
    cases hr : windowCount name (withBorder inputs border).rows fieldSize stride with
    | error e => simp [hr, bind, Except.bind] at h
    | ok rows =>
      cases hc : windowCount name (withBorder inputs border).cols fieldSize stride with
      | error e => simp [hr, hc, bind, Except.bind] at h
      | ok cols =>
        simp only [hr, hc, bind, Except.bind, pure, Except.pure, Except.ok.injEq] at h
        exact ⟨⟨sums, rfl⟩, rows, cols, rfl, rfl, h.symm⟩

theorem isConvolution_of_eq_ok {name : String} {inputs : Shape}
    {fieldSize stride border kernels : Nat} {activation : Activation} {l : Layer}
    (h : convolution name inputs fieldSize stride border kernels activation = .ok l) :
    l.IsConvolution := by
  obtain ⟨⟨sums, hs⟩, rows, cols, hr, hc, rfl⟩ := convolution_eq_ok h
  obtain ⟨-, hpos, hrows, rfl⟩ := windowCount_eq_ok hr
  obtain ⟨-, -, hcols, rfl⟩ := windowCount_eq_ok hc
  exact {
    kind := rfl
    stride := maxSumsPerFetch_eq_ok hs
    field_pos := hpos
    field_le_rows := hrows
    field_le_cols := hcols
    outputs := rfl
    weights := by rw [frame, withBorder_height] }

/-! ## The other layers -/

/-- What the construction of an inner product derives. -/
structure IsInnerProduct (l : Layer) : Prop where
  kind : l.kind = .innerProduct
  border : l.border = 0
  outputs : l.outputs = .aligned 1 l.outputs.cols 1
  weights : l.weights = .aligned (l.inputs.logicalSize + 1) l.outputs.cols 1

theorem isInnerProduct (name : String) (inputs : Shape) (outputs : Nat) (activation : Activation) :
    (innerProduct name inputs outputs activation).IsInnerProduct where
  kind := rfl
  border := rfl
  outputs := rfl
  weights := rfl

/-- What the construction of a pooling layer checks and derives. -/
structure IsPooling (l : Layer) : Prop where
  kind : l.kind = .pooling
  border : l.border = 0
  field_le_rows : l.fieldSize ≤ l.inputs.rows
  field_le_cols : l.fieldSize ≤ l.inputs.cols
  outputs : l.outputs = .aligned ((l.inputs.rows - l.fieldSize) / l.stride + 1)
    ((l.inputs.cols - l.fieldSize) / l.stride + 1) l.inputs.height

/-- A pooling layer that was accepted is made of its arguments and two window counts. -/
theorem poolingLayer_eq_ok {name : String} {inputs : Shape} {fieldSize stride : Nat} {pooling : Pooling}
    {l : Layer} (h : poolingLayer name inputs fieldSize stride pooling = .ok l) :
    ∃ rows cols, windowCount name inputs.rows fieldSize stride = .ok rows ∧
      windowCount name inputs.cols fieldSize stride = .ok cols ∧
      l = {
        name, inputs, fieldSize, stride, pooling
        kind := .pooling
        outputs := .aligned rows cols inputs.height
        weights := .nothing
        border := 0
        activation := .identity } := by
  unfold poolingLayer at h
  cases hr : windowCount name inputs.rows fieldSize stride with
  | error e => simp [hr, bind, Except.bind] at h
  | ok rows =>
    cases hc : windowCount name inputs.cols fieldSize stride with
    | error e => simp [hr, hc, bind, Except.bind] at h
    | ok cols =>
      simp only [hr, hc, bind, Except.bind, pure, Except.pure, Except.ok.injEq] at h
      exact ⟨rows, cols, rfl, rfl, h.symm⟩

theorem isPooling_of_eq_ok {name : String} {inputs : Shape} {fieldSize stride : Nat} {pooling : Pooling}
    {l : Layer} (h : poolingLayer name inputs fieldSize stride pooling = .ok l) : l.IsPooling := by
  obtain ⟨rows, cols, hr, hc, rfl⟩ := poolingLayer_eq_ok h
  obtain ⟨-, -, hrows, rfl⟩ := windowCount_eq_ok hr
  obtain ⟨-, -, hcols, rfl⟩ := windowCount_eq_ok hc
  exact {
    kind := rfl
    border := rfl
    field_le_rows := hrows
    field_le_cols := hcols
    outputs := rfl }

/-! ## All layers -/

/-- The layer comes from one of the constructors. -/
inductive Constructed : Layer → Prop where
  | convolution {name : String} {inputs : Shape} {fieldSize stride border kernels : Nat}
      {activation : Activation} {l : Layer}
      (h : Layer.convolution name inputs fieldSize stride border kernels activation = .ok l) :
      Constructed l
  | innerProduct (name : String) (inputs : Shape) (outputs : Nat) (activation : Activation) :
      Constructed (.innerProduct name inputs outputs activation)
  | pooling {name : String} {inputs : Shape} {fieldSize stride : Nat} {pooling : Pooling} {l : Layer}
      (h : Layer.poolingLayer name inputs fieldSize stride pooling = .ok l) : Constructed l

/-- The shapes of the layer fit together as its kind asks. -/
inductive Consistent (l : Layer) : Prop where
  | convolution (h : l.IsConvolution)
  | innerProduct (h : l.IsInnerProduct)
  | pooling (h : l.IsPooling)

theorem Constructed.consistent {l : Layer} (h : Constructed l) : l.Consistent := by
  cases h with
  | convolution h => exact .convolution (isConvolution_of_eq_ok h)
  | innerProduct name inputs outputs activation =>
    exact .innerProduct (isInnerProduct name inputs outputs activation)
  | pooling h => exact .pooling (isPooling_of_eq_ok h)

/-- The windows of a layer that has some fill its frame. -/
theorem Constructed.windowsFill {l : Layer} (h : l.Constructed) (hkind : l.kind ≠ .innerProduct) :
    WindowsFill l.frame.rows l.fieldSize l.stride l.outputs.rows ∧
      WindowsFill l.frame.cols l.fieldSize l.stride l.outputs.cols := by
  cases h with
  | convolution h =>
    obtain ⟨-, rows, cols, hrows, hcols, rfl⟩ := convolution_eq_ok h
    exact ⟨windowCount_fills hrows, windowCount_fills hcols⟩
  | innerProduct name inputs outputs activation => exact absurd rfl hkind
  | pooling h =>
    obtain ⟨rows, cols, hrows, hcols, rfl⟩ := poolingLayer_eq_ok h
    exact ⟨windowCount_fills hrows, windowCount_fills hcols⟩

/-! ## Footprints -/

theorem inputs_size_le (l : Layer) : l.inputs.size ≤ l.footprint :=
  Nat.le_trans (Nat.le_max_left ..) (Nat.le_max_left ..)

theorem frame_size_le (l : Layer) : l.frame.size ≤ l.footprint :=
  Nat.le_trans (Nat.le_max_right ..) (Nat.le_max_left ..)

theorem outputs_size_le (l : Layer) : l.outputs.size ≤ l.footprint := Nat.le_max_right ..

theorem frame_of_no_border {l : Layer} (h : l.border = 0) : l.frame = l.inputs := by
  rw [frame, h]
  rfl

theorem frame_of_border {l : Layer} (h : 0 < l.border) : l.frame = l.inputs.bordered l.border :=
  if_pos h

end ForwardPass.Layer

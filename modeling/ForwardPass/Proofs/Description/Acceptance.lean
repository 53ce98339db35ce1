import ForwardPass.Proofs.Description

/-!
# Which descriptions are accepted

What a description must say for its network to be put together, layer by layer over the shapes that are
threaded from the input on. No check that comes later refuses what the constructors accept. A description
that does not fit is refused for its first layer that does not, and a network that is put together matches
its description.
-/

namespace ForwardPass

/-! ## One layer -/

namespace LayerDescription

/-- What a described layer asks of the shape it is given. -/
def Fits (d : LayerDescription) (inputs : Shape) : Prop :=
  match d with
  | .conv _ field stride padding _ _ =>
    (stride = 1 ∨ stride = 2 ∨ stride = 4) ∧ 1 ≤ field ∧ field ≤ inputs.rows + 2 * padding ∧
      field ≤ inputs.cols + 2 * padding
  | .fc .. => True
  | .pool _ field stride _ => 1 ≤ stride ∧ 1 ≤ field ∧ field ≤ inputs.rows ∧ field ≤ inputs.cols

/-- The shape a described layer makes of the one it is given. -/
def outputs (d : LayerDescription) (inputs : Shape) : Shape :=
  match d with
  | .conv _ field stride padding kernels _ =>
    .aligned ((inputs.rows + 2 * padding - field) / stride + 1)
      ((inputs.cols + 2 * padding - field) / stride + 1) kernels
  | .fc _ outputs _ => .aligned 1 outputs 1
  | .pool _ field stride _ =>
    .aligned ((inputs.rows - field) / stride + 1) ((inputs.cols - field) / stride + 1) inputs.height

/-- The extent a field does not fit into, as an error; the rows are looked at first. -/
def fieldMisfit? (layer : String) (field rows cols : Nat) : Option EngineError :=
  if field = 0 ∨ rows < field then some (.shapeMismatch layer (.fieldOverExtent field rows))
  else if cols < field then some (.shapeMismatch layer (.fieldOverExtent field cols))
  else none

/-- Why a described layer, number `index` of its network, does not fit the shape it is given. -/
def misfit? (d : LayerDescription) (index : Nat) (inputs : Shape) : Option EngineError :=
  match d with
  | .conv name field stride padding _ _ =>
    if stride = 1 ∨ stride = 2 ∨ stride = 4 then
      fieldMisfit? (name.getD ("conv" ++ toString index)) field (inputs.rows + 2 * padding)
        (inputs.cols + 2 * padding)
    else some (.unsupportedStride stride)
  | .fc .. => none
  | .pool name field stride _ =>
    if stride = 0 then some (.unsupportedStride 0)
    else fieldMisfit? (name.getD ("pool" ++ toString index)) field inputs.rows inputs.cols

theorem fieldMisfit?_eq_none_iff {layer : String} {field rows cols : Nat} :
    fieldMisfit? layer field rows cols = none ↔ 1 ≤ field ∧ field ≤ rows ∧ field ≤ cols := by
  unfold fieldMisfit?
  split
  · simp only [reduceCtorEq, false_iff]
    omega
  · split
    · simp only [reduceCtorEq, false_iff]
      omega
    · simp only [true_iff]
      omega

/-- There is a reason exactly if the layer does not fit. -/
theorem misfit?_eq_none_iff {d : LayerDescription} {index : Nat} {inputs : Shape} :
    d.misfit? index inputs = none ↔ d.Fits inputs := by
  cases d with
  | conv name field stride padding kernels activation =>
    rw [misfit?, Fits]
    split
    · next hstride => rw [fieldMisfit?_eq_none_iff, and_iff_right hstride]
    · next hstride => simp [hstride]
  | fc name outputs activation => exact iff_of_true rfl trivial
  | pool name field stride pooling =>
    rw [misfit?, Fits]
    split
    · next hstride => simp [hstride]
    · next hstride =>
      have hs : 1 ≤ stride := Nat.pos_of_ne_zero hstride
      rw [fieldMisfit?_eq_none_iff, and_iff_right hs]

/-- A field that does not fit is met at the first of the two window counts that it fails. -/
theorem windowCounts_of_misfit {layer : String} {field stride rows cols : Nat} {e : EngineError}
    (hs : 0 < stride) (h : fieldMisfit? layer field rows cols = some e) :
    Layer.windowCount layer rows field stride = .error e ∨
      ∃ count, Layer.windowCount layer rows field stride = .ok count ∧
        Layer.windowCount layer cols field stride = .error e := by
  unfold fieldMisfit? at h
  split at h
  · next hrows =>
    cases h
    exact .inl (Layer.windowCount_of_misfit layer hs hrows)
  · next hrows =>
    split at h
    · next hcols =>
      cases h
      exact .inr ⟨_, Layer.windowCount_of_fits layer hs (by omega) (by omega),
        Layer.windowCount_of_misfit layer hs (.inr hcols)⟩
    · cases h

/-- A layer that fits is made. -/
theorem layer_of_fits {d : LayerDescription} {inputs : Shape} (h : d.Fits inputs) (index : Nat) :
    ∃ l, d.layer index inputs = .ok l := by
  cases d with
  | conv name field stride padding kernels activation =>
    obtain ⟨hstride, hpos, hrows, hcols⟩ := h
    obtain ⟨sums, hsums⟩ := Layer.maxSumsPerFetch_of_supported hstride (.ofKernel field)
    have hs : 0 < stride := by omega
    rw [← Layer.withBorder_rows] at hrows
    rw [← Layer.withBorder_cols] at hcols
    rw [layer, Layer.convolution]
    simp only [hsums, Layer.windowCount_of_fits _ hs hpos hrows, Layer.windowCount_of_fits _ hs hpos hcols,
      bind, Except.bind]
    exact ⟨_, rfl⟩
  | fc name outputs activation => exact ⟨_, rfl⟩
  | pool name field stride pooling =>
    obtain ⟨hs, hpos, hrows, hcols⟩ := h
    rw [layer, Layer.poolingLayer]
    simp only [Layer.windowCount_of_fits _ hs hpos hrows, Layer.windowCount_of_fits _ hs hpos hcols,
      bind, Except.bind]
    exact ⟨_, rfl⟩

/-- A layer that does not fit is refused with the reason. -/
theorem layer_of_misfit {d : LayerDescription} {index : Nat} {inputs : Shape} {e : EngineError}
    (h : d.misfit? index inputs = some e) : d.layer index inputs = .error e := by
  cases d with
  | conv name field stride padding kernels activation =>
    rw [misfit?] at h
    rw [layer, Layer.convolution]
    split at h
    · next hstride =>
      obtain ⟨sums, hsums⟩ := Layer.maxSumsPerFetch_of_supported hstride (.ofKernel field)
      have hs : 0 < stride := by omega
      rw [← Layer.withBorder_rows, ← Layer.withBorder_cols] at h
      obtain hrows | ⟨count, hrows, hcols⟩ := windowCounts_of_misfit hs h
      · simp only [hsums, hrows, bind, Except.bind]
      · simp only [hsums, hrows, hcols, bind, Except.bind]
    · next hstride =>
      cases h
      simp only [Layer.maxSumsPerFetch_of_unsupported hstride, bind, Except.bind]
  | fc name outputs activation => cases h
  | pool name field stride pooling =>
    rw [misfit?] at h
    rw [layer, Layer.poolingLayer]
    split at h
    · next hstride =>
      cases h
      rw [hstride]
      rfl
    · next hstride =>
      obtain hrows | ⟨count, hrows, hcols⟩ := windowCounts_of_misfit (Nat.pos_of_ne_zero hstride) h
      · simp only [hrows, bind, Except.bind]
      · simp only [hrows, hcols, bind, Except.bind]

/-- What a layer produces is told by its description. -/
theorem outputs_of_layer {d : LayerDescription} {index : Nat} {inputs : Shape} {l : Layer}
    (h : d.layer index inputs = .ok l) : l.outputs = d.outputs inputs := by
  cases d with
  | conv name field stride padding kernels activation =>
    obtain ⟨-, rows, cols, hrows, hcols, rfl⟩ := Layer.convolution_eq_ok h
    obtain ⟨-, -, -, rfl⟩ := Layer.windowCount_eq_ok hrows
    obtain ⟨-, -, -, rfl⟩ := Layer.windowCount_eq_ok hcols
    simp only [outputs, Layer.withBorder_rows, Layer.withBorder_cols]
  | fc name outputs activation =>
    cases h
    rfl
  | pool name field stride pooling =>
    obtain ⟨rows, cols, hrows, hcols, rfl⟩ := Layer.poolingLayer_eq_ok h
    obtain ⟨-, -, -, rfl⟩ := Layer.windowCount_eq_ok hrows
    obtain ⟨-, -, -, rfl⟩ := Layer.windowCount_eq_ok hcols
    rfl

end LayerDescription

/-! ## All layers -/

namespace Description

/-- The shape behind these layers. -/
def shapeBehind (inputs : Shape) (ds : List LayerDescription) : Shape :=
  ds.foldl (fun shape d => d.outputs shape) inputs

/-- Every layer of the list fits the shape behind those before it. -/
def AllFit (inputs : Shape) (ds : List LayerDescription) : Prop :=
  ∀ k (d : LayerDescription), ds[k]? = some d → d.Fits (shapeBehind inputs (ds.take k))

/-- Number `k` of a list is the first layer that does not fit; `index` is the number of the whole list's
first layer. -/
structure FirstMisfit (index : Nat) (inputs : Shape) (ds : List LayerDescription) (k : Nat)
    (e : EngineError) : Prop where
  misfit : ∃ d : LayerDescription, ds[k]? = some d ∧
    d.misfit? (index + k) (shapeBehind inputs (ds.take k)) = some e
  earlier : AllFit inputs (ds.take k)

theorem allFit_nil (inputs : Shape) : AllFit inputs [] := fun _ _ h => nomatch h

theorem allFit_cons {inputs : Shape} {d : LayerDescription} {ds : List LayerDescription} :
    AllFit inputs (d :: ds) ↔ d.Fits inputs ∧ AllFit (d.outputs inputs) ds := by
  constructor
  · intro h
    exact ⟨h 0 d rfl, fun k d' hd' => h (k + 1) d' hd'⟩
  · rintro ⟨hd, hds⟩ k d' hd'
    cases k with
    | zero =>
      cases hd'
      exact hd
    | succ k => exact hds k d' hd'

/-- Where all layers before `k'` fit, none of them is the first that does not. -/
theorem FirstMisfit.le_of_allFit {index : Nat} {inputs : Shape} {ds : List LayerDescription} {k k' : Nat}
    {e : EngineError} (h : FirstMisfit index inputs ds k e) (hall : AllFit inputs (ds.take k')) :
    k' ≤ k := by
  by_contra hlt
  obtain ⟨d, hd, he⟩ := h.misfit
  have hfits := hall k d (by rw [List.getElem?_take_of_lt (by omega), hd])
  rw [List.take_take, Nat.min_eq_left (by omega)] at hfits
  rw [LayerDescription.misfit?_eq_none_iff.2 hfits] at he
  cases he

theorem FirstMisfit.not_allFit {index : Nat} {inputs : Shape} {ds : List LayerDescription} {k : Nat}
    {e : EngineError} (h : FirstMisfit index inputs ds k e) : ¬ AllFit inputs ds := by
  intro hall
  obtain ⟨d, hd, -⟩ := h.misfit
  have hle : ds.length ≤ k := h.le_of_allFit (by rwa [List.take_length])
  exact Nat.not_lt.2 hle (List.getElem?_eq_some_iff.1 hd).1

/-- The layers are all made, or the first one that does not fit is refused. -/
theorem layersFrom_ends (index : Nat) (inputs : Shape) (ds : List LayerDescription) :
    (AllFit inputs ds ∧ ∃ layers, layersFrom index inputs ds = .ok layers) ∨
      ∃ k e, FirstMisfit index inputs ds k e ∧ layersFrom index inputs ds = .error e := by
  induction ds generalizing index inputs with
  | nil => exact .inl ⟨allFit_nil inputs, [], rfl⟩
  | cons d ds ih =>
    cases hmisfit : d.misfit? index inputs with
    | some e =>
      refine .inr ⟨0, e, ⟨⟨d, rfl, hmisfit⟩, allFit_nil inputs⟩, ?_⟩
      rw [layersFrom, LayerDescription.layer_of_misfit hmisfit]
      rfl
    | none =>
      have hd := LayerDescription.misfit?_eq_none_iff.1 hmisfit
      obtain ⟨l, hl⟩ := LayerDescription.layer_of_fits hd index
      have houtputs := LayerDescription.outputs_of_layer hl
      obtain ⟨hall, layers, hlayers⟩ | ⟨k, e, ⟨⟨d', hd', he⟩, hearlier⟩, herror⟩ :=
        ih (index + 1) (d.outputs inputs)
      · refine .inl ⟨allFit_cons.2 ⟨hd, hall⟩, l :: layers, ?_⟩
        simp only [layersFrom, hl, houtputs, hlayers, bind, Except.bind, pure, Except.pure]
      · refine .inr ⟨k + 1, e, ⟨⟨d', hd', ?_⟩, allFit_cons.2 ⟨hd, hearlier⟩⟩, ?_⟩
        · rwa [Nat.add_assoc, Nat.add_comm 1] at he
        · simp only [layersFrom, hl, houtputs, herror, bind, Except.bind]

/-- Layers that were made are made one by one, each over the shape behind those before it. -/
theorem layersFrom_getElem? {index : Nat} {inputs : Shape} {ds : List LayerDescription}
    {layers : List Layer} (h : layersFrom index inputs ds = .ok layers) (k : Nat) :
    (ds[k]? = none ∧ layers[k]? = none) ∨ ∃ d l, ds[k]? = some d ∧ layers[k]? = some l ∧
      d.layer (index + k) (shapeBehind inputs (ds.take k)) = .ok l := by
  induction ds generalizing index inputs layers k with
  | nil =>
    cases h
    exact .inl ⟨rfl, rfl⟩
  | cons d ds ih =>
    obtain ⟨l, rest, hl, hrest, rfl⟩ := layersFrom_cons h
    cases k with
    | zero => exact .inr ⟨d, l, rfl, rfl, hl⟩
    | succ k =>
      rw [LayerDescription.outputs_of_layer hl] at hrest
      have hk := ih hrest k
      rwa [Nat.add_assoc, Nat.add_comm 1] at hk

theorem length_layersFrom {index : Nat} {inputs : Shape} {ds : List LayerDescription}
    {layers : List Layer} (h : layersFrom index inputs ds = .ok layers) : layers.length = ds.length := by
  induction ds generalizing index inputs layers with
  | nil =>
    cases h
    rfl
  | cons d ds ih =>
    obtain ⟨l, rest, -, hrest, rfl⟩ := layersFrom_cons h
    exact congrArg (· + 1) (ih hrest)

/-- Layers made one over the other agree on shapes. -/
theorem layersFrom_chain {index : Nat} {inputs : Shape} {ds : List LayerDescription} {layers : List Layer}
    (h : layersFrom index inputs ds = .ok layers) {k : Nat} {a b : Layer} (ha : layers[k]? = some a)
    (hb : layers[k + 1]? = some b) : a.outputs = b.inputs := by
  obtain ⟨-, hnone⟩ | ⟨d, a', hd, ha', hmade⟩ := layersFrom_getElem? h k
  · rw [hnone] at ha
    cases ha
  obtain ⟨-, hnone⟩ | ⟨d', b', hd', hb', hmade'⟩ := layersFrom_getElem? h (k + 1)
  · rw [hnone] at hb
    cases hb
  cases ha'.symm.trans ha
  cases hb'.symm.trans hb
  have hshape : shapeBehind inputs (ds.take (k + 1)) = d.outputs (shapeBehind inputs (ds.take k)) := by
    unfold shapeBehind
    rw [List.take_add_one, hd, List.foldl_append]
    rfl
  rw [LayerDescription.outputs_of_layer hmade, (LayerDescription.layer_eq_ok hmade').2, hshape]

end Description

/-! ## Networks -/

namespace Network

variable {α : Type}

/-- What a network has to do with the description it was put together from. -/
structure Matches [Scalar α] (n : Network α) (d : Description) : Prop where
  length : n.layers.length = d.layers.length
  made : ∀ {k : Nat} {l : LayerDescription}, d.layers[k]? = some l → ∃ m, n.layers[k]? = some m ∧
    l.layer k (Description.shapeBehind d.inputShape (d.layers.take k)) = .ok m
  inputShape : n.inputShape = d.inputShape
  chain : ∀ {k : Nat} {a b : Layer}, n.layers[k]? = some a → n.layers[k + 1]? = some b →
    b.inputs = a.outputs
  windows : ∀ l ∈ n.layers, l.kind ≠ .innerProduct →
    Layer.WindowsFill l.frame.rows l.fieldSize l.stride l.outputs.rows ∧
      Layer.WindowsFill l.frame.cols l.fieldSize l.stride l.outputs.cols
  hasWeights : ∀ s ∈ n.stages, s.weights.isSome = s.layer.hasWeights
  weightsSize : ∀ s ∈ n.stages, ∀ t, s.weights = some t → t.data.size = s.layer.weightsSize
  bufferSize : ∃ l ∈ n.layers, n.bufferSize = d.images * l.footprint ∧
    ∀ l' ∈ n.layers, l'.footprint ≤ l.footprint
  inputs_fit : ∀ l ∈ n.layers, d.images * l.inputs.size ≤ n.bufferSize
  frame_fits : ∀ l ∈ n.layers, d.images * l.frame.size ≤ n.bufferSize
  outputs_fit : ∀ l ∈ n.layers, d.images * l.outputs.size ≤ n.bufferSize
  /-- Any pass over the network takes the description's own sample, and has room for all of it. -/
  sample : ∀ p : Pass α, p.Over n → ∃ p', p.load d.sampleInput = .ok p' ∧
    ∃ rest, p'.buffers.liveBuffer = (d.sampleInput : Tensor α).data ++ rest

end Network

namespace Description

variable {α : Type} [Scalar α] {d : Description} {fill : WeightFill} {n : Network α}

/-- The weights a layer is given are those it needs. -/
theorem weightsFor_eq (fill : WeightFill) (l : Layer) :
    (weightsFor fill l : Option (Tensor α)).isSome = l.hasWeights ∧
      ∀ t : Tensor α, weightsFor fill l = some t → t.data.size = l.weightsSize := by
  unfold weightsFor
  split
  · next hhas =>
    refine ⟨hhas.symm, fun t ht => ?_⟩
    have hsize (t : Tensor α) (hshape : t.shape = l.weights)
        (hbatch : t.batch = if l.kind = .convolution then l.kernelCount else 1) :
        t.data.size = l.weightsSize := by
      rw [t.size_data, hshape, hbatch, Layer.weightsSize]
      cases hkind : l.kind with
      | convolution => rfl
      | innerProduct => exact Nat.one_mul _
      | pooling => simp [Layer.hasWeights, hkind] at hhas
    cases fill <;> cases ht <;> exact hsize _ rfl rfl
  · next hhas =>
    refine ⟨(Bool.eq_false_of_not_eq_true hhas).symm, fun t ht => ?_⟩
    cases ht

theorem checkWeights_weightsFor (fill : WeightFill) (l : Layer) :
    Network.checkWeights (⟨l, weightsFor fill l⟩ : Stage α) = .ok () := by
  obtain ⟨hsome, hsize⟩ := weightsFor_eq (α := α) fill l
  unfold Network.checkWeights
  dsimp only
  cases ht : (weightsFor fill l : Option (Tensor α)) with
  | none =>
    rw [ht] at hsome
    exact if_neg (Bool.not_eq_true _ ▸ hsome.symm)
  | some t => exact if_neg (not_not.2 (hsize t ht))

/-- A description whose network can be put together. -/
structure WellFormed (d : Description) : Prop where
  layers_ne_nil : d.layers ≠ []
  fit : AllFit d.inputShape d.layers

/-- What a description is refused for. -/
inductive Refused (d : Description) : EngineError → Prop where
  | noLayers (empty : d.layers = []) : Refused d (.shapeMismatch d.name .noLayers)
  | layer {k : Nat} {e : EngineError} (first : FirstMisfit 0 d.inputShape d.layers k e) : Refused d e

theorem Refused.not_wellFormed {e : EngineError} (h : d.Refused e) : ¬ d.WellFormed := by
  intro hwell
  cases h with
  | noLayers empty => exact hwell.layers_ne_nil empty
  | layer first => exact first.not_allFit hwell.fit

/-- A description is refused for one thing only. -/
theorem Refused.unique {e e' : EngineError} (h : d.Refused e) (h' : d.Refused e') : e = e' := by
  have hlayer {k : Nat} {e : EngineError} (first : FirstMisfit 0 d.inputShape d.layers k e) :
      d.layers ≠ [] := by
    rintro hempty
    exact first.not_allFit (hempty ▸ allFit_nil d.inputShape)
  cases h with
  | noLayers empty =>
    cases h' with
    | noLayers => rfl
    | layer first => exact absurd empty (hlayer first)
  | @layer k _ first =>
    cases h' with
    | noLayers empty => exact absurd empty (hlayer first)
    | @layer k' _ first' =>
      have hk : k = k' :=
        Nat.le_antisymm (first'.le_of_allFit first.earlier) (first.le_of_allFit first'.earlier)
      subst hk
      obtain ⟨l, hl, he⟩ := first.misfit
      obtain ⟨l', hl', he'⟩ := first'.misfit
      cases hl.symm.trans hl'
      exact Option.some.inj (he.symm.trans he')

/-- The stages of a description are its layers, each with its own weights. -/
theorem mem_stages {layers : List Layer} {s : Stage α}
    (hs : s ∈ List.zipWith Stage.mk layers (layers.map (weightsFor fill))) :
    s = ⟨s.layer, weightsFor fill s.layer⟩ := by
  rw [List.zipWith_map_right, List.zipWith_self] at hs
  obtain ⟨l, -, rfl⟩ := List.mem_map.1 hs
  rfl

/-- A description that is well-formed is put together, any other is refused. -/
theorem network_ends (d : Description) (fill : WeightFill) :
    (d.WellFormed ∧ ∃ n : Network α, d.network fill = .ok n) ∨
      ∃ e, d.Refused e ∧ (d.network fill : Except EngineError (Network α)) = .error e := by
  obtain ⟨hall, layers, hlayers⟩ | ⟨k, e, hfirst, herror⟩ := layersFrom_ends 0 d.inputShape d.layers
  · by_cases hempty : d.layers = []
    · refine .inr ⟨_, .noLayers hempty, ?_⟩
      simp only [network, layerList, hempty, layersFrom, bind, Except.bind]
      rfl
    · have hne : layers ≠ [] := by
        rintro rfl
        exact hempty (List.eq_nil_of_length_eq_zero (length_layersFrom hlayers).symm)
      refine .inl ⟨⟨hempty, hall⟩, ?_⟩
      simp only [network, layerList, hlayers, bind, Except.bind]
      refine Network.ofLayers_of_agree d.name d.images hne (List.length_map _)
        (layersFrom_chain hlayers) fun s hs => ?_
      rw [mem_stages hs]
      exact checkWeights_weightsFor fill s.layer
  · refine .inr ⟨e, .layer hfirst, ?_⟩
    simp only [network, layerList, herror, bind, Except.bind]

/-- A network that is put together matches its description. -/
theorem matches_of_network (h : d.network fill = .ok n) : n.Matches d := by
  obtain ⟨layers, hlayers, hmade⟩ := bind_eq_ok h
  have hconstructed := layersFrom_eq_ok hlayers (Shape.isAligned_aligned ..)
  obtain ⟨himages, hstages, hmap, -, -⟩ := Network.ofLayers_eq_ok hmade
  have hmem {s : Stage α} (hs : s ∈ n.stages) : s = ⟨s.layer, weightsFor fill s.layer⟩ :=
    mem_stages (hstages ▸ hs)
  have hroom {l : Layer} (hl : l ∈ n.layers) : d.images * l.footprint ≤ n.bufferSize := by
    obtain ⟨s, hs, rfl⟩ := List.mem_map.1 hl
    rw [← himages]
    exact Network.footprint_le hs
  have hinputs : n.inputShape = d.inputShape := by
    obtain ⟨-, hnone⟩ | ⟨first, l, -, hl, hfirst⟩ := layersFrom_getElem? hlayers 0
    · rw [← hmap, List.getElem?_eq_none_iff, ← Network.length_stages] at hnone
      exact absurd (List.eq_nil_of_length_eq_zero (Nat.le_zero.1 hnone)) n.stages_ne_nil
    · rw [← hmap] at hl
      exact (Network.inputShape_eq hl).trans (LayerDescription.layer_eq_ok hfirst).2
  have hfits : Pass.Fits n (d.sampleInput : Tensor α) := ⟨hinputs.symm, himages.symm⟩
  exact {
    length := hmap ▸ length_layersFrom hlayers
    made := fun {k l} hl => by
      obtain ⟨hnone, -⟩ | ⟨l', m, hl', hm, hlayer⟩ := layersFrom_getElem? hlayers k
      · rw [hnone] at hl
        cases hl
      · cases hl'.symm.trans hl
        rw [Nat.zero_add] at hlayer
        exact ⟨m, hmap ▸ hm, hlayer⟩
    inputShape := hinputs
    chain := fun ha hb => (layersFrom_chain hlayers (hmap ▸ ha) (hmap ▸ hb)).symm
    windows := fun l hl => (hconstructed l (hmap ▸ hl)).1.windowsFill
    hasWeights := fun s hs => by
      rw [hmem hs]
      exact (weightsFor_eq fill s.layer).1
    weightsSize := fun s hs t ht => by
      rw [hmem hs] at ht
      exact (weightsFor_eq fill s.layer).2 t ht
    bufferSize := by
      rw [← himages]
      exact n.exists_bufferSize_eq
    inputs_fit := fun l hl => Nat.le_trans (Nat.mul_le_mul_left _ l.inputs_size_le) (hroom hl)
    frame_fits := fun l hl => Nat.le_trans (Nat.mul_le_mul_left _ l.frame_size_le) (hroom hl)
    outputs_fit := fun l hl => Nat.le_trans (Nat.mul_le_mul_left _ l.outputs_size_le) (hroom hl)
    sample := fun p hp =>
      ⟨_, hp.load_eq hfits, _, Pass.reset_activations _ (hp.activations ▸ hfits.size_le)⟩ }

theorem images_of_network (h : d.network fill = .ok n) : n.images = d.images := by
  obtain ⟨layers, -, hmade⟩ := bind_eq_ok h
  exact (Network.ofLayers_eq_ok hmade).1

/-- The sample input fits the network it was made for. -/
theorem fits_sampleInput (h : d.network fill = .ok n) : Pass.Fits n (d.sampleInput : Tensor α) where
  shape := (matches_of_network h).inputShape.symm
  batch := (images_of_network h).symm

/-- Which descriptions are accepted, what the others are refused for, and what the network of one that is
accepted looks like. -/
theorem network_accepts (d : Description) (fill : WeightFill) :
    ((∃ n : Network α, d.network fill = .ok n) ↔ d.WellFormed) ∧
      (∀ e, (d.network fill : Except EngineError (Network α)) = .error e ↔ d.Refused e) ∧
      ∀ n : Network α, d.network fill = .ok n → n.Matches d := by
  refine ⟨?_, fun e => ?_, fun n h => matches_of_network h⟩
  · obtain ⟨hwell, n, hn⟩ | ⟨e, hrefused, herror⟩ := network_ends (α := α) d fill
    · exact iff_of_true ⟨n, hn⟩ hwell
    · refine iff_of_false ?_ hrefused.not_wellFormed
      rintro ⟨n, hn⟩
      cases herror.symm.trans hn
  · obtain ⟨hwell, n, hn⟩ | ⟨e', hrefused, herror⟩ := network_ends (α := α) d fill
    · refine iff_of_false ?_ fun hrefused => hrefused.not_wellFormed hwell
      rw [hn]
      nofun
    · constructor
      · intro h
        cases herror.symm.trans h
        exact hrefused
      · intro h
        rw [herror, hrefused.unique h]

/-- A convolution, and behind it a pooling layer with a window that is too large for what is left. -/
def crowded : Description where
  name := "crowded"
  input := { rows := 3, cols := 3 }
  layers := [.conv none 2 1 0 1 .identity, .pool none 3 1 .max]

theorem network_accepts_averaging :
    averaging.WellFormed ∧ @Network.Matches Int integers averagingNetwork averaging ∧
      crowded.Refused (.shapeMismatch "pool1" (.fieldOverExtent 3 2)) := by
  obtain ⟨haccepted, -, hmatches⟩ := @network_accepts Int integers averaging .pattern
  obtain ⟨-, hrefused, -⟩ := @network_accepts Int integers crowded .pattern
  exact ⟨haccepted.1 ⟨averagingNetwork, rfl⟩, hmatches averagingNetwork rfl, (hrefused _).1 rfl⟩

end Description

end ForwardPass

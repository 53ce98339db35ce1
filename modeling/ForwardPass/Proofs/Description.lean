import ForwardPass.Description
import ForwardPass.Proofs.Exact
import ForwardPass.Proofs.Layer.Support
import ForwardPass.Proofs.Network.Pass

/-!
# Described networks

The constructors' checks are all the checks a described network needs: a pass over it stops at the first
layer that is not supported and at nothing else. No other error and no broken contract is left, however
small the shapes, the batch or the kernels are.
-/

namespace ForwardPass

/-! ## Layers -/

/-- A described layer that was accepted is constructed over the shape it was given. -/
theorem LayerDescription.layer_eq_ok {d : LayerDescription} {index : Nat} {inputs : Shape} {l : Layer}
    (h : d.layer index inputs = .ok l) : l.Constructed ∧ l.inputs = inputs := by
  cases d with
  | conv name fieldSize stride padding kernels activation =>
    refine ⟨.convolution h, ?_⟩
    obtain ⟨-, _, _, -, -, rfl⟩ := Layer.convolution_eq_ok h
    rfl
  | fc name outputs activation =>
    cases h
    exact ⟨.innerProduct .., rfl⟩
  | pool name fieldSize stride pooling =>
    refine ⟨.pooling h, ?_⟩
    obtain ⟨_, _, -, -, rfl⟩ := Layer.poolingLayer_eq_ok h
    rfl

namespace Description

/-- Layers are made one after the other, each over what the one before it produces. -/
theorem layersFrom_cons {index : Nat} {inputs : Shape} {d : LayerDescription}
    {ds : List LayerDescription} {layers : List Layer}
    (h : layersFrom index inputs (d :: ds) = .ok layers) :
    ∃ l rest, d.layer index inputs = .ok l ∧ layersFrom (index + 1) l.outputs ds = .ok rest ∧
      layers = l :: rest := by
  rw [layersFrom] at h
  cases hlayer : d.layer index inputs with
  | error e => simp [hlayer, bind, Except.bind] at h
  | ok l =>
    cases hrest : layersFrom (index + 1) l.outputs ds with
    | error e => simp [hlayer, hrest, bind, Except.bind] at h
    | ok rest =>
      simp only [hlayer, hrest, bind, Except.bind, pure, Except.pure, Except.ok.injEq] at h
      exact ⟨l, rest, rfl, hrest, h.symm⟩

/-- Every layer of a description is constructed, and the first shape being aligned so are all. -/
theorem layersFrom_eq_ok {index : Nat} {inputs : Shape} {ds : List LayerDescription}
    {layers : List Layer} (h : layersFrom index inputs ds = .ok layers) (ha : inputs.IsAligned) :
    ∀ l ∈ layers, l.Constructed ∧ l.inputs.IsAligned := by
  induction ds generalizing index inputs layers with
  | nil =>
    cases h
    intro l hl
    cases hl
  | cons d ds ih =>
    obtain ⟨first, rest, hfirst, hrest, rfl⟩ := layersFrom_cons h
    obtain ⟨hconstructed, rfl⟩ := LayerDescription.layer_eq_ok hfirst
    intro l hl
    rcases List.mem_cons.1 hl with rfl | hl
    · exact ⟨hconstructed, ha⟩
    -- What a constructor produces is aligned, so the next layer is over an aligned shape again.
    · exact ih hrest hconstructed.consistent.outputs_aligned l hl

variable {α : Type} [Scalar α] {d : Description} {fill : WeightFill} {n : Network α}

/-- A described network is put together soundly, over aligned shapes. -/
theorem network_eq_ok (h : d.network fill = .ok n) :
    n.Sound ∧ ∀ s ∈ n.stages, s.layer.inputs.IsAligned := by
  unfold network at h
  cases hlayers : d.layerList with
  | error e => simp [hlayers, bind, Except.bind] at h
  | ok layers =>
    simp only [hlayers, bind, Except.bind] at h
    have hall := layersFrom_eq_ok hlayers (Shape.isAligned_aligned ..)
    obtain ⟨-, -, hmap, -⟩ := Network.ofLayers_eq_ok h
    refine ⟨Network.sound_of_ofLayers h fun l hl => (hall l hl).1.consistent, fun s hs => ?_⟩
    refine (hall s.layer ?_).2
    rw [← hmap]
    exact List.mem_map_of_mem hs

/-! ## Obstacles -/

omit [Scalar α] in
/-- Over aligned shapes every layer is supported and there is no obstacle, or the first layer that is not
supported is the obstacle. -/
theorem obstacle?_cases (ha : ∀ s ∈ n.stages, s.layer.inputs.IsAligned) :
    ((∀ l ∈ n.layers, l.Supported n.images) ∧ Stage.obstacle? n.images n.stages = none) ∨
      ∃ before l, n.layers[before]? = some l ∧ ¬ l.Supported n.images ∧
        (∀ k < before, ∀ l, n.layers[k]? = some l → l.Supported n.images) ∧
        Stage.obstacle? n.images n.stages = some (before, l.refusal) := by
  cases hobstacle : Stage.obstacle? n.images n.stages with
  | none =>
    refine .inl ⟨fun l hl => ?_, rfl⟩
    obtain ⟨s, hs, rfl⟩ := List.mem_map.1 hl
    exact (Layer.obstacle?_eq_none_iff_supported (ha s hs)).1 (Stage.obstacle?_eq_none_iff.1 hobstacle s hs)
  | some first =>
    obtain ⟨before, e⟩ := first
    obtain ⟨s, hs, he, hearlier⟩ := Stage.obstacle?_eq_some hobstacle
    have hnot : ¬ s.layer.Supported n.images := by
      intro hsupported
      rw [hsupported.obstacle?_eq (ha s (List.mem_of_getElem? hs))] at he
      cases he
    rw [Layer.obstacle?_of_not_supported hnot] at he
    cases he
    refine .inr ⟨before, s.layer, ?_, hnot, fun k hk l hl => ?_, rfl⟩
    · rw [Network.layers, List.getElem?_map, hs]
      rfl
    · rw [Network.layers, List.getElem?_map] at hl
      obtain ⟨t, ht, rfl⟩ := Option.map_eq_some_iff.1 hl
      exact (Layer.obstacle?_eq_none_iff_supported (ha t (List.mem_of_getElem? ht))).1 (hearlier k hk t ht)

/-! ## Passes -/

/-- A pass over a described network gives an output exactly if every layer is supported. Otherwise it stops
at the first layer that is not, and the answer names that layer's pooling or the width of its kernel. -/
theorem forward_completes_iff {p : Pass α} {input : Tensor α} (h : d.network fill = .ok n)
    (hp : p.Over n) (hi : Pass.Fits n input) (blocks : Blocks) (ledger : Ledger) :
    ((∃ slot run, Pass.forward blocks input ⟨p, ledger⟩ = .ok slot run) ↔
        ∀ l ∈ n.layers, l.Supported n.images) ∧
      (∀ slot run, Pass.forward blocks input ⟨p, ledger⟩ = .ok slot run →
        ∃ t, run.pass.output = .ok t) ∧
      ∀ failure run, Pass.forward blocks input ⟨p, ledger⟩ = .error failure run →
        ∃ l, n.layers[run.pass.next]? = some l ∧ ¬ l.Supported n.images ∧
          (∀ k < run.pass.next, ∀ l, n.layers[k]? = some l → l.Supported n.images) ∧
          failure = .error l.refusal := by
  obtain ⟨hsound, haligned⟩ := network_eq_ok h
  rcases obstacle?_cases haligned with ⟨hall, hnone⟩ | ⟨before, l, hl, hnot, hearlier, hfirst⟩
  · obtain ⟨p', hforward, hat⟩ := hp.forward_completes blocks ledger hsound hi hnone
    rw [hforward]
    refine ⟨⟨fun _ => hall, fun _ => ⟨_, _, rfl⟩⟩, fun slot run hok => ?_, fun failure run herr => ?_⟩
    · cases hok
      exact ⟨_, hat.output_eq⟩
    · cases herr
  · obtain ⟨p', hforward, hstopped⟩ := hp.forward_refused blocks ledger hsound hi hfirst
    obtain rfl : p'.next = before := hstopped.next
    rw [hforward]
    refine ⟨⟨fun hok => ?_, fun hall => ?_⟩, fun slot run hok => ?_, fun failure run herr => ?_⟩
    · obtain ⟨_, _, hok⟩ := hok
      cases hok
    · exact absurd (hall l (List.mem_of_getElem? hl)) hnot
    · cases hok
    · cases herr
      exact ⟨l, hl, hnot, hearlier, rfl⟩

/-- A convolution that is supported, and behind it a pooling layer that is not. -/
def averaging : Description where
  name := "averaging"
  input := { rows := 3, cols := 3 }
  layers := [.conv none 2 1 0 1 .identity, .pool none 2 1 .avg]

def averagingLayers : List Layer := [
  { name := "conv0", kind := .convolution, inputs := ⟨3, 3, 1, 5⟩, outputs := ⟨2, 2, 1, 6⟩,
    weights := ⟨2, 2, 1, 6⟩, fieldSize := 2, stride := 1, border := 0, activation := .identity,
    pooling := .none },
  { name := "pool1", kind := .pooling, inputs := ⟨2, 2, 1, 6⟩, outputs := ⟨1, 1, 1, 7⟩,
    weights := .nothing, fieldSize := 2, stride := 1, border := 0, activation := .identity,
    pooling := .avg }]

def averagingNetwork : Network Int where
  name := "averaging"
  images := 1
  stages := List.zipWith Stage.mk averagingLayers (averagingLayers.map (@weightsFor Int integers .pattern))
  stages_ne_nil := by simp [averagingLayers]

theorem forward_completes_iff_averaging :
    @network Int integers averaging .pattern = .ok averagingNetwork ∧
      (@Pass.start Int integers averagingNetwork).Over averagingNetwork ∧
      Pass.Fits averagingNetwork (@sampleInput Int integers averaging) ∧
      ∃ run, @Pass.forward Int integers {} (@sampleInput Int integers averaging)
        ⟨@Pass.start Int integers averagingNetwork, {}⟩ =
          .error (.error (.unsupportedPooling "pool1" .avg)) run ∧ run.pass.next = 1 := by
  have hover := @Pass.over_start Int integers averagingNetwork
  have hfits : Pass.Fits averagingNetwork (@sampleInput Int integers averaging) := ⟨rfl, rfl⟩
  obtain ⟨hiff, -, herror⟩ :=
    @forward_completes_iff Int integers averaging .pattern averagingNetwork _ _ rfl hover hfits {} {}
  refine ⟨rfl, hover, hfits, ?_⟩
  cases hforward : @Pass.forward Int integers {} (@sampleInput Int integers averaging)
      ⟨@Pass.start Int integers averagingNetwork, {}⟩ with
  | ok slot run =>
    have hpool := (hiff.1 ⟨slot, run, hforward⟩ averagingLayers[1] (by decide)).pooling rfl
    cases hpool
  | error failure run =>
    obtain ⟨l, hl, hnot, -, rfl⟩ := herror failure run hforward
    obtain hnext | hnext | hnext : run.pass.next = 0 ∨ run.pass.next = 1 ∨ 2 ≤ run.pass.next := by omega
    · rw [hnext] at hl
      cases hl
      exact absurd { pooling := by decide, field := by decide } hnot
    · rw [hnext] at hl
      cases hl
      exact ⟨run, rfl, hnext⟩
    · rw [List.getElem?_eq_none (show averagingNetwork.layers.length ≤ _ from hnext)] at hl
      cases hl

end Description

end ForwardPass

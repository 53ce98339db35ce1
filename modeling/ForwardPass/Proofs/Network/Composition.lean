import ForwardPass.Proofs.Exact
import ForwardPass.Proofs.Layer.Support
import ForwardPass.Proofs.Network.Pass

/-!
# A pass is the composition of its layers

For networks of layers that the accelerator supports a whole pass always gives an output, and the output is
the input carried through one function on batches for each layer. What the buffers held before plays no part.
-/

namespace ForwardPass

/-- The layer is made by a constructor, over an aligned input, and within what the accelerator supports for
any number of images. -/
structure Layer.Regular (l : Layer) : Prop where
  constructed : l.Constructed
  aligned : l.inputs.IsAligned
  field : l.kind = .convolution → l.fieldSize ≤ vectorLanes
  pooling : l.kind = .pooling → l.pooling = .max

theorem Layer.Regular.supported {l : Layer} (h : l.Regular) (images : Nat) : l.Supported images where
  pooling := h.pooling
  field hkind _ _ _ := h.field hkind

/-- A network of regular layers is put together soundly and has no obstacle. -/
theorem Network.regular_of_ofLayers {α : Type} {name : String} {images : Nat} {layers : List Layer}
    {weights : List (Option (Tensor α))} {n : Network α}
    (h : ofLayers name images layers weights = .ok n) (hlayers : ∀ l ∈ layers, l.Regular) :
    n.Sound ∧ Stage.obstacle? n.images n.stages = none := by
  refine ⟨sound_of_ofLayers h fun l hl => (hlayers l hl).constructed.consistent, ?_⟩
  obtain ⟨-, -, hmap, -⟩ := ofLayers_eq_ok h
  refine Stage.obstacle?_eq_none_iff.2 fun s hs => ?_
  have hmem : s.layer ∈ layers := by
    rw [← hmap]
    exact List.mem_map_of_mem hs
  exact ((hlayers _ hmem).supported _).obstacle?_eq (hlayers _ hmem).aligned

namespace Pass

variable {α : Type} [Scalar α]

/-- A whole pass over regular layers gives an output, and its stored data, pad lanes included, is the input
carried through the layers in turn. -/
theorem forward_composes {name : String} {images : Nat} {layers : List Layer}
    {weights : List (Option (Tensor α))} {n : Network α} {p : Pass α} {input : Tensor α}
    (h : Network.ofLayers name images layers weights = .ok n) (hlayers : ∀ l ∈ layers, l.Regular)
    (hp : p.Over n) (hi : Fits n input) (blocks : Blocks) (ledger : Ledger) :
    ∃ slot run, forward blocks input ⟨p, ledger⟩ = .ok slot run ∧
      run.pass.output = .ok (.ofBatch "output" n.outputShape images
        (Stage.applyAll (List.zipWith Stage.mk layers weights) (n.inputShape.read input.data))) := by
  obtain ⟨hsound, hnone⟩ := Network.regular_of_ofLayers h hlayers
  obtain ⟨himages, hstages, -⟩ := Network.ofLayers_eq_ok h
  obtain ⟨p', hforward, hat⟩ := hp.forward_completes blocks ledger hsound hi hnone
  refine ⟨_, _, hforward, ?_⟩
  rw [← hstages, ← himages]
  exact hat.output_eq

/-- A bordered convolution by two kernels, a pooling layer and an inner product. -/
def smallLayers : List Layer := [
  { name := "conv", kind := .convolution, inputs := ⟨2, 3, 1, 5⟩, outputs := ⟨3, 4, 2, 4⟩,
    weights := ⟨2, 2, 1, 6⟩, fieldSize := 2, stride := 1, border := 1, activation := .relu,
    pooling := .none },
  { name := "pool", kind := .pooling, inputs := ⟨3, 4, 2, 4⟩, outputs := ⟨1, 2, 2, 6⟩,
    weights := .nothing, fieldSize := 2, stride := 2, border := 0, activation := .identity,
    pooling := .max },
  { name := "fc", kind := .innerProduct, inputs := ⟨1, 2, 2, 6⟩, outputs := ⟨1, 3, 1, 5⟩,
    weights := ⟨5, 3, 1, 5⟩, fieldSize := 0, stride := 0, border := 0, activation := .identity,
    pooling := .none }]

/-- A tensor that counts up from `first`, pad lanes included. -/
def counting (name : String) (shape : Shape) (batch : Nat) (first : Int) : Tensor Int where
  name := name
  shape := shape
  batch := batch
  data := Array.ofFn fun i : Fin (batch * shape.size) => first + i
  size_data := Array.size_ofFn

def smallWeights : List (Option (Tensor Int)) :=
  [some (counting "conv" ⟨2, 2, 1, 6⟩ 2 (-9)), none, some (counting "fc" ⟨5, 3, 1, 5⟩ 1 (-20))]

def small : Network Int where
  name := "small"
  images := 1
  stages := List.zipWith Stage.mk smallLayers smallWeights
  stages_ne_nil := by simp [smallLayers, smallWeights]

theorem regular_smallLayers : ∀ l ∈ smallLayers, l.Regular := by
  intro l hl
  simp only [smallLayers, List.mem_cons, List.not_mem_nil, or_false] at hl
  obtain rfl | rfl | rfl := hl
  · have h : Layer.convolution "conv" ⟨2, 3, 1, 5⟩ 2 1 1 2 .relu = .ok _ := rfl
    exact ⟨.convolution h, rfl, by decide, by decide⟩
  · have h : Layer.poolingLayer "pool" ⟨3, 4, 2, 4⟩ 2 2 .max = .ok _ := rfl
    exact ⟨.pooling h, rfl, by decide, by decide⟩
  · exact ⟨.innerProduct "fc" ⟨1, 2, 2, 6⟩ 3 .identity, rfl, by decide, by decide⟩

theorem forward_composes_small :
    Network.ofLayers "small" 1 smallLayers smallWeights = .ok small ∧
      (∀ l ∈ smallLayers, l.Regular) ∧ (@start Int integers small).Over small ∧
      Fits small (counting "input" ⟨2, 3, 1, 5⟩ 1 1) ∧
      ∃ slot run t, @forward Int integers {} (counting "input" ⟨2, 3, 1, 5⟩ 1 1)
        ⟨@start Int integers small, {}⟩ = .ok slot run ∧ run.pass.output = .ok t ∧
        t.data.toList = [196, 879, 1562, 0, 0, 0, 0, 0] := by
  have hover := @over_start Int integers small
  have hfits : Fits small (counting "input" ⟨2, 3, 1, 5⟩ 1 1) := ⟨rfl, rfl⟩
  obtain ⟨slot, run, hforward, houtput⟩ :=
    @forward_composes Int integers "small" 1 _ smallWeights _ _ _ rfl regular_smallLayers hover hfits {} {}
  exact ⟨rfl, regular_smallLayers, hover, hfits, slot, run, _, hforward, houtput, by decide +kernel⟩

end Pass

end ForwardPass

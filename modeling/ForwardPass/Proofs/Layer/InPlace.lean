import ForwardPass.Proofs.Exact
import ForwardPass.Proofs.Layer.Execution

/-!
# Convolutions in place

A convolution with a border lays its frame out in the buffer for its result and writes its output over its
input. It is the convolution without a border of that frame: `unbordered` is the layer that reads the frame
as its input, and what it leaves in its result is what the layer with the border leaves where its input was.
-/

namespace ForwardPass.Layer

variable {α : Type} [Scalar α] {l : Layer} {x : Batch α} {weights : Array α} {images : Nat}

/-- The convolution without a border whose input is the frame. -/
def unbordered (l : Layer) : Layer := { l with inputs := l.frame, border := 0 }

omit [Scalar α] in
@[simp]
theorem frame_unbordered (l : Layer) : l.unbordered.frame = l.frame := rfl

omit [Scalar α] in
/-- The layer that reads the frame is accepted like the one that lays it out. -/
theorem convolution_unbordered {name : String} {inputs : Shape} {k stride border kernelCount : Nat}
    {activation : Activation}
    (h : convolution name inputs k stride border kernelCount activation = .ok l) :
    convolution name l.frame k stride 0 kernelCount activation = .ok l.unbordered := by
  obtain ⟨⟨sums, hsums⟩, rows, cols, hrows, hcols, rfl⟩ := convolution_eq_ok h
  have hframe (border : Nat) : withBorder (withBorder inputs border) 0 = withBorder inputs border := rfl
  have hheight := withBorder_height inputs border
  simp only [convolution, frame, hframe, hsums, hrows, hcols, hheight]
  rfl

/-- Both layers convolve the same frames alike. -/
theorem convolved_unbordered (l : Layer) (weights : Array α) (x : Batch α) :
    l.unbordered.convolved weights x = l.convolved weights x := rfl

/-- A convolution with a border, whatever its two buffers hold besides the logical elements `x` of its
input: it runs, `staged` is the frame of `x` in front of the buffer for its result, and `output` is in front
of the buffer that held its input. The layer that reads the frame leaves the same `output` when its input
buffer begins with `staged`. -/
theorem run_inPlace_unbordered {name : String} {inputs : Shape} {k stride border kernelCount : Nat}
    {activation : Activation} (h : convolution name inputs k stride border kernelCount activation = .ok l)
    (hk : k ≤ vectorLanes) (hborder : 0 < border) (hweights : l.weightsSize ≤ weights.size)
    (images : Nat) (x : Batch α) :
    convolution name l.frame k stride 0 kernelCount activation = .ok l.unbordered ∧
    ∃ staged output : Array α,
      staged.size = images * l.frame.size ∧ output.size = images * l.outputs.size ∧
      (∀ image < images, ∀ chan < inputs.height, ∀ r < l.frame.rows, ∀ q < l.frame.rowLanes,
        staged[Tensor.position l.frame image chan r q]? = some (
          if (border ≤ r ∧ r < border + inputs.rows) ∧ border ≤ q ∧ q < border + inputs.cols then
            x image chan (r - border) (q - border)
          else 0)) ∧
      (∀ (blocks : Blocks) (ledger : Ledger) (activations result : Array α),
        inputs.Shows images activations x → images * l.footprint ≤ activations.size →
        images * l.footprint ≤ result.size →
        ∃ ledger', l.run blocks weights images ⟨ledger, activations, result⟩ = .ok .inPlace
          ⟨ledger', output ++ activations.extract (images * l.outputs.size),
            staged ++ result.extract (images * l.frame.size)⟩) ∧
      (∀ (blocks : Blocks) (ledger : Ledger) (rest result : Array α),
        images * l.unbordered.footprint ≤ (staged ++ rest).size →
        images * l.unbordered.footprint ≤ result.size →
        ∃ ledger', l.unbordered.run blocks weights images ⟨ledger, staged ++ rest, result⟩ = .ok .across
          ⟨ledger', staged ++ rest, output ++ result.extract (images * l.outputs.size)⟩) := by
  have hl := isConvolution_of_eq_ok h
  have hunbordered := convolution_unbordered h
  obtain ⟨-, _, _, -, -, hfields⟩ := convolution_eq_ok h
  have hinputs : l.inputs = inputs := by rw [hfields]
  have hfield : l.fieldSize = k := by rw [hfields]
  have hwidth : l.border = border := by rw [hfields]
  have hinside : 0 < l.border := hwidth ▸ hborder
  have hframe : l.frame = inputs.bordered border := by rw [frame_of_border hinside, hinputs, hwidth]
  -- The rows of a frame are whole vectors, whatever the rows of the input are.
  have hfit : l.PlanesFit images := fun _ _ _ =>
    ⟨hfield ▸ hk, hframe ▸ Shape.aligned_rowLanes_mod ..⟩
  refine ⟨hunbordered, l.frame.tabulate images (Border.framed inputs border x),
    l.outputs.tabulate images (l.convolved weights (Border.framed inputs border x)),
    Shape.size_tabulate .., Shape.size_tabulate .., ?_, ?_, ?_⟩
  · intro image hi chan hc r hr q hq
    rw [← hinputs, ← withBorder_height l.inputs l.border] at hc
    exact l.frame.holds_tabulate images _ hi hc hr hq
  · intro blocks ledger activations result hx hactivations hresult
    have hready : l.Ready images weights ⟨ledger, activations, result⟩ := ⟨hactivations, hresult, hweights⟩
    have hwork := hl.work_inPlace hready hfit hinside (hinputs ▸ hx)
    rw [hinputs, hwidth] at hwork
    refine ⟨l.account blocks images ledger, ?_⟩
    rw [run_eq blocks hready, hwork]
    rfl
  · intro blocks ledger rest result hactivations hresult
    have hready : l.unbordered.Ready images weights
        ⟨ledger, l.frame.tabulate images (Border.framed inputs border x) ++ rest, result⟩ :=
      ⟨hactivations, hresult, hweights⟩
    have hwork := (isConvolution_of_eq_ok hunbordered).work_across hready hfit rfl
      (l.frame.holds_append images (Border.framed inputs border x) rest)
    refine ⟨l.unbordered.account blocks images ledger, ?_⟩
    rw [run_eq blocks hready, hwork, convolved_unbordered]
    rfl

/-- One column of input: its frame has five columns, and so rows of another length than its own. -/
def narrow : Layer where
  name := "narrow"
  kind := .convolution
  inputs := ⟨2, 1, 1, 7⟩
  outputs := ⟨4, 3, 1, 5⟩
  weights := ⟨3, 3, 1, 5⟩
  fieldSize := 3
  stride := 1
  border := 2
  activation := .identity
  pooling := .none

theorem run_narrow_unbordered :
    convolution "narrow" ⟨2, 1, 1, 7⟩ 3 1 2 1 .identity = .ok narrow ∧ 3 ≤ vectorLanes ∧ 0 < 2 ∧
      narrow.weightsSize ≤ (Array.ofFn fun i : Fin 24 => (i.val : Int)).size ∧
      ∃ w, @run Int integers narrow {} (Array.ofFn fun i : Fin 24 => (i.val : Int)) 1
          ⟨{}, Array.ofFn fun i : Fin 48 => (i.val : Int) + 5, Array.replicate 49 (-1)⟩ =
          .ok .inPlace w ∧
        w.result[26]? = some 13 ∧ w.result[27]? = some 0 ∧ w.result[48]? = some (-1) := by
  refine ⟨rfl, by decide, by decide, by decide, ?_⟩
  let activations := Array.ofFn fun i : Fin 48 => (i.val : Int) + 5
  have hshows : Shape.Shows ⟨2, 1, 1, 7⟩ 1 activations (Shape.read ⟨2, 1, 1, 7⟩ activations) :=
    (Shape.holds_read ⟨2, 1, 1, 7⟩ (by decide)).shows
  obtain ⟨-, staged, output, hsize, -, hstaged, hrun, -⟩ := @run_inPlace_unbordered Int integers narrow
    (Array.ofFn fun i : Fin 24 => (i.val : Int)) "narrow" ⟨2, 1, 1, 7⟩ 3 1 2 1 .identity rfl (by decide)
    (by decide) (by decide) 1 (Shape.read ⟨2, 1, 1, 7⟩ activations)
  obtain ⟨ledger, hrun⟩ := hrun {} {} activations (Array.replicate 49 (-1)) hshows (by decide) (by decide)
  have hfront {i : Nat} (hi : i < 48) (back : Array Int) : (staged ++ back)[i]? = staged[i]? :=
    Array.getElem?_append_left (hsize ▸ hi)
  have hcorner := hstaged 0 (by decide) 0 (by decide) 3 (by decide) 2 (by decide)
  have hside := hstaged 0 (by decide) 0 (by decide) 3 (by decide) 3 (by decide)
  refine ⟨_, hrun, ?_, ?_, ?_⟩
  · rw [hfront (by decide)]
    refine hcorner.trans ?_
    decide +kernel
  · rw [hfront (by decide)]
    refine hside.trans ?_
    decide +kernel
  · rw [Array.getElem?_append_right (by rw [hsize]; decide), hsize]
    rfl

end ForwardPass.Layer

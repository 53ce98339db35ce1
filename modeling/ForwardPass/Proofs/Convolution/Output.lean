import ForwardPass.Proofs.Convolution.Planes
import ForwardPass.Proofs.Exact
import ForwardPass.Proofs.Layer.Construction

/-!
# What a convolution leaves in its result

The convolved batch in front, and behind it what the result held. A logical element is the activation of
its channels, added up from zero in channel order; a pad lane is a sum of zeros that no activation
reaches. Nothing of it depends on the result's old elements, though all kernels share one scratch.
-/

namespace ForwardPass.Layer

variable {α : Type} [Scalar α] {l : Layer} {x : Batch α} {activations weights : Array α}
  {images image kernel r c : Nat}

/-! ## Planes -/

/-- A plane convolution gives a result with `value` at the pixel, whatever its buffer held. -/
def Computes (l : Layer) (at_ : PlaneIndex) (activations weights : Array α) (r c : Nat) (value : α) :
    Prop :=
  ∀ planes : Array α, (at_.channel + 1) * l.outputs.planeSize ≤ planes.size →
    Yields (l.convolvePlane at_ activations weights planes) fun planes' =>
      planes'[l.outputs.offset at_.channel r c]? = some value

/-- A plane of a layer that fits its buffers is computed, pixel by pixel. -/
theorem computes_of_ready {at_ : PlaneIndex} (h : l.IsConvolution) (hfield : l.fieldSize ≤ vectorLanes)
    (haligned : l.frame.rowLanes % vectorLanes = 0)
    (hholds : l.frame.Holds (at_.image + 1) activations x) (hchannel : at_.channel < l.frame.height)
    (hweights : (at_.kernel + 1) * l.weights.size ≤ weights.size) (hr : r < l.outputs.rows)
    (hc : c < l.outputs.cols) :
    l.Computes at_ activations weights r c (l.planeValue x weights at_ r c) := by
  intro planes hplanes
  have hready : l.PlaneReady at_ x activations weights planes.size := {
    layer := h
    field := hfield
    aligned := haligned
    holds := hholds
    channel := hchannel
    kernels := hweights
    result := hplanes }
  refine (convolvePlane_yields hready).mono fun planes' hwritten => ?_
  rw [hwritten.inside _ ⟨r, hr, c, hc, rfl⟩, planeValues,
    l.outputs.unpack_offset _ hr (Nat.lt_of_lt_of_le hc l.outputs.cols_le_rowLanes)]

/-- Every plane of a batch is computed. -/
theorem BatchReady.computes (h : l.BatchReady images x activations weights) (hi : image < images)
    (hk : kernel < l.kernelCount) {chan : Nat} (hc : chan < l.frame.height) (hr : r < l.outputs.rows)
    (hcol : c < l.outputs.cols) :
    l.Computes ⟨image, kernel, chan⟩ activations weights r c
      (l.planeValue x weights ⟨image, kernel, chan⟩ r c) := by
  obtain ⟨hfield, haligned⟩ := h.fit (by omega) (by omega) (by omega)
  exact computes_of_ready h.layer hfield haligned (h.holds.take hi) hc
    (Nat.le_trans (Nat.mul_le_mul_right _ hk) h.weights) hr hcol

/-! ## The result -/

/-- Where two zeros make a zero, the pad lanes are zeros. -/
theorem padSum_eq (h : (0 : α) + 0 = 0) : l.padSum = (0 : α) := by
  unfold padSum
  induction List.range l.frame.height with
  | nil => rfl
  | cons chan chans ih => rwa [List.foldl_cons, h]

theorem convolved_pad (h : (0 : α) + 0 = 0) {q : Nat} (hq : l.outputs.cols ≤ q) :
    l.convolved weights x image kernel r q = 0 := by
  rw [convolved, if_neg (Nat.not_lt.2 hq), padSum_eq h]

/-- On buffers that are long enough a convolution gives a result. What it writes is one output for all
results it may be given: at a logical element the activation of the planes of the channels, added up in
channel order, and zero in the pad lanes. -/
theorem convolve_adds_channels {name : String} {inputs : Shape} {k stride border kernelCount : Nat}
    {activation : Activation} (h : convolution name inputs k stride border kernelCount activation = .ok l)
    (hk : k ≤ vectorLanes) (haligned : l.frame.rowLanes % vectorLanes = 0)
    (hactivations : images * l.frame.size ≤ activations.size)
    (hweights : l.weightsSize ≤ weights.size) :
    ∃ output : Array α, output.size = images * l.outputs.size ∧
      (∀ result : Array α, images * l.outputs.size ≤ result.size →
        l.convolve images activations weights result =
          .ok () (output ++ result.extract (images * l.outputs.size))) ∧
      ∀ image < images, ∀ kernel < kernelCount, ∀ r < l.outputs.rows,
        (∀ c < l.outputs.cols,
          let value chan := l.planeValue (l.frame.read activations) weights ⟨image, kernel, chan⟩ r c
          (∀ chan < inputs.height,
            l.Computes ⟨image, kernel, chan⟩ activations weights r c (value chan)) ∧
          output[Tensor.position l.outputs image kernel r c]? = some (activation.apply
            ((List.range inputs.height).foldl (fun sum chan => sum + value chan) 0))) ∧
        ((0 : α) + 0 = 0 → ∀ q, l.outputs.cols ≤ q → q < l.outputs.rowLanes →
          output[Tensor.position l.outputs image kernel r q]? = some 0) := by
  have hl := isConvolution_of_eq_ok h
  obtain ⟨-, _, _, -, -, hfields⟩ := convolution_eq_ok h
  have hfield : l.fieldSize = k := by rw [hfields]
  have hactivation : l.activation = activation := by rw [hfields]
  have hkernels : l.kernelCount = kernelCount := by rw [hfields]; rfl
  have hchannels : l.frame.height = inputs.height := by rw [hfields, frame, withBorder_height]
  have hready : l.BatchReady images (l.frame.read activations) activations weights := {
    layer := hl
    fit := fun _ _ _ => ⟨hfield ▸ hk, haligned⟩
    holds := l.frame.holds_read hactivations
    weights := by rwa [weightsSize, hl.kind] at hweights }
  have hholds := l.outputs.holds_tabulate images (l.convolved weights (l.frame.read activations))
  refine ⟨_, l.outputs.size_tabulate images _, fun result hsize => hready.convolve_eq hsize, ?_⟩
  intro image hi kernel hkernel r hr
  rw [← hkernels] at hkernel
  refine ⟨fun c hc => ⟨fun chan hchan => ?_, ?_⟩, fun hzero q hcols hq => ?_⟩
  · exact hready.computes hi hkernel (hchannels ▸ hchan) hr hc
  · have hlane := Nat.lt_of_lt_of_le hc l.outputs.cols_le_rowLanes
    rw [hholds hi hkernel hr hlane, convolved, if_pos hc, hactivation, channelSum, hchannels]
  · rw [hholds hi hkernel hr hq, convolved_pad hzero hcols]

/-- Two channels and two kernels: the second kernel works on the scratch of the first. -/
def twoKernels : Layer where
  name := "pair"
  kind := .convolution
  inputs := ⟨3, 4, 2, 4⟩
  outputs := ⟨2, 3, 2, 5⟩
  weights := ⟨2, 2, 2, 6⟩
  fieldSize := 2
  stride := 1
  border := 0
  activation := .relu
  pooling := .none

theorem convolve_twoKernels :
    convolution "pair" ⟨3, 4, 2, 4⟩ 2 1 0 2 .relu = .ok twoKernels ∧ 2 ≤ vectorLanes ∧
      twoKernels.frame.rowLanes % vectorLanes = 0 ∧
      ∃ output, @convolve Int integers twoKernels 1 (Array.ofFn fun i : Fin 48 => (i.val : Int) % 7 - 3)
          (Array.ofFn fun i : Fin 64 => (i.val : Int) % 5 - 2) (Array.replicate 33 (-1)) =
          .ok () output ∧
        output[16]? = some 4 ∧ output[19]? = some 0 ∧ output[32]? = some (-1) := by
  refine ⟨rfl, by decide, by decide, ?_⟩
  obtain ⟨output, hsize, hconvolve, houtput⟩ := @convolve_adds_channels Int integers twoKernels
    (Array.ofFn fun i : Fin 48 => (i.val : Int) % 7 - 3) (Array.ofFn fun i : Fin 64 => (i.val : Int) % 5 - 2)
    1 "pair" ⟨3, 4, 2, 4⟩ 2 1 0 2 .relu rfl (by decide) (by decide) (by decide) (by decide)
  obtain ⟨hpixels, hpads⟩ := houtput 0 (by decide) 1 (by decide) 0 (by decide)
  have hpixel := (hpixels 0 (by decide)).2
  have hpad := hpads rfl 3 (by decide) (by decide)
  have hfront {i : Nat} (hi : i < 32) (back : Array Int) : (output ++ back)[i]? = output[i]? :=
    Array.getElem?_append_left (hsize ▸ hi)
  refine ⟨_, hconvolve _ (by decide), ?_, ?_, ?_⟩
  · rw [hfront (by decide)]
    refine hpixel.trans ?_
    decide +kernel
  · rw [hfront (by decide)]
    exact hpad
  · rw [Array.getElem?_append_right (by rw [hsize]; decide), hsize]
    rfl

end ForwardPass.Layer

import ForwardPass.Proofs.Convolution.Plane
import ForwardPass.Proofs.Exact

/-!
# Plane convolution and cross-correlation

The main statement about one plane: on every layer the constructor accepts, whose kernel fits into a
vector and whose rows are whole vectors, a plane convolution gives a result, and each of its pixels is
`planeValue`. Where sums are exact this is the plain cross-correlation, because taps past the kernel's
width are zero.
-/

namespace ForwardPass

variable {α : Type} [Scalar α]

/-! ## Exact sums -/

/-- The sum of the products of the taps of a square kernel with the lanes they meet, in reading order. -/
def plainSum (width : Nat) (taps lanes : Nat → Nat → α) : α :=
  (List.range width).foldl (fun sum i =>
    (List.range width).foldl (fun sum j => sum + taps i j * lanes i j) sum) 0

/-- The loop over a kernel row adds the sum of the row, wherever it starts. -/
theorem ExactSums.foldl_rows (h : ExactSums α) (term : Nat → Nat → α) (rows cols : Nat) :
    (List.range rows).foldl (fun sum i =>
      (List.range cols).foldl (fun sum j => sum + term i j) sum) 0 =
      @Finset.sum Nat α h.addCommMonoid (Finset.range rows) fun i =>
        @Finset.sum Nat α h.addCommMonoid (Finset.range cols) (term i) := by
  simp only [h.foldl_add]
  exact h.zero_add _

/-- Zeros behind the taps of a row do not change the sum of the row. -/
theorem ExactSums.row_sum (h : ExactSums α) {width : Nat} {taps lanes : Nat → α}
    (ht : ∀ j, width ≤ j → taps j = 0) {n : Nat} (hn : width ≤ n) :
    @Finset.sum Nat α h.addCommMonoid (Finset.range n) (fun j => taps j * lanes j) =
      @Finset.sum Nat α h.addCommMonoid (Finset.range width) fun j => taps j * lanes j := by
  let := h.addCommMonoid
  refine (Finset.sum_subset (Finset.range_subset_range.2 hn) fun j _ hj => ?_).symm
  rw [ht j (Nat.le_of_not_lt fun hlt => hj (Finset.mem_range.2 hlt))]
  exact h.zero_mul _

/-- Where sums are exact, the value of a pixel does not depend on how the pipes share the taps. -/
theorem ExactSums.pixelValue_eq (h : ExactSums α) {width : Nat} {taps lanes : Nat → Nat → α}
    (hwidth : width ≤ vectorLanes) (ht : ∀ i j, width ≤ j → taps i j = 0) :
    pixelValue width taps lanes = plainSum width taps lanes := by
  let := h.addCommMonoid
  have hpipe (taps lanes : Nat → Nat → α) : pipeSum width taps lanes =
      ∑ i ∈ Finset.range width, ∑ j ∈ Finset.range pipeLanes, taps i j * lanes i j :=
    h.foldl_rows (fun i j => taps i j * lanes i j) width pipeLanes
  have hplain : plainSum width taps lanes =
      ∑ i ∈ Finset.range width, ∑ j ∈ Finset.range width, taps i j * lanes i j :=
    h.foldl_rows (fun i j => taps i j * lanes i j) width width
  simp only [pixelValue, hpipe, hplain, h.zero_add]
  split
  · next hlt =>
    exact Finset.sum_congr rfl fun i _ => h.row_sum (ht i) (Nat.le_of_lt hlt)
  · next hge =>
    have hrow (i : Nat) : (∑ j ∈ Finset.range pipeLanes, taps i j * lanes i j) +
        ∑ j ∈ Finset.range pipeLanes, taps i (pipeLanes + j) * lanes i (pipeLanes + j) =
        ∑ j ∈ Finset.range width, taps i j * lanes i j := by
      rw [← Finset.sum_range_add (fun j => taps i j * lanes i j) pipeLanes pipeLanes]
      exact h.row_sum (ht i) hwidth
    rw [← Finset.sum_congr rfl fun i _ => hrow i]
    exact Finset.sum_add_distrib.symm

theorem plainSum_congr {width : Nat} {taps taps' lanes lanes' : Nat → Nat → α}
    (ht : ∀ i < width, ∀ j < width, taps i j = taps' i j)
    (hl : ∀ i < width, ∀ j < width, lanes i j = lanes' i j) :
    plainSum width taps lanes = plainSum width taps' lanes' := by
  refine foldl_congr (fun i hi sum => foldl_congr (fun j hj sum => ?_) sum) 0
  rw [List.mem_range] at hi hj
  simp only [ht i hi j hj, hl i hi j hj]

namespace Layer

/-- What a pixel takes from the frame lies before the end of its rows. -/
theorem IsConvolution.frameLane_eq {l : Layer} (h : l.IsConvolution) (x : Batch α)
    (image chan row : Nat) {c j : Nat} (hc : c < l.outputs.cols) (hj : j < l.fieldSize) :
    l.frameLane x image chan row (c * l.stride + j) = x image chan row (c * l.stride + j) := by
  have hend := window_le_extent h.field_le_cols (h.outputs_cols ▸ hc)
  refine if_pos ?_
  simp only [vectorsPerRow, vectorLanes]
  omega

/-- Where sums are exact, the plane is the cross-correlation of the frame with the kernel. -/
theorem IsConvolution.planeValue_eq {l : Layer} (h : l.IsConvolution) (hexact : ExactSums α)
    (hk : l.fieldSize ≤ vectorLanes) (x : Batch α) (kernels : Array α) (at_ : PlaneIndex) (r : Nat)
    {c : Nat} (hc : c < l.outputs.cols) :
    l.planeValue x kernels at_ r c =
      plainSum l.fieldSize (l.weights.read kernels at_.kernel at_.channel)
        fun i j => x at_.image at_.channel (r * l.stride + i) (c * l.stride + j) := by
  have htail (i j : Nat) (hj : l.fieldSize ≤ j) : l.tap kernels at_.kernel at_.channel i j = 0 :=
    if_neg (Nat.not_lt.2 hj)
  rw [planeValue, hexact.pixelValue_eq hk htail]
  exact plainSum_congr (fun i _ j hj => if_pos hj) fun i _ j hj => h.frameLane_eq x _ _ _ hc hj

/-! ## The plane -/

/-- A plane convolution gives a result, and every pixel of it is `planeValue`: no law of arithmetic is
used. With exact sums the pixels are those of the cross-correlation. -/
theorem convolvePlane_pixels {name : String} {inputs : Shape} {k stride border kernelCount : Nat}
    {activation : Activation} {l : Layer} {at_ : PlaneIndex} {activations kernels result : Array α}
    (h : convolution name inputs k stride border kernelCount activation = .ok l)
    (hk : k ≤ vectorLanes) (haligned : l.frame.rowLanes % vectorLanes = 0)
    (hchannel : at_.channel < l.frame.height)
    (hactivations : (at_.image + 1) * l.frame.size ≤ activations.size)
    (hkernels : (at_.kernel + 1) * l.weights.size ≤ kernels.size)
    (hresult : (at_.channel + 1) * l.outputs.planeSize ≤ result.size) :
    ∃ planes, l.convolvePlane at_ activations kernels result = .ok planes ∧
      ∀ r < l.outputs.rows, ∀ c < l.outputs.cols,
        planes[l.outputs.offset at_.channel r c]? =
          some (l.planeValue (l.frame.read activations) kernels at_ r c) ∧
        (ExactSums α → l.planeValue (l.frame.read activations) kernels at_ r c =
          plainSum k (l.weights.read kernels at_.kernel at_.channel) fun i j =>
            l.frame.read activations at_.image at_.channel (r * stride + i) (c * stride + j)) := by
  have hl := isConvolution_of_eq_ok h
  obtain ⟨-, _, _, -, -, hfields⟩ := convolution_eq_ok h
  have hfield : l.fieldSize = k := by rw [hfields]
  have hstride : l.stride = stride := by rw [hfields]
  have hready : l.PlaneReady at_ (l.frame.read activations) activations kernels result.size := {
    layer := hl
    field := hfield ▸ hk
    aligned := haligned
    holds := l.frame.holds_read hactivations
    channel := hchannel
    kernels := hkernels
    result := hresult }
  obtain ⟨planes, hplanes, hwritten⟩ := convolvePlane_yields hready
  refine ⟨planes, hplanes, fun r hr c hc => ⟨?_, fun hexact => ?_⟩⟩
  · rw [hwritten.inside _ ⟨r, hr, c, hc, rfl⟩, planeValues,
      l.outputs.unpack_offset _ hr (Nat.lt_of_lt_of_le hc l.outputs.cols_le_rowLanes)]
  · rw [hl.planeValue_eq hexact hready.field _ _ _ _ hc, hfield, hstride]

/-- Five taps over eleven columns two apart: both pipes share a pixel, and the last of the four pixels
reaches into the second vector of its rows. -/
def wideEdge : Layer where
  name := "edge"
  kind := .convolution
  inputs := ⟨5, 11, 1, 5⟩
  outputs := ⟨1, 4, 1, 4⟩
  weights := ⟨5, 5, 1, 3⟩
  fieldSize := 5
  stride := 2
  border := 0
  activation := .identity
  pooling := .none

theorem convolvePlane_wideEdge :
    convolution "edge" ⟨5, 11, 1, 5⟩ 5 2 0 1 .identity = .ok wideEdge ∧ 5 ≤ vectorLanes ∧
      wideEdge.frame.rowLanes % vectorLanes = 0 ∧ 0 < wideEdge.frame.height ∧
      ∃ planes, @convolvePlane Int integers wideEdge ⟨0, 0, 0⟩ (Array.ofFn fun i : Fin 80 => i.val % 7)
        (Array.ofFn fun i : Fin 40 => (i.val : Int) - 9) (Array.replicate 8 0) = .ok planes ∧
        planes[3]? = some 582 := by
  refine ⟨rfl, by decide, by decide, by decide, ?_⟩
  obtain ⟨planes, hplanes, hpixels⟩ := @convolvePlane_pixels Int integers "edge" ⟨5, 11, 1, 5⟩ 5 2 0 1
    .identity wideEdge ⟨0, 0, 0⟩ (Array.ofFn fun i : Fin 80 => i.val % 7)
    (Array.ofFn fun i : Fin 40 => (i.val : Int) - 9) (Array.replicate 8 0) rfl (by decide) (by decide)
    (by decide) (by decide) (by decide) (by decide)
  obtain ⟨hpixel, hplain⟩ := hpixels 0 (by decide) 3 (by decide)
  refine ⟨planes, hplanes, ?_⟩
  calc planes[3]?
    _ = some _ := hpixel
    _ = some _ := congrArg some (hplain exactSums_integers)
    _ = some 582 := by decide +kernel

end Layer

end ForwardPass

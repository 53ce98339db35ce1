import ForwardPass.Proofs.Convolution.CrossCorrelation
import ForwardPass.Proofs.Convolution.Output
import ForwardPass.Proofs.SinglePrecision

/-!
# What a pixel depends on

The pipes multiply four lanes of a kernel row or eight, whatever its width. Lanes behind the taps of a row are
idle: they meet a weight of zero. In single precision an idle lane leaves no trace as long as it is finite, and
turns the pixel into what is not a number when it is not. So a pixel depends on its window, and of the lanes
next to it on their being finite only.
-/

namespace ForwardPass

open SinglePrecision

variable {width rows : Nat} {taps lanes lanes' : Nat → Nat → Float32}

/-! ## Sums -/

/-- A loop that meets what it cannot get away from ends with it. -/
theorem foldl_absorbed {β σ : Type} {f : σ → β → σ} {bottom : σ} {bs : List β} {b : β} (hb : b ∈ bs)
    (hmet : ∀ s, f s b = bottom) (hkept : ∀ c, f bottom c = bottom) (s : σ) : bs.foldl f s = bottom := by
  obtain ⟨before, behind, rfl⟩ := List.append_of_mem hb
  rw [List.foldl_append, List.foldl_cons, hmet]
  exact List.foldl_fixed' hkept behind

theorem addProducts_alike {weights x x' : Nat → Float32} {sum sum' : Float32}
    (h : ∀ j < pipeLanes, Alike (weights j * x j) (weights j * x' j)) (hsum : Alike sum sum') :
    Alike (addProducts weights x sum) (addProducts weights x' sum') :=
  List.foldl_rel hsum fun j hj _ _ hs => hs.add (h j (List.mem_range.1 hj))

theorem pipeSum_alike
    (h : ∀ i < rows, ∀ j < pipeLanes, Alike (taps i j * lanes i j) (taps i j * lanes' i j)) :
    Alike (pipeSum rows taps lanes) (pipeSum rows taps lanes') :=
  List.foldl_rel (Alike.refl 0) fun i hi _ _ hs => addProducts_alike (h i (List.mem_range.1 hi)) hs

theorem notANumber_addProducts (weights x : Nat → Float32) :
    addProducts weights x notANumber = notANumber :=
  List.foldl_fixed' (fun j => notANumber_add (weights j * x j)) _

/-- A product that is not a number makes the sum of its pipe none. -/
theorem pipeSum_eq_notANumber {i j : Nat} (hi : i < rows) (hj : j < pipeLanes)
    (h : taps i j * lanes i j = notANumber) : pipeSum rows taps lanes = notANumber := by
  refine foldl_absorbed (List.mem_range.2 hi) (fun sum => ?_) (fun c => notANumber_addProducts _ _) 0
  refine foldl_absorbed (List.mem_range.2 hj) (fun sum => ?_) (fun c => notANumber_add _) sum
  rw [h, add_notANumber]

/-! ## Idle lanes -/

/-- How many lanes a kernel row of this width is multiplied with: a narrow row is one pipe's, two pipes share
any other. -/
def reach (width : Nat) : Nat := if width < pipeLanes then pipeLanes else vectorLanes

/-- The lanes that no tap of the kernel meets are finite. -/
def IdleFinite (width : Nat) (lanes : Nat → Nat → Float32) : Prop :=
  ∀ i < width, ∀ j < reach width, width ≤ j → (lanes i j).isFinite = true

instance : Decidable (IdleFinite width lanes) :=
  inferInstanceAs (Decidable (∀ i < width, ∀ j < reach width, width ≤ j → (lanes i j).isFinite = true))

/-- Finite idle lanes leave no trace in a pixel. -/
theorem pixelValue_of_idleFinite (ht : ∀ i j, width ≤ j → taps i j = 0)
    (hwindow : ∀ i < width, ∀ j < width, lanes i j = lanes' i j) (hidle : IdleFinite width lanes)
    (hidle' : IdleFinite width lanes') : pixelValue width taps lanes = pixelValue width taps lanes' := by
  have hproduct {i j : Nat} (hi : i < width) (hj : j < reach width) :
      Alike (taps i j * lanes i j) (taps i j * lanes' i j) := by
    rcases Nat.lt_or_ge j width with htap | hpast
    · rw [hwindow i hi j htap]
      exact .refl _
    · rw [ht i j hpast]
      exact .inr ⟨isZero_zero_mul (hidle i hi j hj hpast), isZero_zero_mul (hidle' i hi j hj hpast)⟩
  have hlow (hreach : pipeLanes ≤ reach width) :
      Alike (pipeSum width taps lanes) (pipeSum width taps lanes') :=
    pipeSum_alike fun i hi j hj => hproduct hi (Nat.lt_of_lt_of_le hj hreach)
  unfold pixelValue
  dsimp only
  split
  · next hnarrow => exact (hlow (by rw [reach, if_pos hnarrow])).zero_add_eq
  · next hwide =>
    have hreach : reach width = vectorLanes := if_neg hwide
    refine ((hlow (by rw [hreach]; decide)).add (pipeSum_alike fun i hi j hj => ?_)).zero_add_eq
    exact hproduct hi (hreach ▸ Nat.add_lt_add_left hj pipeLanes)

/-- An idle lane that is not finite makes the pixel what is not a number. -/
theorem pixelValue_of_not_idleFinite (ht : ∀ i j, width ≤ j → taps i j = 0)
    (hidle : ¬ IdleFinite width lanes) : pixelValue width taps lanes = notANumber := by
  simp only [IdleFinite, not_forall] at hidle
  obtain ⟨i, hi, j, hj, hpast, hlane⟩ := hidle
  have hproduct : taps i j * lanes i j = notANumber := by
    rw [ht i j hpast, zero_mul_of_not_finite hlane]
  unfold pixelValue
  dsimp only
  split
  · next hnarrow =>
    rw [reach, if_pos hnarrow] at hj
    rw [pipeSum_eq_notANumber hi hj hproduct, add_notANumber]
  · next hwide =>
    rw [reach, if_neg hwide] at hj
    -- The lane is one of the second pipe's, or of the first's if the row ends there.
    rcases Nat.lt_or_ge j pipeLanes with hlow | hhigh
    · rw [pipeSum_eq_notANumber hi hlow hproduct, notANumber_add, add_notANumber]
    · obtain ⟨j, rfl⟩ := Nat.exists_eq_add_of_le hhigh
      have hhalf : pipeSum width (fun i j => taps i (pipeLanes + j)) (fun i j => lanes i (pipeLanes + j)) =
          notANumber := pipeSum_eq_notANumber hi (Nat.lt_of_add_lt_add_left hj) hproduct
      rw [hhalf, add_notANumber, add_notANumber]

/-! ## Pixels -/

namespace Layer

/-- What a pixel is multiplied with: the lanes of the frame from the corner of its window on. -/
def pixelLanes (l : Layer) (activations : Array Float32) (at_ : PlaneIndex) (r c i j : Nat) : Float32 :=
  l.frameLane (l.frame.read activations) at_.image at_.channel (r * l.stride + i) (c * l.stride + j)

/-- Buffers that agree on the window of a pixel give the pixel the same value, unless a lane next to the
window is finite in one of them only. Where such a lane is not finite, the value is not a number. -/
theorem convolvePlane_local {name : String} {inputs : Shape} {k stride border kernelCount : Nat}
    {activation : Activation} {l : Layer} {at_ : PlaneIndex} {a b kernels : Array Float32} {r c : Nat}
    (h : convolution name inputs k stride border kernelCount activation = .ok l)
    (hk : k ≤ vectorLanes) (haligned : l.frame.rowLanes % vectorLanes = 0)
    (hchannel : at_.channel < l.frame.height) (ha : (at_.image + 1) * l.frame.size ≤ a.size)
    (hb : (at_.image + 1) * l.frame.size ≤ b.size)
    (hkernels : (at_.kernel + 1) * l.weights.size ≤ kernels.size) (hr : r < l.outputs.rows)
    (hc : c < l.outputs.cols)
    (hwindow : ∀ i < k, ∀ j < k,
      l.frame.read a at_.image at_.channel (r * stride + i) (c * stride + j) =
        l.frame.read b at_.image at_.channel (r * stride + i) (c * stride + j))
    (hidle : IdleFinite k (l.pixelLanes a at_ r c) ↔ IdleFinite k (l.pixelLanes b at_ r c)) :
    ∃ value, l.Computes at_ a kernels r c value ∧ l.Computes at_ b kernels r c value ∧
      (¬ IdleFinite k (l.pixelLanes a at_ r c) → value.isNaN = true) := by
  have hl := isConvolution_of_eq_ok h
  obtain ⟨-, _, _, -, -, hfields⟩ := convolution_eq_ok h
  obtain rfl : l.fieldSize = k := by rw [hfields]
  obtain rfl : l.stride = stride := by rw [hfields]
  have htaps (i j : Nat) (hj : l.fieldSize ≤ j) : l.tap kernels at_.kernel at_.channel i j = 0 :=
    if_neg (Nat.not_lt.2 hj)
  have hlanes : ∀ i < l.fieldSize, ∀ j < l.fieldSize,
      l.pixelLanes a at_ r c i j = l.pixelLanes b at_ r c i j := by
    intro i hi j hj
    unfold pixelLanes
    rw [hl.frameLane_eq _ _ _ _ hc hj, hl.frameLane_eq _ _ _ _ hc hj]
    exact hwindow i hi j hj
  have hvalue : pixelValue l.fieldSize (l.tap kernels at_.kernel at_.channel) (l.pixelLanes a at_ r c) =
      pixelValue l.fieldSize (l.tap kernels at_.kernel at_.channel) (l.pixelLanes b at_ r c) := by
    by_cases hfinite : IdleFinite l.fieldSize (l.pixelLanes a at_ r c)
    · exact pixelValue_of_idleFinite htaps hlanes hfinite (hidle.1 hfinite)
    · rw [pixelValue_of_not_idleFinite htaps hfinite, pixelValue_of_not_idleFinite htaps (mt hidle.2 hfinite)]
  refine ⟨pixelValue l.fieldSize (l.tap kernels at_.kernel at_.channel) (l.pixelLanes a at_ r c),
    ?_, ?_, fun hinfinite => ?_⟩
  · exact computes_of_ready hl hk haligned (l.frame.holds_read ha) hchannel hkernels hr hc
  · rw [hvalue]
    exact computes_of_ready hl hk haligned (l.frame.holds_read hb) hchannel hkernels hr hc
  · rw [pixelValue_of_not_idleFinite htaps hinfinite]
    rfl

/-- Two pixels against a kernel of one weight. -/
def onePixel : Layer where
  name := "pixel"
  kind := .convolution
  inputs := ⟨1, 2, 1, 6⟩
  outputs := ⟨1, 2, 1, 6⟩
  weights := ⟨1, 1, 1, 7⟩
  fieldSize := 1
  stride := 1
  border := 0
  activation := .identity
  pooling := .none

/-- A one, and next to it an element of any kind. -/
def oneAnd (x : Float32) : Array Float32 := #[1, x, 0, 0, 0, 0, 0, 0]

def infinity : Float32 := .ofBits 0x7f800000

theorem convolvePlane_local_finite :
    convolution "pixel" ⟨1, 2, 1, 6⟩ 1 1 0 1 .identity = .ok onePixel ∧ 1 ≤ vectorLanes ∧
      onePixel.frame.rowLanes % vectorLanes = 0 ∧ 0 < onePixel.frame.height ∧
      IdleFinite 1 (onePixel.pixelLanes (oneAnd 0) ⟨0, 0, 0⟩ 0 0) ∧
      IdleFinite 1 (onePixel.pixelLanes (oneAnd 1) ⟨0, 0, 0⟩ 0 0) ∧
      ∃ value, onePixel.Computes ⟨0, 0, 0⟩ (oneAnd 0) (oneAnd 0) 0 0 value ∧
        onePixel.Computes ⟨0, 0, 0⟩ (oneAnd 1) (oneAnd 0) 0 0 value := by
  have hzero : IdleFinite 1 (onePixel.pixelLanes (oneAnd 0) ⟨0, 0, 0⟩ 0 0) := by decide +kernel
  have hone : IdleFinite 1 (onePixel.pixelLanes (oneAnd 1) ⟨0, 0, 0⟩ 0 0) := by decide +kernel
  obtain ⟨value, ha, hb, -⟩ := @convolvePlane_local "pixel" ⟨1, 2, 1, 6⟩ 1 1 0 1 .identity onePixel ⟨0, 0, 0⟩
    (oneAnd 0) (oneAnd 1) (oneAnd 0) 0 0 rfl (by decide) (by decide) (by decide) (by decide) (by decide)
    (by decide) (by decide) (by decide) (by decide +kernel) ⟨fun _ => hone, fun _ => hzero⟩
  exact ⟨rfl, by decide, by decide, by decide, hzero, hone, value, ha, hb⟩

/-- The pixels agree on their windows, which are one element wide, and yet the infinite element next to one of
them makes it what is not a number. -/
theorem convolvePlane_not_local :
    convolution "pixel" ⟨1, 2, 1, 6⟩ 1 1 0 1 .identity = .ok onePixel ∧ 1 ≤ vectorLanes ∧
      onePixel.frame.rowLanes % vectorLanes = 0 ∧
      (∀ i < 1, ∀ j < 1, onePixel.frame.read (oneAnd 0) 0 0 (0 * 1 + i) (0 * 1 + j) =
        onePixel.frame.read (oneAnd infinity) 0 0 (0 * 1 + i) (0 * 1 + j)) ∧
      onePixel.convolvePlane ⟨0, 0, 0⟩ (oneAnd 0) (oneAnd 0) (Array.replicate 8 0) = .ok (oneAnd 0) ∧
      onePixel.convolvePlane ⟨0, 0, 0⟩ (oneAnd infinity) (oneAnd 0) (Array.replicate 8 0) =
        .ok #[notANumber, infinity, 0, 0, 0, 0, 0, 0] ∧
      (1 : Float32) ≠ notANumber := by
  refine ⟨rfl, by decide, by decide, ?_, ?_, ?_, ?_⟩ <;> decide +kernel

end Layer

end ForwardPass

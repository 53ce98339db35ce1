import ForwardPass.Proofs.Convolution.Refusal
import ForwardPass.Proofs.Exact

/-!
# What a refused convolution leaves

A plane is checked before anything of it is written, and a kernel is written when all of its planes are there.
So a refused batch has written whole kernels or nothing: those of the pairs of an image and a kernel in front
of the first pair that does not pass. Pairs part ways where the operands do not reach to the last of them,
which is checked pair by pair and not in advance.
-/

namespace ForwardPass.Layer

variable {α : Type} [Scalar α] {l : Layer} {images image kernel : Nat} {activations weights : Array α}

/-! ## Planes -/

/-- A plane is refused for what its checks find and for nothing that happens later. -/
theorem convolvePlane_eq_error_iff {at_ : PlaneIndex} {planes : Array α} {e : EngineError} :
    l.convolvePlane at_ activations weights planes = .error (.error e) ↔
      l.planeSchedule at_ activations.size weights.size planes.size = .error e := by
  refine ⟨fun herror => ?_, convolvePlane_of_unchecked⟩
  cases hs : l.planeSchedule at_ activations.size weights.size planes.size with
  | error e' =>
    rw [convolvePlane_of_unchecked hs] at herror
    cases herror
    rfl
  | ok s => exact (Failure.not_isFault_error ((convolvePlane_ends hs).of_error herror)).elim

/-! ## Kernels -/

/-- Whether the planes of an image and a kernel pass the checks: the first channel decides for all. -/
def passes (l : Layer) (activations weights : Nat) (pair : Nat × Nat) : Bool :=
  (l.planeSchedule ⟨pair.1, pair.2, 0⟩ activations weights (l.frame.height * l.outputs.planeSize)).isOk

theorem planes_keep_size {scratch : Array α} (channels : List Nat) :
    Ends (channels.foldlM (fun planes channel =>
      l.convolvePlane ⟨image, kernel, channel⟩ activations weights planes) scratch)
      (·.size = scratch.size) (fun _ => True) := by
  refine Ends.foldlM (fun channel _ planes hplanes => ?_) rfl
  cases hs : l.planeSchedule ⟨image, kernel, channel⟩ activations.size weights.size planes.size with
  | error e =>
    rw [convolvePlane_of_unchecked hs]
    trivial
  | ok s =>
    have hends := convolvePlane_ends hs
    cases hplane : l.convolvePlane ⟨image, kernel, channel⟩ activations weights planes with
    | error failure => trivial
    | ok planes' => exact (hends.of_ok hplane).trans hplanes

/-- The planes of a kernel are all there only if the first of them passed. -/
theorem passes_of_planes {scratch planes : Array α} (hpos : 0 < l.frame.height)
    (hscratch : scratch.size = l.frame.height * l.outputs.planeSize)
    (h : (List.range l.frame.height).foldlM (fun planes channel =>
      l.convolvePlane ⟨image, kernel, channel⟩ activations weights planes) scratch = .ok planes) :
    l.passes activations.size weights.size (image, kernel) = true := by
  obtain ⟨channels, hchannels⟩ := Nat.exists_eq_succ_of_ne_zero (Nat.ne_of_gt hpos)
  rw [hchannels, List.range_succ_eq_map, List.foldlM_cons] at h
  obtain ⟨first, hfirst, -⟩ := bind_eq_ok h
  unfold passes
  rw [← hscratch]
  cases hs : l.planeSchedule ⟨image, kernel, 0⟩ activations.size weights.size scratch.size with
  | ok s => rfl
  | error e =>
    rw [convolvePlane_of_unchecked hs] at hfirst
    cases hfirst

/-- Planes fail only if there are channels, and they are all there only if they pass. -/
theorem planes_pass {scratch : Array α} (hscratch : scratch.size = l.frame.height * l.outputs.planeSize) :
    Ends ((List.range l.frame.height).foldlM (fun planes channel =>
      l.convolvePlane ⟨image, kernel, channel⟩ activations weights planes) scratch)
      (fun planes => planes.size = l.frame.height * l.outputs.planeSize ∧
        (0 < l.frame.height → l.passes activations.size weights.size (image, kernel) = true))
      (fun failure => l.frame.height = 0 → failure.IsFault) := by
  cases h : (List.range l.frame.height).foldlM (fun planes channel =>
      l.convolvePlane ⟨image, kernel, channel⟩ activations weights planes) scratch with
  | error failure =>
    intro hzero
    rw [hzero] at h
    cases h
  | ok planes =>
    exact ⟨((planes_keep_size _).of_ok h).trans hscratch, fun hpos => passes_of_planes hpos hscratch h⟩

/-- One kernel writes its region of the result, or it fails and writes nothing. -/
theorem convolveKernel_keeps {scratch : Array α}
    (hscratch : scratch.size = l.frame.height * l.outputs.planeSize) (result : Array α) :
    EndsFrom (l.convolveKernel image kernel activations weights scratch) result
      (fun planes result' => planes.size = l.frame.height * l.outputs.planeSize ∧
        Buffer.KeptOutside result (l.KernelRegion image kernel) result' ∧
        (0 < l.frame.height → l.passes activations.size weights.size (image, kernel) = true))
      (fun failure result' => result' = result ∧ (l.frame.height = 0 → failure.IsFault)) :=
  (convolveKernel_ends_of_planes (planes_pass hscratch) (fun _ hfault _ => hfault) result).mono
    (fun _ _ h => ⟨h.1.1, h.2, h.1.2⟩) fun _ _ h => h.symm

/-- Kernels that fail leave the regions of those in front of the first that does not pass, and nothing
else. Without channels there is nothing to check. -/
theorem kernels_keep {pairs : List (Nat × Nat)} {scratch result : Array α}
    (hscratch : scratch.size = l.frame.height * l.outputs.planeSize) :
    EndsFrom (pairs.foldlM
      (fun scratch (image, kernel) => l.convolveKernel image kernel activations weights scratch) scratch)
      result (fun _ _ => True)
      (fun failure result' => failure.IsFault ∨ 0 < l.frame.height ∧ Buffer.KeptOutside result
        (fun i => ∃ pair ∈ pairs.takeWhile (l.passes activations.size weights.size),
          l.KernelRegion pair.1 pair.2 i) result') := by
  induction pairs generalizing scratch result with
  | nil => trivial
  | cons pair pairs ih =>
    rw [List.foldlM_cons]
    refine ((convolveKernel_keeps hscratch result).mono (fun _ _ h => h) fun failure result' h => ?_).bind
      fun planes between h => ?_
    · obtain ⟨rfl, hfault⟩ := h
      rcases Nat.eq_zero_or_pos l.frame.height with hzero | hpos
      · exact .inl (hfault hzero)
      · exact .inr ⟨hpos, .refl _ _⟩
    · obtain ⟨hplanes, hkept, hpasses⟩ := h
      refine (ih hplanes).mono (fun _ _ _ => trivial) fun failure result' hrest => ?_
      refine hrest.imp_right fun ⟨hpos, hrest⟩ => ⟨hpos, ?_⟩
      rw [List.takeWhile_cons_of_pos (hpasses hpos)]
      exact (hkept.mono fun i hi => ⟨pair, List.mem_cons_self .., hi⟩).trans
        (hrest.mono fun i ⟨pair', hmem, hi⟩ => ⟨pair', List.mem_cons_of_mem pair hmem, hi⟩)

/-! ## Batches -/

/-- A batch that fails is stopped by a broken contract; or it is refused at once; or it is refused at a plane,
with the kernels in front of the first that does not pass written. -/
theorem convolve_keeps (l : Layer) (images : Nat) (activations weights result : Array α) :
    EndsFrom (l.convolve images activations weights) result (fun _ _ => True)
      (fun failure result' => failure.IsFault ∨ result' = result ∨
        0 < l.frame.height ∧ Buffer.KeptOutside result
          (fun i => ∃ pair ∈ (l.pairs images).takeWhile (l.passes activations.size weights.size),
            l.KernelRegion pair.1 pair.2 i) result') := by
  by_cases hsize : result.size < images * l.outputs.size
  · unfold EndsFrom
    rw [convolve_of_short hsize]
    exact .inr (.inl rfl)
  · unfold EndsFrom
    rw [convolve_eq_bind (Nat.le_of_not_lt hsize)]
    refine ((kernels_keep Array.size_replicate).mono (fun _ _ h => h) fun _ _ h => h.imp_right .inr).bind
      fun planes result' _ => ?_
    exact (activate_ends l images result').mono (fun _ _ _ => trivial) fun _ _ h => .inl h

/-- A layer whose own fields are at fault has no kernel that passes. -/
theorem passes_eq_false {e : EngineError} (he : l.planeDefect? = some e) (a w : Nat) (pair : Nat × Nat) :
    l.passes a w pair = false := by
  unfold passes
  cases hs : l.planeSchedule ⟨pair.1, pair.2, 0⟩ a w (l.frame.height * l.outputs.planeSize) with
  | error e' => rfl
  | ok s =>
    rw [planeSchedule_eq_error (planeChecked_of_eq_ok hs).room he] at hs
    cases hs

/-- A plane is refused by its checks alone, before it is written. A batch that is refused has kept its result
outside of the kernels in front of the first that does not pass; and it has written nothing at all when the
fields of the layer are at fault, or when the operands reach to the last image and kernel. -/
theorem convolve_refused_keeps (l : Layer) (images : Nat) (activations weights result : Array α) :
    (∀ at_ e, l.convolvePlane at_ activations weights result = .error (.error e) ↔
      l.planeSchedule at_ activations.size weights.size result.size = .error e) ∧
    ∀ e result', l.convolve images activations weights result = .error (.error e) result' →
      Buffer.KeptOutside result
        (fun i => ∃ pair ∈ (l.pairs images).takeWhile (l.passes activations.size weights.size),
          l.KernelRegion pair.1 pair.2 i) result' ∧
      (l.planeDefect?.isSome → result' = result) ∧
      (l.BatchRoom images activations weights → result' = result) := by
  refine ⟨fun at_ e => convolvePlane_eq_error_iff, fun e result' h => ?_⟩
  have hkeeps := ((l.convolve_keeps images activations weights result).of_error h).resolve_left
    Failure.not_isFault_error
  refine ⟨?_, fun hdefect => ?_, fun hroom => ?_⟩
  · rcases hkeeps with rfl | ⟨-, hkept⟩
    · exact .refl _ _
    · exact hkept
  · obtain ⟨defect, hdefect⟩ := Option.isSome_iff_exists.1 hdefect
    rcases hkeeps with heq | ⟨-, hkept⟩
    · exact heq
    · refine hkept.eq_of_forall_not fun i hi => ?_
      obtain ⟨pair, hmem, -⟩ := hi
      have hpasses : l.passes activations.size weights.size pair = true :=
        List.all_eq_true.1 List.all_takeWhile pair hmem
      rw [passes_eq_false hdefect] at hpasses
      cases hpasses
  · by_cases hsize : result.size < images * l.outputs.size
    · rw [convolve_of_short hsize] at h
      cases h
      rfl
    · rw [Nat.not_lt] at hsize
      cases hdefect : l.batchDefect? images with
      | none => exact (Failure.not_isFault_error ((convolve_ends hroom hdefect hsize).of_error h)).elim
      | some e' =>
        rw [convolve_eq_error hroom hdefect hsize] at h
        cases h
        rfl

/-- One pixel against two kernels of one weight each. -/
def twoPixels : Layer where
  name := "two"
  kind := .convolution
  inputs := ⟨1, 1, 1, 7⟩
  outputs := ⟨1, 1, 2, 7⟩
  weights := ⟨1, 1, 1, 7⟩
  fieldSize := 1
  stride := 1
  border := 0
  activation := .identity
  pooling := .none

/-- The weights end behind the first kernel, so the second one is refused when the first is written. -/
theorem convolve_writes_and_refuses :
    convolution "two" ⟨1, 1, 1, 7⟩ 1 1 0 2 .identity = .ok twoPixels ∧
      ∃ result', @convolve Int integers twoPixels 1 #[3, 0, 0, 0, 0, 0, 0, 0] #[5, 0, 0, 0, 0, 0, 0, 0]
          (Array.replicate 16 9) =
        .error (.error (.shapeMismatch "two" (.operandShort .weights 8 16))) result' ∧
      result' ≠ Array.replicate 16 9 := by
  refine ⟨rfl, #[15, 0, 0, 0, 0, 0, 0, 0, 9, 9, 9, 9, 9, 9, 9, 9], ?_, by decide +kernel⟩
  decide +kernel

theorem convolve_refused_keeps_second :
    ∃ result', @convolve Int integers twoPixels 1 #[3, 0, 0, 0, 0, 0, 0, 0] #[5, 0, 0, 0, 0, 0, 0, 0]
          (Array.replicate 16 9) =
        .error (.error (.shapeMismatch "two" (.operandShort .weights 8 16))) result' ∧
      ∀ i, 8 ≤ i → result'[i]? = (Array.replicate 16 9)[i]? := by
  have hrefused : @convolve Int integers twoPixels 1 #[3, 0, 0, 0, 0, 0, 0, 0] #[5, 0, 0, 0, 0, 0, 0, 0]
      (Array.replicate 16 9) =
    .error (.error (.shapeMismatch "two" (.operandShort .weights 8 16)))
      #[15, 0, 0, 0, 0, 0, 0, 0, 9, 9, 9, 9, 9, 9, 9, 9] := by decide +kernel
  obtain ⟨-, hkeeps⟩ := @convolve_refused_keeps Int integers twoPixels 1 #[3, 0, 0, 0, 0, 0, 0, 0]
    #[5, 0, 0, 0, 0, 0, 0, 0] (Array.replicate 16 9)
  obtain ⟨hkept, -, -⟩ := hkeeps _ _ hrefused
  refine ⟨_, hrefused, fun i hi => hkept.kept i ?_⟩
  -- Of the two kernels only the first passes.
  have hpassed : (twoPixels.pairs 1).takeWhile (twoPixels.passes (#[3, 0, 0, 0, 0, 0, 0, 0] : Array Int).size
      (#[5, 0, 0, 0, 0, 0, 0, 0] : Array Int).size) = [(0, 0)] := by decide +kernel
  rintro ⟨pair, hmem, -, hlt⟩
  rw [hpassed, List.mem_singleton] at hmem
  subst hmem
  exact Nat.not_lt.2 hi hlt

end ForwardPass.Layer

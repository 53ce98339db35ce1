import ForwardPass.Buffer
import ForwardPass.Proofs.Results

/-!
# What loops over a buffer write

A kernel fills a buffer slice by slice. `Written before after region value` says what is left of it: the
positions of `region` hold `value`, all others hold what they held. A loop whose passes each write a
region writes the union of the regions, in whatever order the passes come, because `value` is one
function of the position.
-/

namespace ForwardPass

/-- The failure is a broken contract and not a cause the caller can act on. -/
def Failure.IsFault (f : Failure) : Prop := ∃ fault, f = .fault fault

theorem Failure.isFault_fault (f : Fault) : (Failure.fault f).IsFault := ⟨f, rfl⟩

theorem Failure.not_isFault_error {e : EngineError} : ¬ (Failure.error e).IsFault := nofun

namespace Buffer

variable {α : Type}

/-! ## Slices of any kind -/

theorem slice_ends (buffer : Array α) (start count : Nat) :
    Ends (slice buffer start count) (fun _ => True) Failure.IsFault := by
  unfold slice
  split
  · trivial
  · exact Failure.isFault_fault _

theorem fetch_ends (buffer : Array α) (start : Nat) :
    Ends (fetch buffer start) (fun _ => True) Failure.IsFault := by
  unfold fetch
  split
  · trivial
  · exact Failure.isFault_fault _

/-! ## Slices that are inside -/

theorem slice_eq_ok {buffer : Array α} {start count : Nat} (h : start + count ≤ buffer.size) :
    slice buffer start count = .ok (buffer.extract start (start + count)) := if_pos h

theorem put_eq_ok {buffer : Array α} {start : Nat} {values : List α}
    (h : start + values.length ≤ buffer.size) :
    put buffer start values = .ok (store buffer start values) := if_pos h

/-- An element of a slice is the element that far behind its start. -/
theorem getElem?_extract {buffer : Array α} {start count i : Nat} (h : i < count) :
    (buffer.extract start (start + count))[i]? = buffer[start + i]? := by
  rw [Array.getElem?_extract]
  split
  · rfl
  · rw [Array.getElem?_eq_none (by omega)]

/-- A buffer is the list of the values it holds. -/
theorem toList_eq_map {buffer : Array α} {n : Nat} {f : Nat → α} (hsize : buffer.size = n)
    (hf : ∀ j < n, buffer[j]? = some (f j)) : buffer.toList = (List.range n).map f := by
  apply List.ext_getElem?
  intro j
  rw [Array.getElem?_toList, List.getElem?_map]
  by_cases hj : j < n
  · rw [hf j hj, List.getElem?_range hj, Option.map_some]
  · rw [Array.getElem?_eq_none (by omega), List.getElem?_eq_none (by rw [List.length_range]; omega),
      Option.map_none]

theorem fetch_yields {buffer : Array α} {start : Nat} (h : start + vectorLanes ≤ buffer.size) :
    Yields (fetch buffer start) fun v => ∀ i < vectorLanes, v[i]? = buffer[start + i]? := by
  refine Yields.of_eq (dif_pos h) fun i hi => ?_
  rw [Vector.getElem?_ofFn, dif_pos hi, Array.getElem?_eq_getElem (by omega)]

/-! ## Regions -/

/-- `after` is `before` with `value i` at every position `i` of `region`. -/
structure Written (before : Array α) (region : Nat → Prop) (value : Nat → α) (after : Array α) :
    Prop where
  size : after.size = before.size
  inside : ∀ i, region i → after[i]? = some (value i)
  outside : ∀ i, ¬ region i → after[i]? = before[i]?

/-- The positions of `count` elements from `start` on. -/
abbrev Within (start count i : Nat) : Prop := start ≤ i ∧ i < start + count

namespace Written

variable {before between after : Array α} {region region' : Nat → Prop} {value : Nat → α}

theorem refl (buffer : Array α) (value : Nat → α) : Written buffer (fun _ => False) value buffer :=
  ⟨rfl, fun _ h => h.elim, fun _ _ => rfl⟩

theorem trans (h : Written before region value between) (h' : Written between region' value after) :
    Written before (fun i => region i ∨ region' i) value after := by
  refine ⟨h'.size.trans h.size, ?_, ?_⟩
  · intro i hi
    -- Where both write, the second write stands, and it writes the same value.
    by_cases hi' : region' i
    · exact h'.inside i hi'
    · rw [h'.outside i hi']
      exact h.inside i (hi.resolve_right hi')
  · intro i hi
    rw [not_or] at hi
    rw [h'.outside i hi.2, h.outside i hi.1]

/-- The region may be named otherwise. -/
theorem congr (h : Written before region value after) (hr : ∀ i, region i ↔ region' i) :
    Written before region' value after :=
  ⟨h.size, fun i hi => h.inside i ((hr i).2 hi), fun i hi => h.outside i (mt (hr i).1 hi)⟩

/-- What a buffer held inside of the region does not show afterwards. -/
theorem eq_of_outside {before' after' : Array α} (h : Written before region value after)
    (h' : Written before' region value after') (hout : ∀ i, ¬ region i → before'[i]? = before[i]?) :
    after' = after := by
  apply Array.ext_getElem?
  intro i
  by_cases hi : region i
  · rw [h.inside i hi, h'.inside i hi]
  · rw [h.outside i hi, h'.outside i hi, hout i hi]

theorem setIfInBounds {buffer : Array α} {i : Nat} (value : Nat → α) (h : i < buffer.size) :
    Written buffer (· = i) value (buffer.setIfInBounds i (value i)) := by
  refine ⟨Array.size_setIfInBounds, ?_, fun j hj => Array.getElem?_setIfInBounds_ne (Ne.symm hj)⟩
  rintro _ rfl
  exact Array.getElem?_setIfInBounds_self_of_lt h

theorem store {buffer : Array α} {start : Nat} {values : List α} {value : Nat → α}
    (h : start + values.length ≤ buffer.size)
    (hv : ∀ j < values.length, values[j]? = some (value (start + j))) :
    Written buffer (Within start values.length) value (store buffer start values) := by
  refine ⟨size_store buffer start values, ?_, ?_⟩
  · intro i hi
    rw [getElem?_store _ _ _ _ h, if_pos hi, hv (i - start) (by have := hi.1; have := hi.2; omega),
      Nat.add_sub_cancel' hi.1]
  · intro i hi
    rw [getElem?_store _ _ _ _ h, if_neg hi]

end Written

/-- `after` is `before` wherever `region` does not reach. -/
structure KeptOutside (before : Array α) (region : Nat → Prop) (after : Array α) : Prop where
  size : after.size = before.size
  kept : ∀ i, ¬ region i → after[i]? = before[i]?

namespace KeptOutside

variable {before between after : Array α} {region region' : Nat → Prop}

theorem refl (buffer : Array α) (region : Nat → Prop) : KeptOutside buffer region buffer := ⟨rfl, fun _ _ => rfl⟩

theorem trans (h : KeptOutside before region between) (h' : KeptOutside between region after) :
    KeptOutside before region after :=
  ⟨h'.size.trans h.size, fun i hi => (h'.kept i hi).trans (h.kept i hi)⟩

theorem mono (h : KeptOutside before region after) (hr : ∀ i, region i → region' i) :
    KeptOutside before region' after :=
  ⟨h.size, fun i hi => h.kept i fun hi' => hi (hr i hi')⟩

/-- A buffer that is kept everywhere is the buffer it was. -/
theorem eq_of_forall_not (h : KeptOutside before region after) (hr : ∀ i, ¬ region i) : after = before :=
  Array.ext_getElem? fun i => h.kept i (hr i)

end KeptOutside

theorem put_keeps (buffer : Array α) (start : Nat) (values : List α) :
    Ends (put buffer start values) (KeptOutside buffer (Within start values.length)) Failure.IsFault := by
  unfold put
  split
  · next h =>
    exact ⟨size_store buffer start values, fun i hi => by rw [getElem?_store _ _ _ _ h, if_neg hi]⟩
  · exact Failure.isFault_fault _

theorem put_yields {buffer : Array α} {start count : Nat} {values : List α} {value : Nat → α}
    (hlength : values.length = count) (h : start + count ≤ buffer.size)
    (hv : ∀ j < count, values[j]? = some (value (start + j))) :
    Yields (put buffer start values) (Written buffer (Within start count) value) := by
  subst hlength
  exact .of_eq (put_eq_ok h) (.store h hv)

/-- A piece lies within a buffer that has room for it and all pieces before it. -/
theorem piece_end_le {pieces piece size total : Nat} (hp : piece < pieces) (h : pieces * size ≤ total) :
    piece * size + size ≤ total := by
  rw [← Nat.succ_mul]
  exact Nat.le_trans (Nat.mul_le_mul_right _ hp) h

/-- Pieces of one size lie behind one another. -/
theorem within_pieces_iff {pieces size i : Nat} :
    (∃ p < pieces, Within (p * size) size i) ↔ i < pieces * size := by
  constructor
  · rintro ⟨p, hp, -, hend⟩
    exact Nat.lt_of_lt_of_le hend (piece_end_le hp (Nat.le_refl _))
  · intro hi
    have hsize : 0 < size := Nat.pos_of_ne_zero fun h0 => by simp [h0] at hi
    refine ⟨i / size, Nat.div_lt_of_lt_mul (Nat.mul_comm .. ▸ hi), ?_⟩
    have hmod := Nat.mod_lt i hsize
    have hdiv := Nat.div_add_mod' i size
    exact ⟨by omega, by omega⟩

/-- A loop whose passes each write a region, whatever the buffer held, writes the regions of all
passes. -/
theorem foldlM_written {β : Type} {step : Array α → β → Except Failure (Array α)} {bs : List β}
    (region : β → Nat → Prop) (value : Nat → α) {size : Nat}
    (hstep : ∀ b ∈ bs, ∀ buffer : Array α, buffer.size = size →
      Yields (step buffer b) (Written buffer (region b) value))
    {buffer : Array α} (hsize : buffer.size = size) :
    Yields (bs.foldlM step buffer) (Written buffer (fun i => ∃ b ∈ bs, region b i) value) := by
  -- The invariant: what is done so far has written the regions of the passes made so far.
  have hnothing : Written buffer (fun i => ∃ b ∈ ([] : List β), region b i) value buffer :=
    (Written.refl buffer value).congr fun i => by simp
  exact Yields.foldlM (I := fun done => Written buffer (fun i => ∃ b ∈ done, region b i) value)
    (fun b hb done between hw => (hstep b hb between (hw.size.trans hsize)).mono fun after hw' =>
      (hw.trans hw').congr fun i => by simp [or_and_right, exists_or]) hnothing

/-- A loop that cannot be stopped writes the regions of all its passes as well. -/
theorem foldl_written {β : Type} {step : Array α → β → Array α} {bs : List β}
    (region : β → Nat → Prop) (value : Nat → α) {size : Nat}
    (hstep : ∀ b ∈ bs, ∀ buffer : Array α, buffer.size = size →
      Written buffer (region b) value (step buffer b))
    {buffer : Array α} (hsize : buffer.size = size) :
    Written buffer (fun i => ∃ b ∈ bs, region b i) value (bs.foldl step buffer) := by
  obtain ⟨after, hafter, hw⟩ := foldlM_written region value
    (fun b hb between hbetween => Yields.ok (hstep b hb between hbetween)) hsize
  have hloop : bs.foldlM (fun buffer b => .ok (step buffer b)) buffer =
      (.ok (bs.foldl step buffer) : Except Failure (Array α)) := List.foldlM_pure
  rw [hloop] at hafter
  cases hafter
  exact hw

end Buffer

end ForwardPass

import ForwardPass.Proofs.Tensor

/-!
# Pad lanes of tensors

A tensor is made from zeros, from a list of values or from a padded buffer, and then its logical elements are
assigned to. Assignments keep the pad lanes: zeros, or what the buffer brought along, which nothing clears.
Tensors whose pad lanes are zero are equal if their logical values are.
-/

namespace ForwardPass.Tensor

variable {α : Type}

/-! ## Equal tensors -/

/-- Lists are equal if they are so place by place. -/
theorem list_beq_iff [BEq α] {xs ys : List α} :
    (xs == ys) = true ↔ ∀ i : Nat, (xs[i]? == ys[i]?) = true := by
  induction xs generalizing ys with
  | nil =>
    cases ys with
    | nil => exact iff_of_true rfl fun _ => rfl
    | cons y ys => exact iff_of_false nofun fun h => nomatch h 0
  | cons x xs ih =>
    cases ys with
    | nil => exact iff_of_false nofun fun h => nomatch h 0
    | cons y ys =>
      rw [List.cons_beq_cons, Bool.and_eq_true, ih]
      refine ⟨fun h i => ?_, fun h => ⟨h 0, fun i => h (i + 1)⟩⟩
      cases i with
      | zero => exact h.1
      | succ i => exact h.2 i

/-- Buffers are equal if they are so place by place. -/
theorem array_beq_iff [BEq α] {xs ys : Array α} :
    (xs == ys) = true ↔ ∀ i : Nat, (xs[i]? == ys[i]?) = true := by
  rw [← Array.beq_toList, list_beq_iff]
  simp only [Array.getElem?_toList]

/-- Where pad lanes are zero, tensors are equal if their logical values are. -/
theorem agrees_iff [Scalar α] [BEq α] (hzero : ((0 : α) == 0) = true) {t u : Tensor α}
    (ht : t.shape.PadsZero t.batch t.data) (hu : u.shape.PadsZero u.batch u.data) :
    t.agrees u = true ↔ t.name = u.name ∧ t.shape = u.shape ∧ t.batch = u.batch ∧
      (t.toDense == u.toDense) = true := by
  simp only [agrees, Bool.and_eq_true, decide_eq_true_eq, and_assoc]
  refine and_congr_right fun _ => and_congr_right fun hshape => and_congr_right fun hbatch => ?_
  rw [array_beq_iff, list_beq_iff]
  constructor
  · intro hdata k
    by_cases hk : k < t.batch * t.shape.logicalSize
    · obtain ⟨image, chan, row, col, hi, hc, hr, hl, rfl⟩ := t.shape.exists_logicalIndex hk
      have hget := hdata (position t.shape image chan row col)
      rw [t.getElem?_toDense hi hc hr hl]
      rw [hshape] at hc hr hl hget ⊢
      rwa [u.getElem?_toDense (hbatch ▸ hi) hc hr hl, get?, hshape]
    · rw [List.getElem?_eq_none (by rw [length_toDense]; omega),
        List.getElem?_eq_none (by rw [length_toDense, ← hshape, ← hbatch]; omega)]
      rfl
  · intro hdense i
    by_cases hi : i < t.batch * t.shape.size
    · obtain ⟨image, chan, row, q, himage, hc, hr, hq, rfl⟩ := t.shape.exists_position hi
      by_cases hl : q < t.shape.cols
      · have hget := hdense (t.shape.logicalIndex image chan row q)
        rw [t.getElem?_toDense himage hc hr hl] at hget
        rw [hshape] at hc hr hl hget ⊢
        rwa [u.getElem?_toDense (hbatch ▸ himage) hc hr hl, get?, hshape] at hget
      · have hcols := Nat.le_of_not_lt hl
        rw [ht himage hc hr hcols hq]
        rw [hshape] at hc hr hcols hq ⊢
        rw [hu (hbatch ▸ himage) hc hr hcols hq]
        exact hzero
    · rw [Array.getElem?_eq_none (by rw [t.size_data]; omega),
        Array.getElem?_eq_none (by rw [u.size_data, ← hshape, ← hbatch]; omega)]
      rfl

/-! ## Origins -/

/-- What a tensor is made from. -/
inductive Origin (α : Type) where
  | zeros
  | dense (values : List α)
  | padded (data : Array α)

namespace Origin

variable [Scalar α] {o : Origin α} {name : String} {shape : Shape} {batch : Nat} {t : Tensor α}

def tensor (name : String) (shape : Shape) (batch : Nat) : Origin α → Except EngineError (Tensor α)
  | .zeros => .ok (.zeros name shape batch)
  | .dense values => ofDense name shape batch values
  | .padded data => ofPadded name shape batch data

/-- What the origin puts into the pad lane at position `i`. -/
def padLane? : Origin α → Nat → Option α
  | .zeros, _ => some 0
  | .dense _, _ => some 0
  | .padded data, i => data[i]?

/-- Only a padded buffer can bring pad lanes along that are not zero. -/
def PadsZero (shape : Shape) (batch : Nat) : Origin α → Prop
  | .zeros => True
  | .dense _ => True
  | .padded data => shape.PadsZero batch data

theorem padsZero_iff : o.PadsZero shape batch ↔
    ∀ image < batch, ∀ chan < shape.height, ∀ row < shape.rows, ∀ q < shape.rowLanes, shape.cols ≤ q →
      o.padLane? (position shape image chan row q) = some 0 := by
  cases o with
  | zeros => exact iff_of_true trivial fun _ _ _ _ _ _ _ _ _ => rfl
  | dense values => exact iff_of_true trivial fun _ _ _ _ _ _ _ _ _ => rfl
  | padded data =>
    exact ⟨fun h image hi chan hc row hr q hq hcols => h hi hc hr hcols hq,
      fun h image chan row q hi hc hr hcols hq => h image hi chan hc row hr q hq hcols⟩

/-- The tensor is that of the origin, and its pad lanes are those the origin has. -/
theorem tensor_eq_ok (h : o.tensor name shape batch = .ok t) :
    t.name = name ∧ t.shape = shape ∧ t.batch = batch ∧
      ∀ image < batch, ∀ chan < shape.height, ∀ row < shape.rows, ∀ q < shape.rowLanes, shape.cols ≤ q →
        t.get? image chan row q = o.padLane? (position shape image chan row q) := by
  cases o with
  | zeros =>
    cases h
    exact ⟨rfl, rfl, rfl, fun image hi chan hc row hr q hq hcols =>
      padsZero_zeros name shape batch hi hc hr hcols hq⟩
  | dense values =>
    change ofDense name shape batch values = .ok t at h
    have hlength : values.length = batch * shape.logicalSize := by
      by_contra hne
      rw [ofDense, if_pos hne] at h
      cases h
    obtain ⟨t', ht', hname, hshape, hbatch, hlists⟩ := ofDense_yields name hlength
    rw [h] at ht'
    cases ht'
    have hpads := hlists.pads
    rw [hshape, hbatch] at hpads
    refine ⟨hname, hshape, hbatch, fun image hi chan hc row hr q hq hcols => ?_⟩
    rw [get?, hshape]
    exact hpads hi hc hr hcols hq
  | padded data =>
    change ofPadded name shape batch data = .ok t at h
    unfold ofPadded at h
    split at h
    · cases h
    · cases h
      refine ⟨rfl, rfl, rfl, fun image hi chan hc row hr q hq _ => ?_⟩
      have hlt := shape.position_lt hi hc hr hq
      change (data.extract 0 (batch * shape.size))[position shape image chan row q]? = data[_]?
      rw [← Nat.zero_add (batch * shape.size), Buffer.getElem?_extract hlt, Nat.zero_add]

end Origin

/-! ## Edits -/

/-- An assignment to one logical element or to all of them. -/
inductive Edit (α : Type) where
  | set (image chan row col : Nat) (value : α)
  | fill (f : Nat → α)

/-- The two tensors differ at most in logical elements. -/
structure PadsKept (t t' : Tensor α) : Prop where
  name : t'.name = t.name
  shape : t'.shape = t.shape
  batch : t'.batch = t.batch
  lanes : ∀ image chan row q, t.shape.cols ≤ q → q < t.shape.rowLanes →
    t'.get? image chan row q = t.get? image chan row q

namespace PadsKept

variable {t t' t'' : Tensor α}

theorem refl (t : Tensor α) : PadsKept t t := ⟨rfl, rfl, rfl, fun _ _ _ _ _ _ => rfl⟩

theorem trans (h : PadsKept t t') (h' : PadsKept t' t'') : PadsKept t t'' := by
  refine ⟨h'.name.trans h.name, h'.shape.trans h.shape, h'.batch.trans h.batch, ?_⟩
  intro image chan row q hcols hq
  have hlanes := h'.lanes image chan row q
  rw [h.shape] at hlanes
  exact (hlanes hcols hq).trans (h.lanes image chan row q hcols hq)

end PadsKept

namespace Edit

variable {e : Edit α} {edits : List (Edit α)} {t t' : Tensor α} {shape : Shape} {batch : Nat}

def perform? (t : Tensor α) : Edit α → Option (Tensor α)
  | .set image chan row col value => t.set? image chan row col value
  | .fill f => some (t.fill f)

/-- The edits one after the other, if none of them is out of range. -/
def performAll? (t : Tensor α) (edits : List (Edit α)) : Option (Tensor α) := edits.foldlM perform? t

/-- The edit names a column and no pad lane. -/
def InColumns (shape : Shape) : Edit α → Prop
  | .set _ _ _ col _ => col < shape.cols
  | .fill _ => True

/-- The edit names logical elements of the batch. -/
def Within (shape : Shape) (batch : Nat) : Edit α → Prop
  | .set image chan row col _ => image < batch ∧ chan < shape.height ∧ row < shape.rows ∧ col < shape.cols
  | .fill _ => True

theorem perform?_keeps (h : e.InColumns t.shape) (hperform : e.perform? t = some t') : PadsKept t t' := by
  cases e with
  | set image chan row col value =>
    obtain ⟨hname, hshape, hbatch, hwritten⟩ := set?_eq_some hperform
    refine ⟨hname, hshape, hbatch, fun image' chan' row' q hcols hq => ?_⟩
    rw [get?, hshape]
    refine hwritten.outside _ ?_
    rw [Shape.position_eq_offset, Shape.position_eq_offset]
    exact t.shape.offset_pad_ne hcols hq h
  | fill f =>
    cases hperform
    exact ⟨rfl, rfl, rfl, fun image chan row q hcols hq => t.get?_fill_pad f hcols hq⟩

theorem exists_perform? (h : e.Within t.shape t.batch) : ∃ t', e.perform? t = some t' := by
  cases e with
  | set image chan row col value =>
    obtain ⟨hi, hc, hr, hl⟩ := h
    exact t.exists_set? value hi hc hr (Nat.lt_of_lt_of_le hl t.shape.cols_le_rowLanes)
  | fill f => exact ⟨_, rfl⟩

theorem Within.inColumns (h : e.Within shape batch) : e.InColumns shape := by
  cases e with
  | set image chan row col value => exact h.2.2.2
  | fill f => trivial

theorem performAll?_keeps (hedits : ∀ e ∈ edits, e.InColumns t.shape) (h : performAll? t edits = some t') :
    PadsKept t t' := by
  induction edits generalizing t with
  | nil =>
    cases h
    exact .refl _
  | cons e edits ih =>
    obtain ⟨between, hfirst, hrest⟩ := Option.bind_eq_some_iff.1 h
    have hkept := perform?_keeps (hedits e (List.mem_cons_self ..)) hfirst
    refine hkept.trans (ih (fun e he => ?_) hrest)
    rw [hkept.shape]
    exact hedits e (List.mem_cons_of_mem _ he)

theorem exists_performAll? (hedits : ∀ e ∈ edits, e.Within t.shape t.batch) :
    ∃ t', performAll? t edits = some t' := by
  induction edits generalizing t with
  | nil => exact ⟨t, rfl⟩
  | cons e edits ih =>
    have hwithin := hedits e (List.mem_cons_self ..)
    obtain ⟨between, hfirst⟩ := exists_perform? hwithin
    have hkept := perform?_keeps hwithin.inColumns hfirst
    obtain ⟨t', hrest⟩ := @ih between fun e he => by
      rw [hkept.shape, hkept.batch]
      exact hedits e (List.mem_cons_of_mem _ he)
    exact ⟨t', Option.bind_eq_some_iff.2 ⟨between, hfirst, hrest⟩⟩

end Edit

/-! ## Tensors made and edited -/

/-- However the logical elements of a tensor are assigned to, its pad lanes are those it was made with: zeros, or
those of the buffer it was made from. If they are zero, it is equal to every other tensor of this kind that has
its name, its shape, its batch and its values; an element that is not equal to itself is no such value. -/
theorem edited_exact [Scalar α] [BEq α] (hzero : ((0 : α) == 0) = true) {o : Origin α} {name : String}
    {shape : Shape} {batch : Nat} {made : Tensor α} (hmade : o.tensor name shape batch = .ok made)
    {edits : List (Edit α)} (hedits : ∀ e ∈ edits, e.InColumns shape) :
    ((∀ e ∈ edits, e.Within shape batch) → ∃ t, Edit.performAll? made edits = some t) ∧
    ∀ t, Edit.performAll? made edits = some t →
      t.name = name ∧ t.shape = shape ∧ t.batch = batch ∧ t.data.size = batch * shape.size ∧
      (∀ image < batch, ∀ chan < shape.height, ∀ row < shape.rows, ∀ q < shape.rowLanes, shape.cols ≤ q →
        t.get? image chan row q = o.padLane? (position shape image chan row q)) ∧
      (t.shape.PadsZero t.batch t.data ↔ o.PadsZero shape batch) ∧
      (o.PadsZero shape batch → ∀ u : Tensor α, u.shape.PadsZero u.batch u.data →
        (t.agrees u = true ↔ t.name = u.name ∧ t.shape = u.shape ∧ t.batch = u.batch ∧
          (t.toDense == u.toDense) = true)) := by
  obtain ⟨rfl, rfl, rfl, hlanes⟩ := Origin.tensor_eq_ok hmade
  refine ⟨fun hwithin => Edit.exists_performAll? hwithin, fun t ht => ?_⟩
  have hkept := Edit.performAll?_keeps hedits ht
  have hpad : ∀ image < made.batch, ∀ chan < made.shape.height, ∀ row < made.shape.rows,
      ∀ q < made.shape.rowLanes, made.shape.cols ≤ q →
      t.get? image chan row q = o.padLane? (position made.shape image chan row q) := by
    intro image hi chan hc row hr q hq hcols
    rw [hkept.lanes image chan row q hcols hq, hlanes image hi chan hc row hr q hq hcols]
  have hiff : t.shape.PadsZero t.batch t.data ↔ o.PadsZero made.shape made.batch := by
    rw [hkept.shape, hkept.batch, Origin.padsZero_iff]
    refine ⟨fun h image hi chan hc row hr q hq hcols => ?_, fun h image chan row q hi hc hr hcols hq => ?_⟩
    · rw [← hpad image hi chan hc row hr q hq hcols, get?, hkept.shape]
      exact h hi hc hr hcols hq
    · have hlane := hpad image hi chan hc row hr q hq hcols
      rwa [h image hi chan hc row hr q hq hcols, get?, hkept.shape] at hlane
  refine ⟨hkept.name, hkept.shape, hkept.batch, ?_, hpad, hiff, fun ho u hu =>
    agrees_iff hzero (hiff.2 ho) hu⟩
  rw [t.size_data, hkept.shape, hkept.batch]

/-- Two rows of two columns and a pad lane, made from a buffer whose pad lanes are zero. -/
def wrapped : Tensor Float32 where
  name := "t"
  shape := ⟨2, 2, 1, 1⟩
  batch := 1
  data := #[1, 2, 0, 3, 4, 0]
  size_data := rfl

/-- The same tensor once all its elements, and one of them again, have been assigned to. -/
def refilled : Tensor Float32 where
  name := "t"
  shape := ⟨2, 2, 1, 1⟩
  batch := 1
  data := #[7, 7, 0, 8, 7, 0]
  size_data := rfl

theorem edited_exact_refilled :
    ((0 : Float32) == 0) = true ∧
    (Origin.padded #[1, 2, 0, 3, 4, 0, 5]).tensor "t" ⟨2, 2, 1, 1⟩ 1 = .ok wrapped ∧
    Edit.performAll? wrapped [.fill fun _ => 7, .set 0 0 1 0 8] = some refilled ∧
    refilled.get? 0 0 1 2 = some 0 ∧
    ∃ u, ofDense "t" ⟨2, 2, 1, 1⟩ 1 [7, 7, 8, 7] = .ok u ∧ refilled.agrees u = true := by
  have hzero : ((0 : Float32) == 0) = true := by decide +kernel
  have hmade : (Origin.padded #[1, 2, 0, 3, 4, 0, 5]).tensor "t" ⟨2, 2, 1, 1⟩ 1 = .ok wrapped := rfl
  have hedited : Edit.performAll? wrapped [.fill fun _ => 7, .set 0 0 1 0 8] = some refilled := rfl
  have hcolumns : ∀ e ∈ ([.fill fun _ => 7, .set 0 0 1 0 8] : List (Edit Float32)),
      e.InColumns ⟨2, 2, 1, 1⟩ := by
    rintro e (_ | ⟨_, _ | ⟨_, _ | _⟩⟩)
    · trivial
    · exact show 0 < 2 by decide
  have hpads : (Origin.padded #[1, 2, 0, 3, 4, 0, 5]).PadsZero (α := Float32) ⟨2, 2, 1, 1⟩ 1 := by
    intro image chan row q hi hc hr hcols hq
    change row < 2 at hr
    obtain rfl : image = 0 := Nat.lt_one_iff.1 hi
    obtain rfl : chan = 0 := Nat.lt_one_iff.1 hc
    obtain rfl : q = 2 := Nat.le_antisymm (Nat.le_of_lt_succ hq) hcols
    rcases Nat.le_one_iff_eq_zero_or_eq_one.1 (Nat.le_of_lt_succ hr) with rfl | rfl
    · rfl
    · rfl
  obtain ⟨-, -, -, -, hlanes, -, hagrees⟩ := (edited_exact hzero hmade hcolumns).2 refilled hedited
  obtain ⟨u, hu, hname, hshape, hbatch, hlists⟩ :=
    @ofDense_yields Float32 _ [7, 7, 8, 7] "t" ⟨2, 2, 1, 1⟩ 1 rfl
  refine ⟨hzero, hmade, hedited, hlanes 0 (by decide) 0 (by decide) 1 (by decide) 2 (by decide) (by decide),
    u, hu, (hagrees hpads u ?_).2 ⟨hname.symm, hshape.symm, hbatch.symm, ?_⟩⟩
  · exact hlists.pads
  · rw [hlists.dense]
    decide +kernel

/-- A buffer is taken with whatever its pad lanes hold. Its tensor lists the same values under the same name as
one that was made from the list, and is not equal to it. -/
theorem padded_not_agrees :
    ∃ t u : Tensor Float32,
      ofPadded "t" (.aligned 1 1 1) 1 #[1, 5, 0, 0, 0, 0, 0, 0] = .ok t ∧
      ofDense "t" (.aligned 1 1 1) 1 [1] = .ok u ∧
      t.get? 0 0 0 1 = some 5 ∧ t.toDense = u.toDense ∧ t.agrees u = false := by
  refine ⟨_, _, rfl, rfl, rfl, ?_, ?_⟩
  · decide +kernel
  · decide +kernel

end ForwardPass.Tensor

import ForwardPass.Register.Pipes

/-!
# What the pipes compute

Read with zeros past its end, a register is a sequence of lanes that a shift moves by its amount, so
that any number of shifts add up. The pipes shift their windows in place, lane by lane in ascending
order, which comes to the same. From this follows the closed form of an accumulation: step `i` of a
pipe sees the window from lane `i * amount` on.
-/

namespace ForwardPass

variable {α : Type} [Scalar α]

/-! ## Lanes -/

/-- Lane `m` of a register, zero past its end. -/
def laneAt {n : Nat} (v : Vector α n) (m : Nat) : α := v[m]?.getD 0

theorem laneAt_eq_getElem {n m : Nat} (v : Vector α n) (h : m < n) : laneAt v m = v[m] := by
  simp [laneAt, h]

theorem laneAt_eq_zero {n m : Nat} (v : Vector α n) (h : n ≤ m) : laneAt v m = 0 := by
  simp [laneAt, h]

/-- The lanes of two vectors, one behind the other. -/
theorem laneAt_ofUnits (front back : LaneVector α) (m : Nat) :
    laneAt (Window.ofUnits front back) m =
      if m < vectorLanes then laneAt front m else laneAt back (m - vectorLanes) := by
  unfold laneAt Window.ofUnits
  rw [Vector.getElem?_append]
  split <;> rfl

/-- The first lanes of a vector, as many as it has. -/
theorem take_toList_eq_map {n count : Nat} (v : Vector α n) (h : count ≤ n) :
    v.toList.take count = (List.range count).map (laneAt v) := by
  apply List.ext_getElem
  · rw [List.length_take, Vector.length_toList, Nat.min_eq_left h, List.length_map, List.length_range]
  · intro j hj _
    have hlane : j < n := Nat.lt_of_lt_of_le (Nat.lt_of_lt_of_le hj (List.length_take_le ..)) h
    rw [List.getElem_take, List.getElem_map, List.getElem_range, laneAt_eq_getElem v hlane, Vector.getElem_toList]

/-! ## Shifts -/

/-- Every lane moved `amount` places towards lane 0; a lane whose source lies past the end becomes
zero. -/
def Window.shift (w : Window α) (amount : Nat) : Window α :=
  Vector.ofFn fun i => if h : i.val + amount < windowLanes then w[i.val + amount] else 0

/-- A shift moves every lane, and zeros come in behind. -/
theorem laneAt_shift (w : Window α) (amount m : Nat) :
    laneAt (Window.shift w amount) m = laneAt w (amount + m) := by
  by_cases hm : m < windowLanes
  · rw [laneAt_eq_getElem _ hm, Window.shift, Vector.getElem_ofFn]
    split
    · next h =>
      rw [laneAt_eq_getElem w (Nat.add_comm amount m ▸ h)]
      simp only [Nat.add_comm]
    · next h => rw [laneAt_eq_zero w (Nat.add_comm amount m ▸ Nat.le_of_not_lt h)]
  · rw [laneAt_eq_zero _ (by omega), laneAt_eq_zero w (by omega)]

namespace Window

theorem ext_laneAt {w w' : Window α} (h : ∀ m, laneAt w m = laneAt w' m) : w = w' := by
  ext m hm
  rw [← laneAt_eq_getElem w hm, ← laneAt_eq_getElem w' hm, h]

theorem laneAt_copyLane (amount : Nat) (w : Window α) {i : Nat} (hi : i < windowLanes) (m : Nat) :
    laneAt (copyLane amount w i) m = if m = i then laneAt w (i + amount) else laneAt w m := by
  unfold copyLane
  split
  · next h =>
    subst h
    simp [laneAt, lane?, hi]
  · next h => rw [laneAt, Vector.getElem?_setIfInBounds_ne (Ne.symm h), laneAt]

/-- After `n` lanes these have moved, and the others, from which lanes are still to be taken, are as they were. -/
theorem laneAt_copyLanes (amount : Nat) (w : Window α) {n : Nat} (hn : n ≤ windowLanes) (m : Nat) :
    laneAt ((List.range n).foldl (copyLane amount) w) m =
      if m < n then laneAt w (amount + m) else laneAt w m := by
  induction n generalizing m with
  | zero => simp
  | succ n ih =>
    rw [List.range_succ, List.foldl_append, List.foldl_cons, List.foldl_nil, laneAt_copyLane amount _ hn]
    by_cases hmn : m = n
    · rw [if_pos hmn, if_pos (by omega), ih (Nat.le_of_succ_le hn), if_neg (by omega), hmn, Nat.add_comm]
    · have hlt : m < n + 1 ↔ m < n := by omega
      rw [if_neg hmn, ih (Nat.le_of_succ_le hn)]
      simp only [hlt]

/-- A shift in place reads no lane again that it has written. -/
theorem shiftInPlace_eq (w : Window α) (amount : Nat) : shiftInPlace w amount = shift w amount := by
  refine ext_laneAt fun m => ?_
  rw [shiftInPlace, laneAt_copyLanes amount w (Nat.le_refl _), laneAt_shift]
  split
  · rfl
  · next h => rw [laneAt_eq_zero w (Nat.le_of_not_lt h), laneAt_eq_zero w (by omega)]

end Window

namespace Pipes

/-- Both windows shifted by the same amount. -/
def shift (p : Pipes α) (amount : Nat) : Pipes α :=
  { p with first := Window.shift p.first amount, second := Window.shift p.second amount }

theorem foldl_copyLane (amount : Nat) (lanes : List Nat) (p : Pipes α) :
    lanes.foldl (copyLane amount) p =
      { p with
        first := lanes.foldl (Window.copyLane amount) p.first
        second := lanes.foldl (Window.copyLane amount) p.second } := by
  induction lanes generalizing p with
  | nil => rfl
  | cons i lanes ih => rw [List.foldl_cons, ih]; rfl

theorem shiftInPlace_eq (p : Pipes α) (amount : Nat) : p.shiftInPlace amount = p.shift amount := by
  unfold shiftInPlace shift
  rw [foldl_copyLane, ← Window.shiftInPlace_eq, ← Window.shiftInPlace_eq]
  rfl

end Pipes

/-! ## Products -/

/-- `sum`, to which the products of the weights and lanes of one pipe are added, first lane first. -/
def addProducts (weights lanes : Nat → α) (sum : α) : α :=
  (List.range pipeLanes).foldl (fun sum j => sum + weights j * lanes j) sum

theorem addProducts_congr {weights weights' lanes lanes' : Nat → α}
    (hw : ∀ j < pipeLanes, weights j = weights' j) (hl : ∀ j < pipeLanes, lanes j = lanes' j)
    (sum : α) : addProducts weights lanes sum = addProducts weights' lanes' sum := by
  simp only [addProducts, List.range, List.range.loop, List.foldl]
  rw [hw 0, hw 1, hw 2, hw 3, hl 0, hl 1, hl 2, hl 3] <;> decide

theorem multiplyAccumulate_eq_addProducts (weights lanes : Vector α pipeLanes) (sum : α) :
    multiplyAccumulate weights lanes sum = addProducts (laneAt weights) (laneAt lanes) sum := by
  have h (v : Vector α pipeLanes) (j : Fin pipeLanes) : laneAt v j = v[j] :=
    laneAt_eq_getElem v j.isLt
  simp only [multiplyAccumulate, ← h, addProducts, List.range, List.range.loop, List.foldl]
  rfl

theorem laneAt_low (v : LaneVector α) {j : Nat} (h : j < pipeLanes) :
    laneAt (LaneVector.low v) j = laneAt v j := by
  rw [laneAt_eq_getElem _ h, laneAt_eq_getElem v (Nat.lt_trans h (by decide))]
  exact Vector.getElem_take h

theorem laneAt_high (v : LaneVector α) {j : Nat} (h : j < pipeLanes) :
    laneAt (LaneVector.high v) j = laneAt v (pipeLanes + j) := by
  rw [laneAt_eq_getElem _ h, laneAt_eq_getElem v (Nat.add_lt_add_left h pipeLanes)]
  exact Vector.getElem_drop h

theorem laneAt_head (w : Window α) {j : Nat} (h : j < pipeLanes) :
    laneAt (Window.head w) j = laneAt w j := by
  rw [laneAt_eq_getElem _ h, laneAt_eq_getElem w (Nat.lt_trans h (by decide))]
  exact Vector.getElem_take h

theorem multiplyAccumulate_low (weights : LaneVector α) (w : Window α) (sum : α) :
    multiplyAccumulate (LaneVector.low weights) (Window.head w) sum =
      addProducts (laneAt weights) (laneAt w) sum := by
  rw [multiplyAccumulate_eq_addProducts]
  exact addProducts_congr (fun _ h => laneAt_low weights h) (fun _ h => laneAt_head w h) sum

theorem multiplyAccumulate_high (weights : LaneVector α) (w : Window α) (sum : α) :
    multiplyAccumulate (LaneVector.high weights) (Window.head w) sum =
      addProducts (fun j => laneAt weights (pipeLanes + j)) (laneAt w) sum := by
  rw [multiplyAccumulate_eq_addProducts]
  exact addProducts_congr (fun _ h => laneAt_high weights h) (fun _ h => laneAt_head w h) sum

/-! ## Accumulation -/

namespace Pipes

/-- The pipes `q` after `n` accumulation steps from `p`. -/
structure After (weights : LaneVector α) (amount : Nat) (budgets : Budgets) (p : Pipes α) (n : Nat)
    (q : Pipes α) : Prop where
  first : ∀ m, laneAt q.first m = laneAt p.first (n * amount + m)
  second : ∀ m, laneAt q.second m = laneAt p.second (n * amount + m)
  firstSum : ∀ (m : Nat) (h : m < vectorLanes), q.sums.first[m] =
    if m < n then
      addProducts (laneAt weights) (fun j => laneAt p.first (m * amount + j)) p.sums.first[m]
    else p.sums.first[m]
  secondSum : ∀ (m : Nat) (h : m < vectorLanes), q.sums.second[m] =
    if m < n ∧ m < budgets.second then
      addProducts (fun j => laneAt weights (pipeLanes + j))
        (fun j => laneAt p.second (m * amount + j)) p.sums.second[m]
    else p.sums.second[m]

variable {weights : LaneVector α} {amount : Nat} {budgets : Budgets} {p q : Pipes α}

theorem after_zero : After weights amount budgets p 0 p where
  first m := by simp
  second m := by simp
  firstSum m h := by simp
  secondSum m h := by simp

/-- One step moves on both windows and adds to its own partial sums only. -/
theorem After.step {n : Nat} (h : After weights amount budgets p n q) (hn : n < vectorLanes) :
    After weights amount budgets p (n + 1) (q.step weights amount budgets ⟨n, hn⟩) where
  first m := by
    rw [Pipes.step, Pipes.shiftInPlace_eq, Pipes.shift, laneAt_shift, h.first, Nat.succ_mul, Nat.add_assoc]
  second m := by
    rw [Pipes.step, Pipes.shiftInPlace_eq, Pipes.shift, laneAt_shift, h.second, Nat.succ_mul, Nat.add_assoc]
  firstSum m hm := by
    have hlanes : laneAt q.first = fun j => laneAt p.first (n * amount + j) := funext h.first
    simp only [Pipes.step, Pipes.shiftInPlace_eq, Pipes.shift, multiplyAccumulate_low, hlanes]
    -- Step `n` adds to partial sum `n` only.
    by_cases hmn : m = n
    · subst hmn
      simp [h.firstSum]
    · have hlt : m < n + 1 ↔ m < n := by omega
      rw [Vector.getElem_set_ne _ _ (Ne.symm hmn), h.firstSum]
      simp only [hlt]
  secondSum m hm := by
    have hlanes : laneAt q.second = fun j => laneAt p.second (n * amount + j) := funext h.second
    simp only [Pipes.step, Pipes.shiftInPlace_eq, Pipes.shift, multiplyAccumulate_high, hlanes]
    by_cases hmn : m = n
    · subst hmn
      by_cases hb : m < budgets.second <;> simp [hb, h.secondSum]
    · have hlt : m < n + 1 ↔ m < n := by omega
      have hset : ∀ x : α, (if n < budgets.second then q.sums.second.set n x else q.sums.second)[m] =
          q.sums.second[m] := by
        intro x
        split
        · exact Vector.getElem_set_ne _ _ (Ne.symm hmn)
        · rfl
      rw [hset, h.secondSum]
      simp only [hlt]

theorem after_foldl {n : Nat} (hn : n ≤ vectorLanes) :
    After weights amount budgets p n
      (Fin.foldl n (fun p i => p.step weights amount budgets (i.castLE hn)) p) := by
  -- A fold over `Fin` ends with its last step, which is the step lemma at the state before it.
  induction n with
  | zero => exact after_zero
  | succ n ih =>
    rw [Fin.foldl_succ_last]
    exact (ih (Nat.le_of_succ_le hn)).step hn

/-- Budgets that fit are spent. -/
theorem accumulate_eq_ok (weights : LaneVector α) (amount : Nat) (p : Pipes α) (hfit : budgets.Fit) :
    ∃ q, p.accumulate weights amount budgets = .ok q ∧
      After weights amount budgets p budgets.first q :=
  ⟨_, dif_pos hfit, after_foldl hfit.1⟩

end Pipes

end ForwardPass

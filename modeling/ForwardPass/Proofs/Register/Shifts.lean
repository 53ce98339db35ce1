import ForwardPass.Proofs.Exact
import ForwardPass.Proofs.Register
import ForwardPass.Proofs.Results

/-!
# Runs of shifts

A shift moves lanes towards lane 0. The main statement is that the shifts of a run add up, each window by itself,
however far each of them goes and whether they are done in place or not: lanes that have left a window stay out of it.
-/

namespace ForwardPass

variable {α : Type} [Scalar α]

/-! ## One window -/

namespace Window

@[simp] theorem shift_zero (w : Window α) : shift w 0 = w :=
  ext_laneAt fun m => by rw [laneAt_shift, Nat.zero_add]

theorem shift_shift (w : Window α) (a b : Nat) : shift (shift w a) b = shift w (a + b) :=
  ext_laneAt fun m => by rw [laneAt_shift, laneAt_shift, laneAt_shift, Nat.add_assoc]

-- The amounts come around to four in a word of 64 bits.
example :
    letI := integers
    let w : Window Int := Vector.ofFn fun i => i + 1
    shift (shift w (2 ^ 64 - 1)) 5 = zero ∧
      shift (shift w 3) 5 = #v[9, 10, 11, 12, 13, 14, 15, 16, 0, 0, 0, 0, 0, 0, 0, 0] := by
  decide +kernel

/-- A lane that leaves the window does not count. -/
theorem shift_set {w : Window α} {m : Nat} (hm : m < windowLanes) {amount : Nat} (hout : m < amount) (x : α) :
    shift (w.set m x) amount = shift w amount := by
  refine ext_laneAt fun i => ?_
  have hne : m ≠ amount + i := by omega
  rw [laneAt_shift, laneAt_shift, laneAt, laneAt, Vector.getElem?_set_ne hm hne]

end Window

/-! ## Runs -/

/-- A shift of one window, or of both in the same step. -/
inductive Shifting where
  | first (amount : Nat)
  | second (amount : Nat)
  | both (amount : Nat)
deriving DecidableEq, Repr

namespace Shifting

/-- How far the first window moves. -/
def onFirst : Shifting → Nat
  | .first amount | .both amount => amount
  | .second _ => 0

/-- How far the second window moves. -/
def onSecond : Shifting → Nat
  | .second amount | .both amount => amount
  | .first _ => 0

/-- The pipes after a shift. -/
def perform (p : Pipes α) : Shifting → Pipes α
  | .first amount => { p with first := Window.shift p.first amount }
  | .second amount => { p with second := Window.shift p.second amount }
  | .both amount => p.shift amount

/-- The pipes after a shift that was done in place. -/
def performInPlace (p : Pipes α) : Shifting → Pipes α
  | .first amount => { p with first := Window.shiftInPlace p.first amount }
  | .second amount => { p with second := Window.shiftInPlace p.second amount }
  | .both amount => p.shiftInPlace amount

/-- The pipes after a run of shifts. -/
def performAll (p : Pipes α) (shifts : List Shifting) : Pipes α := shifts.foldl perform p

theorem performInPlace_eq (p : Pipes α) (s : Shifting) : performInPlace p s = perform p s := by
  cases s with
  | first amount => rw [performInPlace, Window.shiftInPlace_eq, perform]
  | second amount => rw [performInPlace, Window.shiftInPlace_eq, perform]
  | both amount => exact p.shiftInPlace_eq amount

theorem perform_eq (p : Pipes α) (s : Shifting) :
    perform p s = ⟨Window.shift p.first s.onFirst, Window.shift p.second s.onSecond, p.sums⟩ := by
  cases s <;> simp [perform, onFirst, onSecond, Pipes.shift]

/-- A run moves each window as far as its shifts do together. -/
theorem performAll_eq (p : Pipes α) (shifts : List Shifting) :
    performAll p shifts =
      ⟨Window.shift p.first (shifts.map onFirst).sum, Window.shift p.second (shifts.map onSecond).sum, p.sums⟩ := by
  unfold performAll
  induction shifts generalizing p with
  | nil => simp
  | cons s shifts ih =>
    rw [List.foldl_cons, ih, perform_eq]
    simp only [Window.shift_shift, List.map_cons, List.sum_cons]

theorem foldl_performInPlace (p : Pipes α) (shifts : List Shifting) :
    shifts.foldl performInPlace p = performAll p shifts :=
  foldl_congr (fun s _ p => performInPlace_eq p s) p

theorem performAll_perm (p : Pipes α) {shifts shifts' : List Shifting} (h : shifts'.Perm shifts) :
    performAll p shifts' = performAll p shifts := by
  rw [performAll_eq, performAll_eq, (h.map onFirst).sum_eq, (h.map onSecond).sum_eq]

/-- After a run of shifts, in any order and in place or not, each lane of a window is the one as far on as the shifts
of this window go together, or zero if that is past the end. A lane that was shifted out stays out: whatever it held,
any further shifts leave the same. -/
theorem performAll_exact (p : Pipes α) (shifts : List Shifting) :
    let q := performAll p shifts
    let first := (shifts.map onFirst).sum
    let second := (shifts.map onSecond).sum
    (∀ i : Fin windowLanes,
        q.first[i] = (if h : i + first < windowLanes then p.first[i + first] else 0) ∧
        q.second[i] = (if h : i + second < windowLanes then p.second[i + second] else 0)) ∧
      shifts.foldl performInPlace p = q ∧
      (∀ amount, performInPlace p (.both amount) = performAll p [.first amount, .second amount]) ∧
      (∀ shifts', shifts'.Perm shifts → performAll p shifts' = q) ∧
      ∀ (m : Fin windowLanes) (x : α) (rest : List Shifting),
        (m < first → performAll { p with first := p.first.set m x } (shifts ++ rest) =
          performAll p (shifts ++ rest)) ∧
        (m < second → performAll { p with second := p.second.set m x } (shifts ++ rest) =
          performAll p (shifts ++ rest)) := by
  intro q first second
  refine ⟨fun i => ?_, foldl_performInPlace p shifts, fun amount => ?_, fun _ => performAll_perm p,
    fun m x rest => ⟨fun hout => ?_, fun hout => ?_⟩⟩
  · -- The windows that a run leaves are shifts of what they were, and a shift is told by its lanes.
    simp only [q, performAll_eq, Window.shift, Fin.getElem_fin, Vector.getElem_ofFn]
    exact ⟨rfl, rfl⟩
  · rw [performInPlace_eq]
    simp only [perform, performAll, Pipes.shift, List.foldl_cons, List.foldl_nil]
  · have hout' : m < ((shifts ++ rest).map onFirst).sum := by
      rw [List.map_append, List.sum_append]
      omega
    rw [performAll_eq, performAll_eq, Window.shift_set m.isLt hout']
  · have hout' : m < ((shifts ++ rest).map onSecond).sum := by
      rw [List.map_append, List.sum_append]
      omega
    rw [performAll_eq, performAll_eq, Window.shift_set m.isLt hout']

end Shifting

end ForwardPass

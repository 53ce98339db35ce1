import ForwardPass.Proofs.Exact
import ForwardPass.Proofs.Register

/-!
# Accumulation in closed form

What both pipes leave when their budgets are spent, lane by lane, in terms of the windows and partial sums they started
with. Places within a window are natural numbers of any size, so a place that lies past the end of the window, however
far, holds zero.
-/

namespace ForwardPass

variable {α : Type} [Scalar α]

/-- The products of one step, written out. -/
theorem addProducts_eq (weights lanes : Nat → α) (sum : α) :
    addProducts weights lanes sum =
      sum + weights 0 * lanes 0 + weights 1 * lanes 1 + weights 2 * lanes 2 + weights 3 * lanes 3 := rfl

namespace Pipes

/-- Budgets that fit are spent. A partial sum within its budget gains four products, the first lane first, of which
sum `i` finds its lanes `i` shifts on; all other sums stay, and both windows have moved once for each step of the first
pipe, those steps included in which the second adds nothing. -/
theorem accumulate_exact (weights : LaneVector α) (amount : Nat) (budgets : Budgets) (p : Pipes α)
    (hfit : budgets.Fit) :
    ∃ q, p.accumulate weights amount budgets = .ok q ∧
      (∀ i : Fin vectorLanes, q.sums.first.get i =
        let lane j := laneAt p.first (i.val * amount + j)
        if i.val < budgets.first then
          p.sums.first.get i + weights[0] * lane 0 + weights[1] * lane 1 + weights[2] * lane 2 + weights[3] * lane 3
        else p.sums.first.get i) ∧
      (∀ i : Fin vectorLanes, q.sums.second.get i =
        let lane j := laneAt p.second (i.val * amount + j)
        if i.val < budgets.second then
          p.sums.second.get i + weights[4] * lane 0 + weights[5] * lane 1 + weights[6] * lane 2 + weights[7] * lane 3
        else p.sums.second.get i) ∧
      (∀ m, laneAt q.first m = laneAt p.first (m + budgets.first * amount)) ∧
      ∀ m, laneAt q.second m = laneAt p.second (m + budgets.first * amount) := by
  obtain ⟨q, hq, hafter⟩ := accumulate_eq_ok weights amount p hfit
  refine ⟨q, hq, fun i => ?_, fun i => ?_, fun m => ?_, fun m => ?_⟩
  · have hsum := hafter.firstSum i i.isLt
    simp only [addProducts_eq] at hsum
    -- The weights stand at numerals, where reading with zeros behind computes.
    exact hsum
  · have hbudget : (i.val < budgets.first ∧ i.val < budgets.second) ↔ i.val < budgets.second :=
      and_iff_right_of_imp fun h => Nat.lt_of_lt_of_le h hfit.2.1
    have hsum := hafter.secondSum i i.isLt
    simp only [addProducts_eq, hbudget] at hsum
    exact hsum
  · rw [hafter.first, Nat.add_comm]
  · rw [hafter.second, Nat.add_comm]

/-- Windows of one to sixteen, the second a lane ahead, over partial sums that are not zero. -/
def ramps : Pipes Int :=
  ⟨Vector.ofFn fun i => i + 1, Vector.ofFn fun i => if i = 15 then 0 else i + 2,
    ⟨Vector.replicate vectorLanes 100, Vector.replicate vectorLanes 200⟩⟩

/-- Three taps at double throughput: the second pipe is one step short, and shifts on. -/
theorem accumulate_exact_odd :
    (⟨3, 2⟩ : Budgets).Fit ∧
      ∃ q, @accumulate Int integers #v[1, 2, 3, 0, 1, 2, 3, 0] 2 ⟨3, 2⟩ ramps = .ok q ∧
        q.sums.first[2] = 138 ∧ q.sums.first[3] = 100 ∧ q.sums.second[1] = 232 ∧ q.sums.second[2] = 200 ∧
        @laneAt Int integers _ q.first 0 = 7 ∧ @laneAt Int integers _ q.second 9 = 0 := by
  have hfit : (⟨3, 2⟩ : Budgets).Fit := by decide
  obtain ⟨q, hq, hfirst, hsecond, hlanes, hlanes'⟩ :=
    @accumulate_exact Int integers #v[1, 2, 3, 0, 1, 2, 3, 0] 2 ⟨3, 2⟩ ramps hfit
  exact ⟨hfit, q, hq, hfirst 2, hfirst 3, hsecond 1, hsecond 2, hlanes 0, hlanes' 9⟩

-- The second step would find lane 0 again, if places came around at the end of a word of 64 bits.
example :
    letI := integers
    let w : Window Int := Vector.ofFn fun i => i + 1
    let p : Pipes Int := ⟨w, w, .zero⟩
    (p.accumulate #v[1, 2, 3, 0, 1, 2, 3, 0] (2 ^ 63) ⟨3, 2⟩).toOption.map (fun q => q.sums.first.toList.take 4) =
      some [14, 0, 0, 0] := by
  decide +kernel

end Pipes

end ForwardPass

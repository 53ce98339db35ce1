import ForwardPass.Failure

/-!
# The two pipes

Each pipe multiplies the first lanes of its shift window by its half of the weights, adds the products
one after the other into one partial sum, and moves on: the next step works on the next partial sum and
on windows shifted by a fixed amount. Both windows shift on every step; the second pipe stops adding
once its own budget is spent.
-/

namespace ForwardPass

/-- Add the products of `weights` and `lanes` to `sum`, first lane first. -/
def multiplyAccumulate {α : Type} [Scalar α] (weights lanes : Vector α pipeLanes) (sum : α) : α :=
  Fin.foldl pipeLanes (fun sum j => sum + weights[j] * lanes[j]) sum

/-- How many steps each pipe runs. -/
structure Budgets where
  first : Nat
  second : Nat
deriving DecidableEq, Repr

/-- The registers hold the partial sums of the budgets, and the second pipe is at most one step
short. -/
def Budgets.Fit (b : Budgets) : Prop :=
  b.first ≤ vectorLanes ∧ b.second ≤ b.first ∧ b.first - b.second ≤ 1

instance (b : Budgets) : Decidable b.Fit := by unfold Budgets.Fit; infer_instance

/-- The partial sums of the two pipes. -/
structure PartialSums (α : Type) where
  first : LaneVector α
  second : LaneVector α

/-- The partial sums a group starts from. -/
def PartialSums.zero {α : Type} [Scalar α] : PartialSums α := ⟨LaneVector.zero, LaneVector.zero⟩

/-- The shift windows and partial sums of the two pipes. -/
structure Pipes (α : Type) where
  first : Window α
  second : Window α
  sums : PartialSums α

namespace Pipes

variable {α : Type} [Scalar α]

/-- Lane `i` of each window takes the lane `amount` places on. -/
def copyLane (amount : Nat) (p : Pipes α) (i : Nat) : Pipes α :=
  { p with first := Window.copyLane amount p.first i, second := Window.copyLane amount p.second i }

/-- Shift both windows in place, lane by lane in the same step. -/
def shiftInPlace (p : Pipes α) (amount : Nat) : Pipes α :=
  (List.range windowLanes).foldl (copyLane amount) p

/-- Step `i`: add into partial sum `i` of each pipe that still has budget, then shift. -/
def step (weights : LaneVector α) (amount : Nat) (budgets : Budgets) (p : Pipes α)
    (i : Fin vectorLanes) : Pipes α :=
  let first := multiplyAccumulate (LaneVector.low weights) (Window.head p.first) p.sums.first[i]
  let second := multiplyAccumulate (LaneVector.high weights) (Window.head p.second) p.sums.second[i]
  -- The second window still shifts when its pipe no longer adds.
  let sums : PartialSums α :=
    { first := p.sums.first.set i first
      second := if i < budgets.second then p.sums.second.set i second else p.sums.second }
  { p with sums }.shiftInPlace amount

/-- Run both pipes through their budgets. -/
def accumulate (weights : LaneVector α) (amount : Nat) (budgets : Budgets) (p : Pipes α) :
    Except Failure (Pipes α) :=
  if h : budgets.Fit then
    .ok (Fin.foldl budgets.first (fun p i => p.step weights amount budgets (i.castLE h.1)) p)
  else .error (.fault .budget)

end Pipes

end ForwardPass

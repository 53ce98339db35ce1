import ForwardPass.Register.Pipes

/-!
# Throughput

Whether the two pipes share one output pixel or produce one each, and how their partial sums become
the output pixels of a group.
-/

namespace ForwardPass

inductive Throughput where
  /-- Both pipes add into the same pixels. -/
  | single
  /-- Each pipe makes pixels of its own. -/
  | double
deriving DecidableEq, Repr, Inhabited

namespace Throughput

/-- A kernel narrower than a pipe leaves room for two pixels per step. -/
def ofKernel (width : Nat) : Throughput := if width < pipeLanes then .double else .single

/-- The output pixels of a group: interleaved at double throughput, added lane by lane at single. -/
def merge {α : Type} [Scalar α] (t : Throughput) (sums : PartialSums α) : LaneVector α :=
  match t with
  | .double => Vector.ofFn fun i =>
      0 + if i.val % 2 = 0 then sums.first[i.val / 2] else sums.second[i.val / 2]
  | .single => Vector.ofFn fun i => 0 + (sums.first.get i + sums.second.get i)

end Throughput

end ForwardPass

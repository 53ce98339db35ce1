import ForwardPass.Scalar

/-!
# Lanes

The two kinds of register of the accelerator: a vector of eight lanes, and a shift window of two such
vectors addressed as one flat row of sixteen lanes. A shift moves lanes towards lane 0 and brings
zeros in at the far end.
-/

namespace ForwardPass

/-- Lanes of one vector register. -/
abbrev vectorLanes : Nat := 8

/-- Lanes one pipe consumes per multiply-accumulate step: half a vector. -/
abbrev pipeLanes : Nat := 4

/-- Lanes of one shift window: two vectors. -/
abbrev windowLanes : Nat := 16

/-! ## Vector registers -/

/-- One vector register. -/
abbrev LaneVector (α : Type) : Type := Vector α vectorLanes

namespace LaneVector

variable {α : Type} [Scalar α]

/-- The register that holds zero in every lane. -/
def zero : LaneVector α := Vector.replicate vectorLanes 0

/-- Fill a register from the front of `xs`; lanes that `xs` does not reach are zero, and elements past
the last lane are left out. -/
def load (xs : List α) : LaneVector α := Vector.ofFn fun i => xs.getD i 0

omit [Scalar α] in
/-- The half that the first pipe multiplies by. -/
def low (v : LaneVector α) : Vector α pipeLanes := v.take pipeLanes

omit [Scalar α] in
/-- The half that the second pipe multiplies by. -/
def high (v : LaneVector α) : Vector α pipeLanes := v.drop pipeLanes

end LaneVector

/-! ## Shift windows -/

/-- A sliding window of activations. -/
abbrev Window (α : Type) : Type := Vector α windowLanes

namespace Window

variable {α : Type} [Scalar α]

/-- The window that holds zero in every lane. -/
def zero : Window α := Vector.replicate windowLanes 0

/-- Fill a window from the front of `xs`, with zeros behind. -/
def ofLanes (xs : List α) : Window α := Vector.ofFn fun i => xs.getD i 0

/-- The window of two vectors, one behind the other. -/
def ofUnits (front back : LaneVector α) : Window α := front ++ back

omit [Scalar α] in
/-- Vector `u` of the window, if there is one. -/
def unit? (w : Window α) (u : Nat) : Option (LaneVector α) :=
  match u with
  | 0 => some (w.take vectorLanes)
  | 1 => some (w.drop vectorLanes)
  | _ => none

/-- Replace vector `u` of the window, if there is one. -/
def loadUnit? (w : Window α) (u : Nat) (v : LaneVector α) : Option (Window α) :=
  match u with
  | 0 => (w.unit? 1).map (ofUnits v)
  | 1 => (w.unit? 0).map (ofUnits · v)
  | _ => none

omit [Scalar α] in
/-- Replace lane `i` of the window, if there is one. -/
def setLane? (w : Window α) (i : Nat) (value : α) : Option (Window α) :=
  if h : i < windowLanes then some (w.set i value) else none

omit [Scalar α] in
/-- Lane `i` of the window, if there is one. -/
def lane? (w : Window α) (i : Nat) : Option α := w[i]?

/-- Lane `i` takes the lane `amount` places on as the window has it by now, zero past the end. -/
def copyLane (amount : Nat) (w : Window α) (i : Nat) : Window α :=
  w.setIfInBounds i ((w.lane? (i + amount)).getD 0)

/-- Shift the window in place by `amount` lanes, lane 0 first. -/
def shiftInPlace (w : Window α) (amount : Nat) : Window α :=
  (List.range windowLanes).foldl (copyLane amount) w

omit [Scalar α] in
/-- The lanes a pipe multiplies in one step. -/
def head (w : Window α) : Vector α pipeLanes := w.take pipeLanes

end Window

end ForwardPass

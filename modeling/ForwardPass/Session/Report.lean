import ForwardPass.Session
import ForwardPass.Text.Decimal

/-!
# Reports

What a session prints when it is over: one image of the output, the records, and a summary.
-/

namespace ForwardPass

/-- What a session comes down to. -/
structure Summary where
  network : String
  mode : RunMode
  completed : Nat
  /-- Where the output is; graphs leave theirs elsewhere. -/
  result : Option Slot
  totals : Totals
deriving DecidableEq, Repr

namespace Session

variable {α : Type}

def summary (s : Session α) : Summary :=
  { network := s.run.pass.network.name
    mode := s.plan.mode
    completed := s.completed
    result := s.run.pass.result
    totals := s.run.ledger.totals }

end Session

/-- A list cut into pieces of `size`, the last of which may be shorter. -/
def pieces {β : Type} (size : Nat) (xs : List β) : List (List β) :=
  if _h : xs = [] ∨ size = 0 then []
  else xs.take size :: pieces size (xs.drop size)
termination_by xs.length
decreasing_by
  have : 0 < xs.length := List.length_pos_iff.2 fun e => _h (.inl e)
  simp only [List.length_drop]
  omega

namespace Report

/-- A value in nine columns, with five places. -/
def amount (x : Float32) : String := padLeft 9 ((FloatValue.ofFloat32 x).fixed 5)

/-- A row of values. -/
def row (values : List Float32) : String := "  " ++ " ".intercalate (values.map amount) ++ "\n"

/-- Image `image` of a tensor, one row per line, if the tensor has it. -/
def output? (t : Tensor Float32) (image : Nat) : Option String := do
  let values ← t.image? image
  let shape := t.shape
  return "Output [" ++ t.name ++ "] image " ++ toString image ++ ": " ++ toString shape.height ++ "x" ++
    toString shape.rows ++ "x" ++ toString shape.cols ++ "\n" ++
    String.join ((pieces (max shape.cols 1) values).map row)

def record (r : Record) : String :=
  "  Step " ++ toString r.step ++ ": " ++ r.action ++ " " ++ r.subject ++ "\n"

def records (rs : List Record) : String :=
  "\n--- Execution Records ---\n" ++ String.join (rs.map record) ++ "--- End Records ---\n\n"

def summary (s : Summary) : String :=
  let resultLine := match s.result with
    | some slot => "Result slot:  " ++ slot.describe ++ "\n"
    | none => ""
  "Network:      " ++ s.network ++ "\n" ++
    "Mode:         " ++ s.mode.name ++ "\n" ++
    "Layers run:   " ++ toString s.completed ++ "\n" ++
    resultLine ++
    "Invocations:  " ++ toString s.totals.launches ++ "\n" ++
    "Transfers in: " ++ toString s.totals.transfersIn ++ " (" ++ toString s.totals.bytesIn ++
      " bytes)\n" ++
    "Transfers out:" ++ toString s.totals.transfersOut ++ " (" ++ toString s.totals.bytesOut ++
      " bytes)\n"

end Report

end ForwardPass

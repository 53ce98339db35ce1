import ForwardPass.Text.Quoted

/-!
# Execution records

The log of a session: what was done, to what, and how many layers had run by then. In a trace, each
record is one line.
-/

namespace ForwardPass

structure Record where
  /-- Layers, or operators, completed when the record was taken. -/
  step : Nat
  action : String
  subject : String
deriving DecidableEq, Repr, Inhabited

namespace Record

/-- The record as a line of a trace, without its line end. -/
def traceLine (r : Record) : String :=
  "\x7b\"step\":" ++ toString r.step ++ ",\"action\":" ++ Quoted.data r.action ++ ",\"subject\":" ++
    Quoted.data r.subject ++ "\x7d"

end Record

end ForwardPass

import ForwardPass.Text.Blank
import ForwardPass.Text.Number

/-!
# Step commands

The commands of the step shell, one per line: nothing runs one layer, `si` and a number runs that many,
`c` runs to the end, and `q` quits. White space around a line, and around the number, does not matter.
-/

namespace ForwardPass

inductive StepCommand where
  /-- Run this many layers. -/
  | step (count : Nat)
  /-- Run all layers that are left. -/
  | proceed
  | quit
deriving DecidableEq, Repr

/-- Why a line is no command. -/
inductive StepDefect where
  | noCount
  | zeroCount
  | badCount (text : String) (defect : IntegerDefect)
  | unknown (text : String)
deriving DecidableEq, Repr

def StepDefect.message : StepDefect → String
  | .noCount => "Error: 'si' requires a number, e.g., 'si 3'"
  | .zeroCount => "Error: step count must be greater than 0"
  | .badCount text defect => "Error: invalid number '" ++ text ++ "': " ++ defect.message
  | .unknown text =>
    "Unknown command: '" ++ text ++
      "'. Use Enter to step, 'q' to quit, 'c' to continue, or 'si 3' to step N layers"

namespace StepCommand

/-- Numbers of layers are below this. -/
def countBound : Nat := UInt32.size

/-- The command whose number is written by `cs`, white space around it aside. -/
def ofCount (cs : List Char) : Except StepDefect StepCommand :=
  let digits := trim cs
  if digits.isEmpty then .error .noCount
  else
    match unsigned countBound digits with
    | .ok 0 => .error .zeroCount
    | .ok count => .ok (.step count)
    | .error defect => .error (.badCount (String.ofList digits) defect)

/-- The command on a line. -/
def parse (line : List Char) : Except StepDefect StepCommand :=
  match trim line with
  | [] => .ok (.step 1)
  | 's' :: 'i' :: rest => ofCount rest
  | ['q'] => .ok .quit
  | ['c'] => .ok .proceed
  | other => .error (.unknown (String.ofList other))

end StepCommand

end ForwardPass

import ForwardPass.CommandLine

/-!
# Running on this machine

The host that is the machine itself, and the program on it.
-/

namespace ForwardPass

/-- The defect behind an error of the system. -/
def FileDefect.ofError : IO.Error → FileDefect
  | .permissionDenied _ _ _ => .denied
  | .inappropriateType _ code _ => if code = 21 then .isDirectory else .notDirectory
  | .resourceExhausted _ _ _ => .noSpace
  | .invalidArgument _ code _ => if code = 36 then .nameTooLong else .nullInName
  | _ => .notFound

/-- The variables of an environment block, whose entries end with a null character. -/
def variablesOf (block : String) : List (String × String) :=
  (block.splitOn "\x00").filterMap fun entry =>
    match entry.splitOn "=" with
    | name :: value@(_ :: _) => some (name, "=".intercalate value)
    | _ => none

instance : Host IO where
  environment := do
    let bytes ← IO.FS.readBinFile "/proc/self/environ"
    return variablesOf ((String.fromUTF8? bytes).getD "")
  readFile path := do
    try
      let bytes ← IO.FS.readBinFile path
      match String.fromUTF8? bytes with
      | some text => return .ok text
      | none => return .error .notText
    catch e => return .error (.ofError e)
  createFile path := do
    try
      IO.FS.writeFile path ""
      return .ok ()
    catch e => return .error (.ofError e)
  append path text := do
    try
      IO.FS.withFile path .append fun file => do
        file.putStr text
        file.flush
      return .ok ()
    catch e => return .error (.ofError e)
  readInput := do (← IO.getStdin).readToEnd
  print text := do
    IO.print text
    (← IO.getStdout).flush
  printError text := IO.eprint text

end ForwardPass

def main (arguments : List String) : IO UInt32 := ForwardPass.CommandLine.run arguments

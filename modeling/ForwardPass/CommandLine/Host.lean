/-!
# Hosts

What the program needs of the machine it runs on: the environment, files, and the three standard
streams.
-/

namespace ForwardPass

/-- Why a file cannot be read, made or written. -/
inductive FileDefect where
  | notFound
  | denied
  | notDirectory
  | isDirectory
  | noSpace
  | nameTooLong
  | nullInName
  | notText
deriving DecidableEq, Repr

/-- The defect of an operation of the system, by its number, kind and text. -/
def FileDefect.describeSystem (code : Nat) (kind message : String) : String :=
  "Os \x7b code: " ++ toString code ++ ", kind: " ++ kind ++ ", message: \"" ++ message ++ "\" \x7d"

/-- The defect as messages show it. -/
def FileDefect.describe : FileDefect → String
  | .notFound => describeSystem 2 "NotFound" "No such file or directory"
  | .denied => describeSystem 13 "PermissionDenied" "Permission denied"
  | .notDirectory => describeSystem 20 "NotADirectory" "Not a directory"
  | .isDirectory => describeSystem 21 "IsADirectory" "Is a directory"
  | .noSpace => describeSystem 28 "StorageFull" "No space left on device"
  | .nameTooLong => describeSystem 36 "InvalidFilename" "File name too long"
  | .nullInName =>
    "Error \x7b kind: InvalidInput, message: \"file name contained an unexpected NUL byte\" \x7d"
  | .notText =>
    "Error \x7b kind: InvalidData, message: \"stream did not contain valid UTF-8\" \x7d"

class Host (m : Type → Type) where
  /-- The variables of the environment and their values. -/
  environment : m (List (String × String))
  readFile : String → m (Except FileDefect String)
  /-- Make an empty file, in place of one that is there. -/
  createFile : String → m (Except FileDefect Unit)
  /-- Append to a file that was made. -/
  append : String → String → m (Except FileDefect Unit)
  /-- All of the standard input. -/
  readInput : m String
  print : String → m Unit
  printError : String → m Unit

/-- A host for computations that may also stop. -/
instance {m : Type → Type} {ε : Type} [Monad m] [Host m] : Host (ExceptT ε m) where
  environment := ExceptT.lift Host.environment
  readFile path := ExceptT.lift (Host.readFile path)
  createFile path := ExceptT.lift (Host.createFile path)
  append path text := ExceptT.lift (Host.append path text)
  readInput := ExceptT.lift Host.readInput
  print text := ExceptT.lift (Host.print text)
  printError text := ExceptT.lift (Host.printError text)

end ForwardPass

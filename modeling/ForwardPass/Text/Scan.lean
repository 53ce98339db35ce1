/-!
# Scanners

A scanner takes what it recognises from the front of a list of characters and leaves the rest; a
scanner that fails leaves no result, so that an alternative starts over from the same place.
-/

namespace ForwardPass

abbrev Scan (β : Type) : Type := StateT (List Char) Option β

namespace Scan

/-- The next character, if it passes the test. -/
def charIf (test : Char → Bool) : Scan Char := fun cs =>
  match cs with
  | c :: rest => if test c then some (c, rest) else none
  | [] => none

/-- The given character. -/
def char (c : Char) : Scan Unit := do let _ ← charIf (· = c)

/-- The characters up to the first that fails the test. -/
def takeWhile (test : Char → Bool) : Scan (List Char) := fun cs =>
  some (cs.takeWhile test, cs.dropWhile test)

/-- The given text. -/
def text (s : String) : Scan Unit := fun cs =>
  (s.toList.isPrefixOf? cs).map fun rest => ((), rest)

/-- Whether the rest starts with the given text. -/
def looksAt (s : String) : Scan Bool := fun cs => some (s.toList.isPrefixOf cs, cs)

/-- The next character, left where it is. -/
def peek? : Scan (Option Char) := fun cs => some (cs.head?, cs)

/-- Nothing is left. -/
def atEnd : Scan Unit := fun cs => if cs.isEmpty then some ((), cs) else none

/-- What the scanner recognises, or nothing. -/
def optionally {β : Type} (p : Scan β) : Scan (Option β) := (some <$> p) <|> pure none

/-- At most `count` repetitions of a scanner. -/
def atMost {β : Type} (p : Scan β) : Nat → Scan (List β)
  | 0 => pure []
  | count + 1 => (do
      let x ← p
      let xs ← atMost p count
      return x :: xs) <|> pure []

/-- As many repetitions of a scanner as there are; a scanner that takes at least one character repeats
at most as often as characters are left. -/
def many {β : Type} (p : Scan β) : Scan (List β) := do
  let cs ← get
  atMost p cs.length

/-- Repetitions of a scanner with separators between them, or none at all. -/
def separated {β : Type} (p : Scan β) (separator : Scan Unit) : Scan (List β) :=
  (do
    let first ← p
    let rest ← many (do separator; p)
    return first :: rest) <|> pure []

/-- The result of a scanner that takes the whole text. -/
def whole? {β : Type} (p : Scan β) (cs : List Char) : Option β :=
  match p cs with
  | some (x, []) => some x
  | _ => none

end Scan

end ForwardPass

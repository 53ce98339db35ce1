import ForwardPass.Yaml.Cursor

/-!
# The layout of a YAML text

Tokens are taken from the front of a text in the light of what the ones before them left open: the
columns that the collections around them stand in, and the places where a key might have started. That
something was a key is known at its colon only; its marks are then put in front of it.
-/

namespace ForwardPass.Yaml

inductive Token where
  | version
  /-- A directive that makes a handle stand for a stem. -/
  | handle (name stem : String)
  | documentStart
  | documentEnd
  | blockSequence
  | blockMapping
  | blockEnd
  | flowSequence
  | flowSequenceEnd
  | flowMapping
  | flowMappingEnd
  /-- The dash of an item. -/
  | item
  /-- The comma behind an item. -/
  | comma
  | key
  | value
  | alias (name : String)
  | anchor (name : String)
  | tag (handle suffix : String)
  | scalar (isPlain : Bool) (text : String)
deriving DecidableEq, Repr

/-- A place where a key may have started. -/
structure KeyStart where
  /-- Nothing else can stand here. -/
  required : Bool
  /-- The number of the token. -/
  token : Nat
  index : Nat
  line : Nat
  column : Nat
deriving Repr

/-- An indentation to come back to. -/
structure Indent where
  column : Int
  /-- A collection ends when it is come back to. -/
  endsBlock : Bool
deriving Repr

structure Layout where
  cursor : Cursor
  tokens : Array Token := #[]
  /-- A key may start here. -/
  keyAllowed : Bool := true
  /-- For each open flow collection, and at last for the text around them, where a key may have started. -/
  keys : List (Option KeyStart) := [none]
  /-- The column of the innermost collection of lines. -/
  indent : Int := -1
  indents : List Indent := []
  /-- The last token is an anchor or tag at the start of its line. -/
  atMargin : Bool := false
  /-- Where a colon needs no blank behind it. -/
  joint : Nat := 0
  /-- A mapping between braces was opened, or a key marked as such. -/
  braced : Bool := false
  /-- A pair stands in a flow sequence as a mapping of its own. -/
  inPair : Bool := false
deriving Repr

/-- A step that takes something from the front of a text, if the text keeps to the rules. -/
abbrev Lexing (β : Type) : Type := StateT Layout Option β

namespace Layout

def flowDepth (l : Layout) : Nat := l.keys.length - 1

def inFlow (l : Layout) : Bool := l.flowDepth > 0

end Layout

namespace Lexing

/-! ## Repetition -/

/-- At most `count` steps, each of which says whether to go on. -/
def repeatFrom {β : Type} (step : β → Lexing (Bool × β)) : (count : Nat) → β → Lexing β
  | 0, x => pure x
  | count + 1, x => do
    let (goesOn, y) ← step x
    if goesOn then repeatFrom step count y else return y

/-- Steps up to the first that does not go on. A step that goes on takes at least one character, so that
there are no more of them than characters. -/
def loopFrom {β : Type} (x : β) (step : β → Lexing (Bool × β)) : Lexing β := do
  repeatFrom step ((← get).cursor.rest.length + 1) x

/-! ## Characters -/

def cursor : Lexing Cursor := return (← get).cursor

def next : Lexing Char := return (← cursor).next

def move (f : Cursor → Cursor) : Lexing Unit := modify fun l => { l with cursor := f l.cursor }

def pass (count : Nat) : Lexing Unit := move (·.pass count)

/-- The characters of a line up to the first that fails the test. -/
def takeWhile (test : Char → Bool) : Lexing (List Char) := do
  let cs := (← cursor).rest.takeWhile test
  pass cs.length
  return cs

/-- The blanks that are the next characters. -/
def takeBlanks (test : Char → Bool) : Lexing (List Char) := do
  let cs := (← cursor).rest.takeWhile test
  move (·.passBlanks cs.length)
  return cs

def comment : Lexing Unit := do
  let _ ← takeWhile fun c => !endsLine c

/-- The blanks behind a token; tabs among them may be left. A comment needs a blank in front of it. -/
def trail (tabs : Bool) : Lexing (List Char) := do
  let blanks ← takeBlanks fun c => c = ' ' || (tabs && c = '\t')
  if (← next) = '#' then
    if blanks.isEmpty then failure
    comment
  return blanks

/-- Nothing but blanks and a comment is left of the line. -/
def lineEnd : Lexing Unit := do
  let _ ← trail true
  if !endsLine (← next) then failure

/-! ## Tokens and keys -/

def emit (t : Token) : Lexing Unit :=
  modify fun l => { l with tokens := l.tokens.push t, atMargin := false }

/-- Put a token in front of the one with a number. -/
def insert (number : Nat) (t : Token) : Lexing Unit :=
  modify fun l => { l with tokens := l.tokens.insertIdxIfInBounds number t }

def allowKey (allowed : Bool) : Lexing Unit := modify fun l => { l with keyAllowed := allowed }

/-- A key may start here, if it is allowed to. In the column of a mapping, nothing else can. -/
def markKey : Lexing Unit := do
  let l ← get
  let c := l.cursor
  -- A mapping of lines is open in this very column, so that a key has to follow.
  let required := !l.inFlow && l.indent = c.column && l.indents.head?.any (·.endsBlock)
  if l.keyAllowed then
    set { l with keys := some ⟨required, l.tokens.size, c.index, c.line, c.column⟩ :: l.keys.drop 1 }

/-- What may have started a key was none. -/
def dropKey : Lexing Unit := do
  let l ← get
  if l.keys.head?.join.any (·.required) then failure
  set { l with keys := none :: l.keys.drop 1 }

/-- The most characters between the start of a key and its colon. -/
def maxKeyLength : Nat := 1024

/-- Outside of flow collections, a key stands on one line and is not too long. -/
def dropStaleKey : Lexing Unit := do
  let l ← get
  match l.inFlow, l.keys.head?.join with
  | false, some key =>
    let c := l.cursor
    if key.line < c.line || key.index + maxKeyLength < c.index then dropKey
  | _, _ => pure ()

/-! ## Indentation -/

/-- The indentation once those inside of it were left for which the test holds, how many collections end
with them, and what is left to come back to. -/
def outside (test : Int → Indent → Bool) (indent : Int) : List Indent → Int × Nat × List Indent
  | [] => (indent, 0, [])
  | i :: rest =>
    if test indent i then
      let (column, ends, indents) := outside test i.column rest
      (column, if i.endsBlock then ends + 1 else ends, indents)
    else (indent, 0, i :: rest)

/-- Leave indentations as long as the test holds. -/
def leave (test : Int → Indent → Bool) : Lexing Unit := do
  let l ← get
  let (indent, ends, indents) := outside test l.indent l.indents
  set { l with
    indent, indents
    tokens := l.tokens ++ List.replicate ends Token.blockEnd
    atMargin := l.atMargin && ends = 0 }

/-- End the collections of lines that stand to the right of a column. -/
def endBlocks (column : Int) : Lexing Unit := do
  if !(← get).inFlow then leave fun indent _ => indent > column

/-- Leave the indentations that no collection has. -/
def leaveInner : Lexing Unit := leave fun _ i => !i.endsBlock

/-- A collection of lines stands in a column; where it is not open yet, it starts at the token with a
number, or here. -/
def startBlock (column : Int) (number : Option Nat) (t : Token) : Lexing Unit := do
  let l ← get
  if l.inFlow then return
  -- An indentation that no collection has gives way to the one that starts here.
  let l := match l.indents with
    | i :: rest =>
      if l.indent ≤ column && !i.endsBlock then { l with indent := i.column, indents := rest } else l
    | [] => l
  if l.indent < column then
    set { l with indent := column, indents := ⟨l.indent, true⟩ :: l.indents }
    match number with
    | some number => insert number t
    | none => emit t
  else set l

/-- What follows stands to the right of the innermost collection of lines. -/
def indentInner : Lexing Unit := do
  let l ← get
  if !l.inFlow && l.indents.head?.any (·.endsBlock) then
    set { l with indent := l.indent + 1, indents := ⟨l.indent, false⟩ :: l.indents }

/-! ## Space -/

/-- The space in front of a token: blanks, line ends and comments. Tabs do not indent. -/
def space : Lexing Unit :=
  loopFrom () fun () => do
    let l ← get
    match l.cursor.next with
    | '\t' =>
      if !l.indents.isEmpty && l.cursor.indenting && l.cursor.column < l.indent then lineEnd
      else move (·.passBlanks 1)
      return (true, ())
    | ' ' =>
      move (·.passBlanks 1)
      return (true, ())
    | '\n' | '\r' =>
      move (·.passBreak)
      if !l.inFlow then allowKey true
      return (true, ())
    | '#' =>
      comment
      return (true, ())
    | _ => return (false, ())

end Lexing

end ForwardPass.Yaml

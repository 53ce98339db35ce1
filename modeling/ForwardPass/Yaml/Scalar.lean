import ForwardPass.Text.CodePoint
import ForwardPass.Yaml.Layout

/-!
# YAML scalars

Texts as YAML writes them: plain, between quotes, and as blocks of lines. The line ends inside of the
first two, and of folded blocks, are folded: one between two words is a blank, and of several all but the
first stay.
-/

namespace ForwardPass.Yaml.Lexing

/-! ## Folding -/

/-- `count` line feeds. -/
def lineFeeds (count : Nat) : List Char := List.replicate count '\n'

/-- The space between two words. -/
structure Gap where
  /-- The blanks on the line of the first word. -/
  blanks : List Char := []
  /-- The second word stands on another line. -/
  crossed : Bool := false
  /-- A line ended that counts as a blank. -/
  breaks : Bool := false
  /-- Lines that ended after it. -/
  further : Nat := 0

/-- What a gap stands for. -/
def Gap.text (g : Gap) : List Char :=
  if !g.crossed then g.blanks
  else if g.breaks && g.further = 0 then [' ']
  else lineFeeds g.further

/-- The rest of a gap; `onTab` deals with tabs that stand in front of the column `least`. -/
def gap (least : Int) (start : Gap) (onTab : Gap → Lexing Gap) : Lexing Gap :=
  loopFrom start fun g => do
    let c ← cursor
    if isBlank c.next then
      if !g.crossed then
        move (·.passBlanks 1)
        return (true, { g with blanks := g.blanks ++ [c.next] })
      else if c.next = '\t' && c.column < least then return (true, ← onTab g)
      else
        move (·.passBlanks 1)
        return (true, g)
    else if isBreak c.next then
      move (·.passBreak)
      return (true,
        if g.crossed then { g with further := g.further + 1 }
        else { g with crossed := true, breaks := true, blanks := [] })
    else return (false, g)

/-! ## Plain scalars -/

/-- The characters of a plain scalar up to the next space, mark of a flow collection, or colon with space
behind it. -/
def plainWord (inFlow : Bool) : List Char → List Char
  | [] => []
  | c :: rest =>
    let after := rest.headD '\x00'
    let divides := c = ':' && (endsWord after || (inFlow && isFlowMark after))
    if endsWord c || divides || (inFlow && isFlowMark c) then []
    else c :: plainWord inFlow rest

/-- A plain scalar. Outside of flow collections, all of it stands to the right of the collection it is
in. -/
def plain : Lexing String := do
  leaveInner
  let l ← get
  let least := l.indent + 1
  if l.inFlow && l.cursor.column < least then failure
  let (cs, _) ← loopFrom (([], {}) : List Char × Gap) fun (cs, g) => do
    let c ← cursor
    if c.atDocumentMark || c.next = '#' then return (false, (cs, g))
    if l.inFlow && c.next = '-' && isFlowMark (c.ahead 1) then failure
    let word := plainWord l.inFlow c.rest
    pass word.length
    let cs := if word.isEmpty then cs else cs ++ g.text ++ word
    let g ← gap least {} fun g => do
      lineEnd
      return { g with crossed := (← cursor).indenting }
    let after ← cursor
    return (after.index > c.index + word.length && (l.inFlow || least ≤ after.column), (cs, g))
  if (← cursor).indenting then allowKey true
  return String.ofList cs

/-! ## Quoted scalars -/

/-- The character of a code point in hexadecimal digits. -/
def writtenPoint (count : Nat) : Lexing Char := do
  match (codePoint count).run (← cursor).rest with
  | some (c, _) =>
    pass count
    return c
  | none => failure

/-- The character that an escape sequence stands for. -/
def escape : Lexing Char := do
  let c := (← cursor).ahead 1
  pass 2
  match c with
  | '0' => return '\x00'
  | 'a' => return '\x07'
  | 'b' => return '\x08'
  | 't' | '\t' => return '\t'
  | 'n' => return '\n'
  | 'v' => return '\x0b'
  | 'f' => return '\x0c'
  | 'r' => return '\r'
  | 'e' => return '\x1b'
  | ' ' => return ' '
  | '"' => return '"'
  | '/' => return '/'
  | '\\' => return '\\'
  | 'N' => return '\u0085'
  | '_' => return '\u00a0'
  | 'L' => return '\u2028'
  | 'P' => return '\u2029'
  | 'x' => writtenPoint 2
  | 'u' => writtenPoint 4
  | 'U' => writtenPoint 8
  | _ => failure

/-- What stands between quotes up to the next space or the closing quote, and whether an escaped line end
follows. -/
def quotedWord (quote : Char) : Lexing (List Char × Bool) :=
  loopFrom ([], false) fun (cs, _) => do
    let c ← cursor
    if endsWord c.next then return (false, (cs, false))
    else if c.next = quote then
      if quote = '\'' && c.ahead 1 = quote then
        pass 2
        return (true, (cs ++ [quote], false))
      else return (false, (cs, false))
    else if quote = '"' && c.next = '\\' then
      if isBreak (c.ahead 1) then
        pass 1
        move (·.passBreak)
        return (false, (cs, true))
      else return (true, (cs ++ [← escape], false))
    else
      pass 1
      return (true, (cs ++ [c.next], false))

/-- A scalar between quotes. Behind it, nothing but a mark of the collection it is in may follow. -/
def quoted (quote : Char) : Lexing String := do
  let start ← cursor
  pass 1
  let cs ← loopFrom [] fun cs => do
    let l ← get
    let c := l.cursor
    if c.atDocumentMark || c.atEnd || c.column < l.indent then failure
    let (word, escaped) ← quotedWord quote
    if (← next) = quote then return (false, cs ++ word)
    let g ← gap l.indent { crossed := escaped } fun _ => failure
    return (true, cs ++ word ++ g.text)
  pass 1
  let _ ← trail true
  let l ← get
  let c := l.cursor.next
  let follows :=
    if l.inFlow then [',', '}', ']', ':'].contains c else c = ':' && start.line = l.cursor.line
  if !follows && !endsLine c then failure
  return String.ofList cs

/-! ## Blocks -/

/-- What becomes of the line ends at the end of a block. -/
inductive Chomping where
  | strip
  /-- The first one stays. -/
  | clip
  | keep
deriving DecidableEq, Repr

/-- The sign of a block, if there is one. -/
def chomping? : Lexing (Option Chomping) := do
  match ← next with
  | '+' =>
    pass 1
    return some .keep
  | '-' =>
    pass 1
    return some .strip
  | _ => return none

/-- The digit of a block that says how far its lines are indented, zero if there is none. -/
def increment : Lexing Nat := do
  let c ← next
  if c = '0' then failure
  if !c.isDigit then return 0
  pass 1
  return digitValue c

/-- The indentation of a line, as far as it counts, behind empty lines: how many these are, and the
furthest column that was reached. -/
def indentation (most : Option Nat) : Lexing (Nat × Nat) :=
  loopFrom (0, 0) fun (breaks, furthest) => do
    let c ← cursor
    let spaces := (c.rest.takeWhile (· = ' ')).length
    move (·.passBlanks (most.elim spaces fun most => min spaces (most - c.column)))
    let c ← cursor
    let furthest := max furthest c.column
    if isBreak c.next then
      move (·.passBreak)
      return (true, (breaks + 1, furthest))
    else return (false, (breaks, furthest))

/-- The lines of a block that were read. -/
structure BlockLines where
  text : List Char := []
  /-- The last of them has ended. -/
  ended : Bool := false
  /-- Empty lines behind it. -/
  empties : Nat := 0
  /-- It starts with a blank, so that its end is not folded. -/
  indented : Bool := false

/-- The lines of a block that stand in a column, the first of them behind some empty ones. -/
def blockLines (isFolded : Bool) (column empties : Nat) : Lexing BlockLines :=
  loopFrom { empties } fun lines => do
    let c ← cursor
    if c.column ≠ column || c.atEnd || c.looksAtMark "..." then return (false, lines)
    let indented := isBlank c.next
    -- An end is folded only between two lines that both start with a word.
    let joint :=
      if isFolded && lines.ended && !lines.indented && !indented then
        if lines.empties = 0 then [' '] else lineFeeds lines.empties
      else lineFeeds (if lines.ended then lines.empties + 1 else lines.empties)
    let text := lines.text ++ joint ++ (← takeWhile fun c => !endsLine c)
    if (← cursor).atEnd then return (false, { text, indented })
    move (·.passBreak)
    let (empties, _) ← indentation (some column)
    return (true, { text, ended := true, empties, indented })

/-- A block of lines, which keep their ends unless they are folded. -/
def block (isFolded : Bool) : Lexing String := do
  let start ← cursor
  pass 1
  leaveInner
  let sign ← chomping?
  let increment ← increment
  let sign ← match sign with
    | none => chomping?
    | some _ => pure sign
  let chomping := sign.getD .clip
  lineEnd
  if !(← cursor).atEnd then move (·.passBreak)
  if (← next) = '\t' then failure
  let outer := (← get).indent
  let given : Option Nat := if increment = 0 then none else some ((max outer 0).toNat + increment)
  let (empties, furthest) ← indentation given
  -- Without a digit, the furthest column that the empty lines reached sets the indentation.
  let column := given.getD (max furthest (outer + 1).toNat)
  let c ← cursor
  let tail (count : Nat) : String := String.ofList (lineFeeds count)
  if c.atEnd then
    if chomping = .strip || c.line = start.line then return ""
    else return tail (if chomping = .keep then max empties 1 else 1)
  if c.column < column && c.column > outer then failure
  let lines ← blockLines isFolded column empties
  let c ← cursor
  let ends := (if lines.ended then 1 else 0) + (if c.atEnd && c.column ≥ max column 1 then 1 else 0)
  return String.ofList lines.text ++
    match chomping with
    | .strip => ""
    | .clip => tail ends
    | .keep => tail (ends + lines.empties)

end ForwardPass.Yaml.Lexing

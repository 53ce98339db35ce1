import ForwardPass.Yaml.Scalar

/-!
# YAML tokens

The tokens of a text. Block collections have no marks of their own: they start where an item, key or value
stands further to the right than what is around it, and end where something stands further to the left.
-/

namespace ForwardPass.Yaml

namespace Lexing

/-! ## Anchors and tags -/

/-- The name of an anchor or alias, behind its mark. -/
def anchorName : Lexing String := do
  pass 1
  let cs ← takeWhile isAnchorChar
  if cs.isEmpty then failure
  return String.ofList cs

/-- A byte of an escaped character of an address. -/
def escapedByte : Lexing Nat := do
  let digits := ((← cursor).rest.drop 1).take 2
  if (← next) ≠ '%' || digits.length < 2 || !digits.all isHexDigit then failure
  pass 3
  return numberOfDigits 16 digits

/-- An escaped character of an address. Its first byte says how many follow; all of them, side by side,
are its code point. -/
def escapedChar : Lexing Char := do
  let first ← escapedByte
  let more ←
    if first < 0x80 then pure 0
    else if 0xc0 ≤ first && first < 0xe0 then pure 1
    else if 0xe0 ≤ first && first < 0xf0 then pure 2
    else if 0xf0 ≤ first && first < 0xf8 then pure 3
    else failure
  let bytes ← (List.range more).mapM fun _ => do
    let byte ← escapedByte
    if byte < 0x80 || 0xc0 ≤ byte then failure
    return byte
  match charOfCode? (bytes.foldl (fun n byte => 256 * n + byte) first) with
  | some c => return c
  | none => failure

/-- A part of an address, of characters that pass the test. -/
def address (test : Char → Bool) : Lexing (List Char) :=
  loopFrom [] fun cs => do
    let c ← next
    if !test c then return (false, cs)
    else if c = '%' then return (true, cs ++ [← escapedChar])
    else
      pass 1
      return (true, cs ++ [c])

/-- The handle of a tag: a name between two marks, of which the second may be missing. -/
def handle : Lexing (List Char) := do
  if (← next) ≠ '!' then failure
  pass 1
  let name ← takeWhile isNameChar
  if (← next) = '!' then
    pass 1
    return '!' :: name ++ ['!']
  else return '!' :: name

/-- Whether a handle has both of its marks. -/
def isClosed (handle : List Char) : Bool := handle.length ≥ 2 && handle.getLast? = some '!'

/-- A tag: an address between angle brackets, or a handle and what follows it. -/
def tag : Lexing Token := do
  let t ←
    if (← cursor).ahead 1 = '<' then do
      pass 2
      let cs ← address isAddressChar
      if (← next) ≠ '>' then failure
      pass 1
      pure (Token.tag "" (String.ofList cs))
    else do
      let handle ← handle
      let cs ← address isTagChar
      if isClosed handle then
        if cs.isEmpty then failure
        pure (Token.tag (String.ofList handle) (String.ofList cs))
      else
        let cs := handle.drop 1 ++ cs
        pure (if cs.isEmpty then Token.tag "" "!" else Token.tag "!" (String.ofList cs))
  let c ← next
  if !endsWord c && !((← get).inFlow && isFlowMark c) then failure
  return t

/-! ## Documents -/

/-- The end of all that stands around this place. -/
def endAll : Lexing Unit := do
  endBlocks (-1)
  dropKey
  allowKey false

/-- The most digits in a number of a version. -/
def maxVersionDigits : Nat := 9

def versionNumber : Lexing Unit := do
  let digits ← takeWhile Char.isDigit
  if digits.isEmpty || digits.length > maxVersionDigits then failure

/-- What a directive says. -/
def directiveValue (name : String) : Lexing Token := do
  let blanks : Lexing Unit := do let _ ← takeBlanks isBlank
  match name with
  | "YAML" =>
    blanks
    versionNumber
    if (← next) ≠ '.' then failure
    pass 1
    versionNumber
    return .version
  | "TAG" =>
    blanks
    let handle ← handle
    if !isClosed handle && handle ≠ ['!'] then failure
    blanks
    let first ← next
    if first ≠ '!' && !isTagChar first then failure
    if first = '!' then pass 1
    let cs ← address isAddressChar
    if !endsWord (← next) then failure
    return .handle (String.ofList handle) (String.ofList (if first = '!' then '!' :: cs else cs))
  | _ =>
    comment
    return .handle "" ""

/-- A directive, which has a line of its own. -/
def directive : Lexing Unit := do
  endAll
  pass 1
  let name ← takeWhile isNameChar
  if name.isEmpty || !endsWord (← next) then failure
  let t ← directiveValue (String.ofList name)
  lineEnd
  if !(← cursor).atEnd then move (·.passBreak)
  emit t

/-- A mark between documents. -/
def documentMark (t : Token) : Lexing Unit := do
  endAll
  pass 3
  emit t
  if t = .documentEnd then lineEnd

/-! ## Flow collections -/

/-- How deep flow collections may nest. -/
def maxFlowDepth : Nat := 255

def openFlow (t : Token) : Lexing Unit := do
  markKey
  indentInner
  if (← get).flowDepth = maxFlowDepth then failure
  modify fun l => { l with keys := none :: l.keys, braced := l.braced || t = .flowMapping }
  allowKey true
  pass 1
  let _ ← trail true
  emit t

/-- A pair in a flow sequence ends. -/
def endPair : Lexing Unit := do
  if (← get).inPair then
    modify fun l => { l with inPair := false, braced := false }
    emit .flowMappingEnd

def closeFlow (t : Token) : Lexing Unit := do
  dropKey
  modify fun l => if l.inFlow then { l with keys := l.keys.drop 1 } else l
  allowKey false
  endPair
  pass 1
  let _ ← trail true
  modify fun l => if l.inFlow then { l with joint := l.cursor.index } else l
  emit t

def comma : Lexing Unit := do
  dropKey
  allowKey true
  endPair
  pass 1
  let _ ← trail true
  emit .comma

/-! ## Block collections and pairs -/

/-- The dash of an item. -/
def item : Lexing Unit := do
  let l ← get
  let c := l.cursor
  if l.inFlow || !l.keyAllowed then failure
  if l.atMargin && c.column = 0 && l.indent ≥ 0 then failure
  pass 1
  startBlock c.column none .blockSequence
  let blanks ← trail true
  let c ← cursor
  if blanks.contains '\t' && c.next = '-' && endsWord (c.ahead 1) then failure
  if isBreak c.next || isFlowMark c.next then indentInner
  dropKey
  allowKey true
  emit .item

/-- The space that a question mark needs behind it: blanks, line ends and comments. -/
def keySpace : Lexing Unit := do
  let some := ← loopFrom false fun found => do
    let l ← get
    match l.cursor.next with
    | ' ' =>
      move (·.passBlanks 1)
      return (true, true)
    | '\n' | '\r' =>
      move (·.passBreak)
      if !l.inFlow then allowKey true
      return (true, true)
    | '#' =>
      comment
      return (true, found)
    | _ => return (false, found)
  if !some || (← next) = '\t' then failure

/-- The question mark in front of a key. -/
def keyMark : Lexing Unit := do
  let l ← get
  if l.inFlow then modify fun l => { l with braced := true }
  else
    if !l.keyAllowed then failure
    startBlock l.cursor.column none .blockMapping
  dropKey
  allowKey !l.inFlow
  pass 1
  keySpace
  emit .key

/-- The colon in front of a value. A key that may have started somewhere did so. -/
def valueMark : Lexing Unit := do
  let start := (← cursor)
  modify fun l => { l with inPair := l.inFlow && !l.braced }
  pass 1
  if (← next) = '\t' then
    let blanks ← trail true
    let c ← next
    if !blanks.contains ' ' && (c = '-' || isNameChar c) then failure
  let l ← get
  match l.keys.head?.join with
  -- The marks go in front of tokens that were read already, the innermost first.
  | some key =>
    insert key.token .key
    if l.inPair then
      if key.line < start.line then failure
      insert key.token .flowMapping
    startBlock key.column (some key.token) .blockMapping
    indentInner
    modify fun l => { l with keys := none :: l.keys.drop 1 }
    allowKey false
  | none =>
    if l.inPair then emit .flowMapping
    if !l.inFlow then
      if !l.keyAllowed then failure
      startBlock start.column none .blockMapping
    indentInner
    allowKey !l.inFlow
  emit .value

/-! ## Tokens -/

def scalarToken (isPlain : Bool) (text : Lexing String) : Lexing Unit := do
  markKey
  allowKey false
  emit (.scalar isPlain (← text))

/-- A scalar between quotes. Inside of flow collections, its value may follow at once. -/
def quotedToken (quote : Char) : Lexing Unit := do
  markKey
  allowKey false
  let s ← quoted quote
  space
  modify fun l => { l with joint := l.cursor.index }
  emit (.scalar false s)

def blockToken (isFolded : Bool) : Lexing Unit := do
  markKey
  allowKey true
  emit (.scalar false (← block isFolded))

def aliasToken : Lexing Unit := do
  markKey
  allowKey false
  emit (.alias (← anchorName))

/-- An anchor or a tag. -/
def property (t : Lexing Token) : Lexing Unit := do
  let start ← cursor
  markKey
  allowKey false
  emit (← t)
  modify fun l => { l with atMargin := start.column = 0 }

/-- The token that starts here. -/
def tokenHere : Lexing Unit := do
  let l ← get
  let c := l.cursor
  let after := c.ahead 1
  match c.next with
  | '[' => openFlow .flowSequence
  | '{' => openFlow .flowMapping
  | ']' => closeFlow .flowSequenceEnd
  | '}' => closeFlow .flowMappingEnd
  | ',' => comma
  | '*' => aliasToken
  | '&' => property (return .anchor (← anchorName))
  | '!' => property tag
  | '\'' => quotedToken '\''
  | '"' => quotedToken '"'
  | '%' | '@' | '\x60' => failure
  | mark =>
    if mark = '-' && endsWord after then item
    else if mark = '?' && endsWord after then keyMark
    else if mark = ':' && endsWord after then valueMark
    else if mark = ':' && l.inFlow && (isFlowMark after || c.index = l.joint) then
      if c.index ≠ l.joint && (after = '[' || after = '{') then failure
      valueMark
    else if (mark = '|' || mark = '>') && !l.inFlow then blockToken (mark = '>')
    else scalarToken true plain

/-- The next token, with the ends of the collections in front of it; whether there is one. -/
def token : Lexing Bool := do
  space
  dropStaleKey
  -- What stands further to the left ends the collections around the last token.
  let c ← cursor
  endBlocks c.column
  if c.atEnd then
    endAll
    return false
  if c.column = 0 && c.next = '%' then directive
  else if c.looksAtMark "---" then documentMark .documentStart
  else if c.looksAtMark "..." then documentMark .documentEnd
  else if c.column < (← get).indent then failure
  else tokenHere
  return true

end Lexing

/-- The tokens of a text, which ends at its first null character. -/
def Token.read? (cs : List Char) : Option (List Token) := do
  let l : Layout := { cursor := { rest := cs.takeWhile fun c => !isEnd c } }
  let (_, l) ← (Lexing.loopFrom () fun () => return (← Lexing.token, ())).run l
  return l.tokens.toList

end ForwardPass.Yaml

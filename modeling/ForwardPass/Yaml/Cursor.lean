/-!
# Places in a YAML text

The classes of characters that YAML tells apart, and a cursor that knows its line and column. Behind the
end of the text, a cursor sees null characters; none stands in front of it.
-/

namespace ForwardPass.Yaml

/-! ## Characters -/

def isBlank (c : Char) : Bool := c = ' ' || c = '\t'

def isBreak (c : Char) : Bool := c = '\n' || c = '\r'

/-- The end of the text. -/
def isEnd (c : Char) : Bool := c = '\x00'

/-- Characters that no line goes on with. -/
def endsLine (c : Char) : Bool := isBreak c || isEnd c

/-- Characters that no word goes on with. -/
def endsWord (c : Char) : Bool := isBlank c || endsLine c

/-- The marks of flow collections. -/
def isFlowMark (c : Char) : Bool := [',', '[', ']', '{', '}'].contains c

/-- The characters of the names of directives and of the handles of tags. -/
def isNameChar (c : Char) : Bool := c.isAlphanum || c = '_' || c = '-'

/-- The characters of anchors. -/
def isAnchorChar (c : Char) : Bool := !endsWord c && !isFlowMark c && c ≠ '\ufeff'

/-- The characters of addresses; a percent sign starts an escaped one. -/
def isAddressChar (c : Char) : Bool :=
  c.isAlphanum || "-#;/?:@&=+$,_.!~*'()[]%".toList.contains c

/-- The characters of a tag behind its handle. -/
def isTagChar (c : Char) : Bool := isAddressChar c && !isFlowMark c && c ≠ '!'

/-! ## Cursors -/

structure Cursor where
  rest : List Char
  index : Nat := 0
  line : Nat := 0
  column : Nat := 0
  /-- Nothing but blanks stands between the start of the line and this place. -/
  indenting : Bool := true
deriving Repr, Inhabited

namespace Cursor

/-- The character that stands `count` characters ahead. -/
def ahead (c : Cursor) (count : Nat) : Char := c.rest.getD count '\x00'

def next (c : Cursor) : Char := c.ahead 0

def atEnd (c : Cursor) : Bool := isEnd c.next

/-- Behind some blanks. -/
def passBlanks (c : Cursor) (count : Nat) : Cursor :=
  { c with rest := c.rest.drop count, index := c.index + count, column := c.column + count }

/-- Behind some characters of a line. -/
def pass (c : Cursor) (count : Nat) : Cursor :=
  { c.passBlanks count with indenting := c.indenting && count = 0 }

/-- Behind a line end: a line feed, a carriage return, or both. -/
def passBreak (c : Cursor) : Cursor :=
  let count := if c.next = '\r' && c.ahead 1 = '\n' then 2 else 1
  { c.passBlanks count with line := c.line + 1, column := 0, indenting := true }

/-- Whether one of the marks between documents stands here, at the start of a line. -/
def looksAtMark (c : Cursor) (mark : String) : Bool :=
  c.column = 0 && mark.toList.isPrefixOf c.rest && endsWord (c.ahead mark.length)

/-- Whether a document starts or ends here. -/
def atDocumentMark (c : Cursor) : Bool := c.looksAtMark "---" || c.looksAtMark "..."

end Cursor

end ForwardPass.Yaml

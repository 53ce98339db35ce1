import ForwardPass.Text.CaseTable

/-!
# Lower case

Text in lower case, letter by letter, with two letters that need more: a dotted capital I keeps its dot
as a mark of its own, and a capital sigma at the end of a word takes its final form.
-/

namespace ForwardPass

/-- The lower-case letter of a letter that has one of its own. -/
def lowerLetter? (c : Char) : Option Char :=
  (CaseTable.lowerCase.find? fun r =>
      r.first ≤ c.toNat && c.toNat ≤ r.last && (c.toNat - r.first) % r.step = 0).map fun r =>
    Char.ofNat ((c.toNat : Int) + r.distance).toNat

/-- Whether the first character that is not passed over has case. -/
def meetsLetter (cs : List Char) : Bool :=
  match cs.dropWhile (inRanges CaseTable.ignorable) with
  | c :: _ => inRanges CaseTable.cased c
  | [] => false

/-- The lower-case form of a character, between what stands before it, nearest first, and after it. -/
def lowerBetween (before : List Char) (c : Char) (after : List Char) : List Char :=
  if c.toNat < 128 then [c.toLower]
  else if c = 'Σ' then if meetsLetter before && !meetsLetter after then ['ς'] else ['σ']
  else if c = 'İ' then ['i', '\u0307']
  else [(lowerLetter? c).getD c]

/-- The lower-case form of the rest of a text, behind what stands before it. -/
def lowerFrom (before : List Char) : List Char → List Char
  | [] => []
  | c :: rest => lowerBetween before c rest ++ lowerFrom (c :: before) rest

/-- A text in lower case. -/
def lowerCase (s : String) : String := String.ofList (lowerFrom [] s.toList)

end ForwardPass

import ForwardPass.Text.ClusterTable
import ForwardPass.Text.PrintTable

/-!
# Clusters

What a reader takes for one character: a letter with its marks, a syllable of jamo, a flag of two
regional indicators, a picture of several pictographs. `clusters` cuts a text by the rules of extended
grapheme clusters; nothing of the text is lost.
-/

namespace ForwardPass

/-! ## Roles -/

/-- What a character does to its neighbours. -/
inductive ClusterRole where
  | carriageReturn
  | lineFeed
  | control
  | mark
  | joiner
  | spacing
  | leading
  | regional
  | pictograph
  | leadJamo
  | vowelJamo
  | tailJamo
  /-- A syllable that may still be closed. -/
  | openSyllable
  | closedSyllable
  | other
deriving DecidableEq, Repr

namespace ClusterRole

/-- Ready-made syllables, of which each open one is followed by those that close it. -/
def ofSyllable (c : Char) : ClusterRole :=
  if (c.toNat - 0xac00) % 28 = 0 then .openSyllable else .closedSyllable

def of (c : Char) : ClusterRole :=
  if c = '\r' then .carriageReturn
  else if c = '\n' then .lineFeed
  else if c = '\u200d' then .joiner
  else if c.toNat < 0x7f then if ' ' ≤ c then .other else .control
  else if inRanges #[(0x1f3fb, 0x1f3ff)] c || inRanges PrintTable.marks c then .mark
  else if inRanges ClusterTable.extending c then .mark
  else if inRanges #[(0x1f1e6, 0x1f1ff)] c then .regional
  else if inRanges #[(0xac00, 0xd7a3)] c then ofSyllable c
  else if inRanges ClusterTable.controls c then .control
  else if inRanges ClusterTable.spacing c then .spacing
  else if inRanges ClusterTable.leading c then .leading
  else if inRanges ClusterTable.pictographs c then .pictograph
  else if inRanges ClusterTable.leadJamo c then .leadJamo
  else if inRanges ClusterTable.vowelJamo c then .vowelJamo
  else if inRanges ClusterTable.tailJamo c then .tailJamo
  else .other

end ClusterRole

/-! ## Joining -/

/-- The end of a cluster, as far as it decides what joins it. -/
structure ClusterEnd where
  role : ClusterRole := .control
  /-- An odd number of regional indicators stands here. -/
  halfFlag : Bool := false
  /-- A pictograph with its marks stands here, perhaps with a joiner behind them. -/
  picture : Bool := false
  /-- A consonant with its marks stands here. -/
  consonant : Bool := false
  /-- One of these marks links it to the next consonant. -/
  linked : Bool := false
deriving DecidableEq, Repr

namespace ClusterEnd

/-- Whether a character joins the cluster. -/
def joins (e : ClusterEnd) (c : Char) : Bool :=
  match e.role, ClusterRole.of c with
  | .carriageReturn, .lineFeed => true
  | .carriageReturn, _ | .lineFeed, _ | .control, _ => false
  | _, .carriageReturn | _, .lineFeed | _, .control => false
  | _, .mark | _, .joiner | _, .spacing | .leading, _ => true
  | .leadJamo, .leadJamo | .leadJamo, .vowelJamo => true
  | .leadJamo, .openSyllable | .leadJamo, .closedSyllable => true
  | .vowelJamo, .vowelJamo | .vowelJamo, .tailJamo => true
  | .openSyllable, .vowelJamo | .openSyllable, .tailJamo => true
  | .closedSyllable, .tailJamo | .tailJamo, .tailJamo => true
  | .regional, .regional => e.halfFlag
  | .joiner, .pictograph => e.picture
  | _, _ => e.linked && inRanges ClusterTable.consonants c

/-- The end of a text behind one more character. -/
def push (e : ClusterEnd) (c : Char) : ClusterEnd :=
  let role := ClusterRole.of c
  -- A joiner keeps both a picture and a consonant open.
  let isMark := role = .mark || role = .joiner
  let isConsonant := inRanges ClusterTable.consonants c
  let consonant := isConsonant || (e.consonant && isMark && c ≠ '\u200c')
  { role
    halfFlag := role = .regional && !e.halfFlag
    picture := role = .pictograph || (e.picture && isMark && e.role ≠ .joiner)
    consonant
    linked := consonant && !isConsonant && (e.linked || inRanges ClusterTable.linkers c) }

end ClusterEnd

/-- The clusters of a text that stands behind `e`; the first one holds what joins `e`. -/
def clustersBehind (e : ClusterEnd) : List Char → List Char × List (List Char)
  | [] => ([], [])
  | c :: rest =>
    let (joined, others) := clustersBehind (e.push c) rest
    if e.joins c then (c :: joined, others) else ([], (c :: joined) :: others)

/-- The clusters of a text. -/
def clusters (cs : List Char) : List (List Char) := (clustersBehind {} cs).2

theorem clustersBehind_flatten (e : ClusterEnd) (cs : List Char) :
    (clustersBehind e cs).1 ++ (clustersBehind e cs).2.flatten = cs := by
  induction cs generalizing e with
  | nil => rfl
  | cons c rest ih =>
    have := ih (e.push c)
    unfold clustersBehind
    by_cases h : e.joins c <;> simp [h, this]

/-- No character joins the start of a text, so its clusters hold all of it. -/
theorem clusters_flatten (cs : List Char) : (clusters cs).flatten = cs := by
  have start : (clustersBehind {} cs).1 = [] := by
    cases cs with
    | nil => rfl
    | cons c rest =>
      have h : ({} : ClusterEnd).joins c = false := by
        unfold ClusterEnd.joins
        cases ClusterRole.of c <;> rfl
      simp [clustersBehind, h]
  simpa [clusters, start] using clustersBehind_flatten {} cs

end ForwardPass

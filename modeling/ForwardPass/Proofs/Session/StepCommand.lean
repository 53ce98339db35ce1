import ForwardPass.Proofs.Text.Number
import ForwardPass.Session.StepCommand

/-!
# What a line of the step shell says

The grammar of step commands, said without the reader: `AsksFor` for a number of layers and `Says` for a command.
The reader takes exactly what the grammar has, and what a line says does not hang on the white space around it.
-/

namespace ForwardPass

namespace StepCommand

/-! ## Commands -/

/-- The text asks for `n` layers: `si`, white space or none, and the number. -/
def AsksFor (t : List Char) (n : Nat) : Prop :=
  ∃ blanks number, t = 's' :: 'i' :: (blanks ++ number) ∧ (∀ c ∈ blanks, isWhiteSpace c = true) ∧
    Writes number n

/-- What a text without white space at its ends says. -/
inductive Says : List Char → StepCommand → Prop
  | once : Says [] (.step 1)
  | times {t : List Char} {n : Nat} : AsksFor t n → 1 ≤ n → n < countBound → Says t (.step n)
  | proceed : Says ['c'] .proceed
  | quit : Says ['q'] .quit

/-- Where no white space is left at the end, the number takes up all that is left behind `si`. -/
theorem asksFor_iff {rest : List Char} {n : Nat}
    (hlast : ∀ c, ('s' :: 'i' :: rest).getLast? = some c → isWhiteSpace c = false) :
    AsksFor ('s' :: 'i' :: rest) n ↔ Writes (trim rest) n := by
  constructor
  · rintro ⟨blanks, number, heq, hblanks, hnumber⟩
    cases heq
    have hstrips : Strips (blanks ++ number) number :=
      ⟨⟨blanks, [], by simp, hblanks, nofun⟩,
        fun c hc => hnumber.isWhiteSpace_eq_false c (List.mem_of_head? hc),
        fun c hc => hnumber.isWhiteSpace_eq_false c (List.mem_of_getLast? hc)⟩
    rwa [← hstrips.eq_trim]
  · intro hnumber
    obtain ⟨front, back, hrest, hfront, hback⟩ := (strips_trim rest).around
    -- White space behind the number would be at the end of the text.
    have hnone : back = [] := by
      by_contra hsome
      obtain ⟨c, hc⟩ := Option.isSome_iff_exists.1 (List.getLast?_isSome.2 hsome)
      have hsplit : 's' :: 'i' :: rest = 's' :: 'i' :: (front ++ trim rest) ++ back :=
        congrArg ('s' :: 'i' :: ·) hrest
      have hend : ('s' :: 'i' :: rest).getLast? = some c := by
        rw [hsplit, List.getLast?_append, hc]
        rfl
      exact Bool.false_ne_true (hlast c hend ▸ hback c (List.mem_of_getLast? hc))
    subst hnone
    rw [List.append_nil] at hrest
    exact ⟨front, trim rest, congrArg ('s' :: 'i' :: ·) hrest, hfront, hnumber⟩

/-- A count is read as the number it writes, if that is in range. -/
theorem ofCount_eq_ok {cs : List Char} {c : StepCommand} :
    ofCount cs = .ok c ↔ ∃ n, c = .step n ∧ Writes (trim cs) n ∧ 1 ≤ n ∧ n < countBound := by
  have hread (n : Nat) : unsigned countBound (trim cs) = .ok n ↔ Writes (trim cs) n ∧ n < countBound :=
    unsigned_eq_ok (by decide)
  unfold ofCount
  by_cases hempty : (trim cs).isEmpty = true
  · rw [if_pos hempty]
    refine iff_of_false nofun ?_
    rintro ⟨n, -, hwrites, -⟩
    exact hwrites.ne_nil (List.isEmpty_iff.1 hempty)
  · rw [if_neg hempty]
    split
    · next hzero =>
      refine iff_of_false nofun ?_
      rintro ⟨n, -, hwrites, hpos, hlt⟩
      cases hzero.symm.trans ((hread n).2 ⟨hwrites, hlt⟩)
      exact Nat.not_succ_le_zero 0 hpos
    · next count hnonzero hcount =>
      constructor
      · rintro ⟨⟩
        exact ⟨count, rfl, ((hread count).1 hcount).1, Nat.pos_of_ne_zero hnonzero,
          ((hread count).1 hcount).2⟩
      · rintro ⟨n, rfl, hwrites, -, hlt⟩
        cases hcount.symm.trans ((hread n).2 ⟨hwrites, hlt⟩)
        rfl
    · next defect hdefect =>
      refine iff_of_false nofun ?_
      rintro ⟨n, -, hwrites, -, hlt⟩
      cases hdefect.symm.trans ((hread n).2 ⟨hwrites, hlt⟩)

/-- The reader takes the commands there are, and reads out of a line what it says. -/
theorem parse_eq_ok_iff {line t : List Char} {c : StepCommand} (h : Strips line t) :
    parse line = .ok c ↔ Says t c := by
  unfold parse
  rw [← h.eq_trim]
  split
  · constructor
    · rintro ⟨⟩
      exact .once
    · rintro (_ | ⟨⟨_, _, ⟨⟩, _⟩, _⟩)
      rfl
  · next rest =>
    rw [ofCount_eq_ok]
    constructor
    · rintro ⟨n, rfl, hwrites, hpos, hlt⟩
      exact .times ((asksFor_iff h.last).2 hwrites) hpos hlt
    · rintro (_ | ⟨hasks, hpos, hlt⟩)
      exact ⟨_, rfl, (asksFor_iff h.last).1 hasks, hpos, hlt⟩
  · constructor
    · rintro ⟨⟩
      exact .quit
    · rintro (_ | ⟨⟨_, _, ⟨⟩, _⟩, _⟩)
      rfl
  · constructor
    · rintro ⟨⟩
      exact .proceed
    · rintro (_ | ⟨⟨_, _, ⟨⟩, _⟩, _⟩)
      rfl
  · next hempty hcount hquit hproceed =>
    refine iff_of_false nofun ?_
    rintro (_ | ⟨⟨blanks, number, rfl, -⟩, -⟩)
    · exact hempty rfl
    · exact hcount _ rfl
    · exact hproceed rfl
    · exact hquit rfl

theorem parse_trim (line : List Char) : parse (trim line) = parse line := by
  simp only [parse, trim_trim]

theorem AsksFor.ne_nil {t : List Char} {n : Nat} (h : AsksFor t n) : t ≠ [] := by
  obtain ⟨blanks, number, rfl, -⟩ := h
  exact List.cons_ne_nil _ _

/-- A number of layers is said by nothing at all, which is one, or by asking for it. -/
theorem says_step_iff {t : List Char} {n : Nat} :
    Says t (.step n) ↔ (t = [] ∧ n = 1) ∨ (t ≠ [] ∧ AsksFor t n ∧ 1 ≤ n ∧ n < countBound) := by
  constructor
  · rintro (_ | ⟨hasks, hpos, hlt⟩)
    · exact .inl ⟨rfl, rfl⟩
    · exact .inr ⟨hasks.ne_nil, hasks, hpos, hlt⟩
  · rintro (⟨rfl, rfl⟩ | ⟨-, hasks, hpos, hlt⟩)
    · exact .once
    · exact .times hasks hpos hlt

/-- A line is refused when it says nothing that is a command. -/
theorem parse_eq_error_iff {line t : List Char} (h : Strips line t) :
    (∃ defect, parse line = .error defect) ↔ ∀ c, ¬ Says t c := by
  simp only [← parse_eq_ok_iff h]
  constructor
  · rintro ⟨defect, hdefect⟩ c hc
    cases hdefect.symm.trans hc
  · intro hnone
    cases hparse : parse line with
    | error defect => exact ⟨defect, rfl⟩
    | ok c => exact absurd hparse (hnone c)

/-- Whatever the line, it has one text `t` without the white space at its ends. Nothing is one step, `q` quits, `c`
goes on to the end, `si` and a number from one to the largest of 32 bits is that many steps, and any other text is
refused. No line asks for zero steps, and to strip a line first changes nothing. -/
theorem parse_exact (line : List Char) :
    ∃ t, Strips line t ∧ (∀ t', Strips line t' → t' = t) ∧
      (∀ n, parse line = .ok (.step n) ↔
        (t = [] ∧ n = 1) ∨ (t ≠ [] ∧ AsksFor t n ∧ 1 ≤ n ∧ n ≤ 2 ^ 32 - 1)) ∧
      (parse line = .ok .quit ↔ t = ['q']) ∧
      (parse line = .ok .proceed ↔ t = ['c']) ∧
      ((∃ defect, parse line = .error defect) ↔
        t ≠ [] ∧ t ≠ ['q'] ∧ t ≠ ['c'] ∧ ∀ n, AsksFor t n → ¬ (1 ≤ n ∧ n ≤ 2 ^ 32 - 1)) ∧
      parse line ≠ .ok (.step 0) ∧ parse t = parse line := by
  obtain ⟨t, hstrips⟩ : ∃ t, Strips line t := ⟨trim line, strips_trim line⟩
  have hrange (n : Nat) : n < countBound ↔ n ≤ 2 ^ 32 - 1 := Nat.lt_iff_le_pred (by decide)
  have hstep (n : Nat) := (parse_eq_ok_iff hstrips).trans (says_step_iff (n := n))
  simp only [hrange] at hstep
  refine ⟨t, hstrips, fun t' h => h.eq_trim.trans hstrips.eq_trim.symm, hstep, ?quit, ?proceed, ?error, ?zero,
    hstrips.eq_trim ▸ parse_trim line⟩
  case quit =>
    rw [parse_eq_ok_iff hstrips]
    exact ⟨fun | .quit => rfl, fun h => h ▸ .quit⟩
  case proceed =>
    rw [parse_eq_ok_iff hstrips]
    exact ⟨fun | .proceed => rfl, fun h => h ▸ .proceed⟩
  case error =>
    rw [parse_eq_error_iff hstrips]
    constructor
    · intro hnone
      exact ⟨fun h => hnone (.step 1) (h ▸ .once), fun h => hnone .quit (h ▸ .quit),
        fun h => hnone .proceed (h ▸ .proceed),
        fun n hasks hn => hnone (.step n) (.times hasks hn.1 ((hrange n).2 hn.2))⟩
    · rintro ⟨hempty, hquit, hproceed, hasks⟩ c (_ | ⟨h, hpos, hlt⟩)
      · exact hempty rfl
      · exact hasks _ h ⟨hpos, (hrange _).1 hlt⟩
      · exact hproceed rfl
      · exact hquit rfl
  case zero =>
    rw [ne_eq, hstep]
    omega

-- The number is behind a sign, zeros and white space, and the last that is taken.
example : parse "\tsi +004294967295 ".toList = .ok (.step 4294967295) := by decide +kernel

end StepCommand

end ForwardPass

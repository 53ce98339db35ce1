import Mathlib.Data.Nat.Digits.Defs
import ForwardPass.Proofs.Text.Blank
import ForwardPass.Text.Number

/-!
# Unsigned numbers

`Writes` says without a reader which number a text writes, each digit by its place from the right. The reader takes
the numbers that are written and are below its bound, and no others.
-/

namespace ForwardPass

/-- The value of decimal digits, each one by its place from the right. -/
def decimalValue (digits : List Char) : Nat := Nat.ofDigits 10 (digits.reverse.map digitValue)

/-- Digits are worth the same read from the left, one after the other. -/
theorem decimalValue_eq_foldl (digits : List Char) :
    decimalValue digits = digits.foldl (fun n c => 10 * n + digitValue c) 0 := by
  simp only [decimalValue, Nat.ofDigits_eq_foldr, List.map_reverse, List.foldr_reverse, List.foldl_map,
    Nat.cast_id, Nat.add_comm]

/-- The text writes the number `n` in decimal digits, behind a plus sign or none. -/
def Writes (cs : List Char) (n : Nat) : Prop :=
  ∃ sign digits, cs = sign ++ digits ∧ (sign = [] ∨ sign = ['+']) ∧ digits ≠ [] ∧
    (∀ c ∈ digits, c.isDigit = true) ∧ decimalValue digits = n

/-- More digits never make a number smaller. -/
theorem le_foldl_digits (cs : List Char) (n : Nat) :
    n ≤ cs.foldl (fun n c => 10 * n + digitValue c) n := by
  induction cs generalizing n with
  | nil => exact Nat.le_refl n
  | cons c cs ih => exact Nat.le_trans (by omega) (ih (10 * n + digitValue c))

/-- A number is continued by digits alone, and as long as it stays below the bound. -/
theorem continueUnsigned_eq_ok {bound n m : Nat} {cs : List Char} (hn : n < bound) :
    continueUnsigned bound n cs = .ok m ↔ (∀ c ∈ cs, c.isDigit = true) ∧
      cs.foldl (fun n c => 10 * n + digitValue c) n = m ∧ m < bound := by
  induction cs generalizing n with
  | nil =>
    constructor
    · rintro ⟨⟩
      exact ⟨nofun, rfl, hn⟩
    · rintro ⟨-, rfl, -⟩
      rfl
  | cons c cs ih =>
    rw [continueUnsigned, List.forall_mem_cons, List.foldl_cons]
    by_cases hdigit : c.isDigit = true
    · rw [hdigit]
      by_cases hlt : 10 * n + digitValue c < bound
      · rw [if_neg (by decide), if_pos hlt, ih hlt]
        exact ⟨fun h => ⟨⟨rfl, h.1⟩, h.2⟩, fun h => ⟨h.1.2, h.2⟩⟩
      · rw [if_neg (by decide), if_neg hlt]
        refine iff_of_false nofun fun h => hlt ?_
        have hle := le_foldl_digits cs (10 * n + digitValue c)
        omega
    · rw [if_pos (by simpa using hdigit)]
      exact iff_of_false nofun fun h => hdigit h.1.1

theorem Writes.ne_nil {cs : List Char} {n : Nat} (h : Writes cs n) : cs ≠ [] := by
  obtain ⟨sign, digits, rfl, -, hne, -, -⟩ := h
  exact List.append_ne_nil_of_right_ne_nil sign hne

/-- Behind a plus sign there are digits. -/
theorem writes_plus {digits : List Char} {n : Nat} : Writes ('+' :: digits) n ↔
    digits ≠ [] ∧ (∀ c ∈ digits, c.isDigit = true) ∧ decimalValue digits = n := by
  constructor
  · rintro ⟨sign, digits', heq, rfl | rfl, hne, hdigits, hn⟩
    · cases heq
      exact absurd (hdigits '+' List.mem_cons_self) (by decide)
    · cases heq
      exact ⟨hne, hdigits, hn⟩
  · rintro ⟨hne, hdigits, hn⟩
    exact ⟨['+'], digits, rfl, .inr rfl, hne, hdigits, hn⟩

/-- Without a plus sign there are digits only. -/
theorem writes_of_ne {cs : List Char} {n : Nat} (h : ∀ digits, cs ≠ '+' :: digits) : Writes cs n ↔
    cs ≠ [] ∧ (∀ c ∈ cs, c.isDigit = true) ∧ decimalValue cs = n := by
  constructor
  · rintro ⟨sign, digits, heq, rfl | rfl, hne, hdigits, hn⟩
    · cases heq
      exact ⟨hne, hdigits, hn⟩
    · exact absurd heq (h digits)
  · rintro ⟨hne, hdigits, hn⟩
    exact ⟨[], cs, rfl, .inl rfl, hne, hdigits, hn⟩

/-- The reader of numbers takes those that are written, below the bound. -/
theorem unsigned_eq_ok {bound n : Nat} {cs : List Char} (hbound : 0 < bound) :
    unsigned bound cs = .ok n ↔ Writes cs n ∧ n < bound := by
  unfold unsigned
  split
  · exact iff_of_false nofun fun h => h.1.ne_nil rfl
  · exact iff_of_false nofun fun h => (writes_plus.1 h.1).1 rfl
  · next digits hne =>
    rw [continueUnsigned_eq_ok hbound, writes_plus, decimalValue_eq_foldl]
    exact ⟨fun h => ⟨⟨hne, h.1, h.2.1⟩, h.2.2⟩, fun h => ⟨h.1.2.1, h.1.2.2, h.2⟩⟩
  · next hempty _ hplus =>
    rw [continueUnsigned_eq_ok hbound, writes_of_ne hplus, decimalValue_eq_foldl]
    exact ⟨fun h => ⟨⟨hempty, h.1, h.2.1⟩, h.2.2⟩, fun h => ⟨h.1.2.1, h.1.2.2, h.2⟩⟩

/-- There is no white space in a number. -/
theorem Writes.isWhiteSpace_eq_false {cs : List Char} {n : Nat} (h : Writes cs n) :
    ∀ c ∈ cs, isWhiteSpace c = false := by
  obtain ⟨sign, digits, rfl, hsign, -, hdigits, -⟩ := h
  intro c hc
  rcases List.mem_append.1 hc with hc | hc
  · rcases hsign with rfl | rfl
    · cases hc
    · obtain rfl := List.mem_singleton.1 hc
      rfl
  · exact isWhiteSpace_of_isDigit (hdigits c hc)

end ForwardPass

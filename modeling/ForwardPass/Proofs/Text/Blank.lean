import Mathlib.Data.List.TakeWhile
import ForwardPass.Text.Blank

/-!
# White space at the ends

`Strips` says without a trimmer which text is left of another when the white space at its ends is taken away.
There is one, and it is the trimmed text.
-/

namespace ForwardPass

theorem isWhiteSpace_of_isDigit {c : Char} (h : c.isDigit = true) : isWhiteSpace c = false := by
  simp only [Char.isDigit, Bool.and_eq_true, decide_eq_true_eq, UInt32.le_iff_toNat_le] at h
  have hlow : 48 ≤ c.toNat := h.1
  have hhigh : c.toNat ≤ 57 := h.2
  simp only [isWhiteSpace, Bool.or_eq_false_iff, Bool.and_eq_false_iff, decide_eq_false_iff_not]
  omega

/-- The text `t` is `cs` without the white space at its ends. -/
structure Strips (cs t : List Char) : Prop where
  around : ∃ front back, cs = front ++ t ++ back ∧ (∀ c ∈ front, isWhiteSpace c = true) ∧
    ∀ c ∈ back, isWhiteSpace c = true
  first : ∀ c, t.head? = some c → isWhiteSpace c = false
  last : ∀ c, t.getLast? = some c → isWhiteSpace c = false

/-- Elements that pass a test are dropped up to the first that does not. -/
theorem dropWhile_front {β : Type} {test : β → Bool} {front rest : List β}
    (hfront : ∀ b ∈ front, test b = true) (hrest : ∀ b, rest.head? = some b → test b = false) :
    (front ++ rest).dropWhile test = rest := by
  rw [List.dropWhile_append_of_pos hfront, List.dropWhile_eq_self_iff]
  intro hpos
  rw [hrest _ (List.head?_eq_getElem? ▸ List.getElem?_eq_getElem hpos)]
  exact Bool.false_ne_true

/-- A text is taken apart where the first of its elements fails a test. -/
theorem exists_dropWhile {β : Type} (test : β → Bool) (bs : List β) :
    ∃ front, bs = front ++ bs.dropWhile test ∧ (∀ b ∈ front, test b = true) ∧
      ∀ b, (bs.dropWhile test).head? = some b → test b = false := by
  refine ⟨bs.takeWhile test, List.takeWhile_append_dropWhile.symm, fun b => List.mem_takeWhile_imp,
    fun b hb => ?_⟩
  have hnot := List.head?_dropWhile_not test bs
  rwa [hb] at hnot

theorem strips_trim (cs : List Char) : Strips cs (trim cs) := by
  obtain ⟨front, hfront, hwhite, hfirst⟩ := exists_dropWhile isWhiteSpace cs
  obtain ⟨back, hback, hwhite', hlast⟩ := exists_dropWhile isWhiteSpace (trimStart cs).reverse
  have hsplit : trimStart cs = trim cs ++ back.reverse := by
    rw [← List.reverse_reverse (trimStart cs), hback, List.reverse_append]
    rfl
  refine ⟨⟨front, back.reverse, ?_, hwhite, fun c hc => hwhite' c (List.mem_reverse.1 hc)⟩, ?_, ?_⟩
  · rw [List.append_assoc, ← hsplit]
    exact hfront
  · intro c hc
    refine hfirst c ?_
    change (trimStart cs).head? = some c
    rw [hsplit, List.head?_append, hc]
    rfl
  · intro c hc
    refine hlast c ?_
    rwa [trim, trimEnd, List.getLast?_reverse] at hc

theorem Strips.eq_trim {cs t : List Char} (h : Strips cs t) : t = trim cs := by
  obtain ⟨front, back, rfl, hfront, hback⟩ := h.around
  have hback' : ∀ c ∈ back.reverse, isWhiteSpace c = true := fun c hc => hback c (List.mem_reverse.1 hc)
  -- Behind the white space in front comes the text, or, if there is none, more white space.
  cases t with
  | nil =>
    have hwhite : ∀ c ∈ front ++ [] ++ back, isWhiteSpace c = true := by
      simpa [or_imp, forall_and] using ⟨hfront, hback⟩
    have hstart : trimStart (front ++ [] ++ back) = [] := by
      have hdrop := @dropWhile_front _ isWhiteSpace _ [] hwhite nofun
      rwa [List.append_nil] at hdrop
    rw [trim, hstart]
    rfl
  | cons c t =>
    have hstart : trimStart (front ++ (c :: t) ++ back) = (c :: t) ++ back := by
      rw [List.append_assoc]
      exact dropWhile_front hfront h.first
    have hend : ((c :: t) ++ back).reverse.dropWhile isWhiteSpace = (c :: t).reverse := by
      rw [List.reverse_append]
      exact dropWhile_front hback' fun d hd => h.last d (by rwa [List.head?_reverse] at hd)
    rw [trim, hstart, trimEnd, hend, List.reverse_reverse]

/-- Nothing is left of a text that is white space from end to end, and of no other. -/
theorem trim_eq_nil_iff {cs : List Char} : trim cs = [] ↔ ∀ c ∈ cs, isWhiteSpace c = true := by
  constructor
  · intro h
    obtain ⟨front, back, hcs, hfront, hback⟩ := (strips_trim cs).around
    rw [h, List.append_nil] at hcs
    intro c hc
    rw [hcs] at hc
    rcases List.mem_append.1 hc with hc | hc
    · exact hfront c hc
    · exact hback c hc
  · intro h
    have hstrips : Strips cs [] := ⟨⟨cs, [], by simp, h, nofun⟩, nofun, nofun⟩
    exact hstrips.eq_trim.symm

theorem trim_trim (cs : List Char) : trim (trim cs) = trim cs := by
  have hstrips := strips_trim cs
  exact (Strips.eq_trim ⟨⟨[], [], by simp, nofun, nofun⟩, hstrips.first, hstrips.last⟩).symm

end ForwardPass

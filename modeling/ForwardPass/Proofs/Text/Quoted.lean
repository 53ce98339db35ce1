import ForwardPass.Settings.Format.Json
import ForwardPass.Text.Quoted

/-!
# Quoted text reads back

A data literal is one line without line ends of its own, and the reader of strings takes back from it the
text it was made of, whatever characters that holds and whatever stands behind it.
-/

namespace ForwardPass

/-! ## Scanners -/

namespace Scan

variable {β γ : Type}

/-- The scanner recognises `front` as `x`, whatever stands behind it. -/
def Recognises (p : Scan β) (front : List Char) (x : β) : Prop :=
  ∀ rest, p (front ++ rest) = some (x, rest)

theorem bind_eq {p : Scan β} {k : β → Scan γ} {cs left : List Char} {x : β} (h : p cs = some (x, left)) :
    (p >>= k) cs = k x left := by
  change (p cs).bind (fun (x, cs) => k x cs) = k x left
  rw [h]
  rfl

theorem Recognises.bind {p : Scan β} {k : β → Scan γ} {front next : List Char} {x : β} {y : γ}
    (hp : p.Recognises front x) (hk : (k x).Recognises next y) : (p >>= k).Recognises (front ++ next) y := by
  intro rest
  rw [List.append_assoc, bind_eq (hp (next ++ rest))]
  exact hk rest

theorem recognises_pure (x : β) : (pure x : Scan β).Recognises [] x := fun _ => rfl

theorem isPrefixOf?_append (front rest : List Char) : front.isPrefixOf? (front ++ rest) = some rest := by
  induction front with
  | nil => rfl
  | cons c front ih =>
    change (if (c == c) = true then front.isPrefixOf? (front ++ rest) else none) = some rest
    rw [if_pos (beq_self_eq_true c), ih]

theorem recognises_text (s : String) : (text s).Recognises s.toList () := by
  intro rest
  unfold text
  rw [isPrefixOf?_append]
  rfl

/-- Repetitions stop where the scanner fails. -/
theorem atMost_eq {p : Scan β} {write : β → List Char} {xs : List β}
    (h : ∀ x ∈ xs, p.Recognises (write x) x) {rest : List Char} (hstop : p rest = none) {count : Nat}
    (hcount : xs.length ≤ count) : atMost p count (xs.flatMap write ++ rest) = some (xs, rest) := by
  induction xs generalizing count with
  | nil =>
    cases count with
    | zero => rfl
    | succ count =>
      change ((p rest).bind _ <|> some ([], rest)) = some ([], rest)
      rw [hstop]
      rfl
  | cons x xs ih =>
    cases count with
    | zero => cases hcount
    | succ count =>
      have hx := h x (List.mem_cons_self ..) (xs.flatMap write ++ rest)
      have hxs := ih (fun y hy => h y (List.mem_cons_of_mem x hy)) (Nat.le_of_succ_le_succ hcount)
      rw [List.flatMap_cons, List.append_assoc]
      change ((p >>= fun x => atMost p count >>= fun xs => pure (x :: xs))
        (write x ++ (xs.flatMap write ++ rest)) <|> some ([], _)) = some (x :: xs, rest)
      rw [bind_eq hx, bind_eq hxs]
      rfl

end Scan

/-! ## Hexadecimal numbers -/

open Scan

theorem recognises_hexNumber {count : Nat} {digits : List Char} (hlength : digits.length = count)
    (hdigits : digits.all isHexDigit = true) :
    (hexNumber count).Recognises digits (numberOfDigits 16 digits) := by
  intro rest
  have htake : (digits ++ rest).take count = digits := by
    rw [← hlength, List.take_left]
  have hdrop : (digits ++ rest).drop count = rest := by
    rw [← hlength, List.drop_left]
  have hcheck : ¬ (decide (digits.length < count) || !digits.all isHexDigit) = true := by
    rw [hdigits, hlength]
    simp
  have hget : (get : Scan (List Char)) (digits ++ rest) = some (digits ++ rest, digits ++ rest) := rfl
  unfold hexNumber
  rw [bind_eq hget]
  dsimp only
  rw [htake, if_neg hcheck]
  change some (numberOfDigits 16 digits, (digits ++ rest).drop count) = some (numberOfDigits 16 digits, rest)
  rw [hdrop]

/-- A code point is that of its character. -/
theorem charOfCode?_toNat (c : Char) : charOfCode? c.toNat = some c :=
  dif_pos (show c.toNat.isValidChar from c.valid)

namespace Quoted

/-! ## Literals -/

/-- The digits of a control character. -/
def controlDigits (n : Nat) : List Char :=
  List.replicate (4 - (Nat.toDigits 16 n).length) '0' ++ Nat.toDigits 16 n

theorem controlDigits_spec : ∀ n < 32, (controlDigits n).length = 4 ∧
    (controlDigits n).all isHexDigit = true ∧ numberOfDigits 16 (controlDigits n) = n := by
  decide +kernel

/-- What a string is read from, character by character. -/
def item : Scan Char :=
  (charIf fun c => ' ' ≤ c && c ≠ '"' && c ≠ '\\') <|> Settings.Json.escape

theorem recognises_control {c : Char} (h : c < ' ') :
    item.Recognises ('\\' :: 'u' :: controlDigits c.toNat) c := by
  intro rest
  have hlt : c.toNat < 32 := h
  obtain ⟨hlength, hdigits, hnumber⟩ := controlDigits_spec c.toNat hlt
  have hunit := recognises_hexNumber hlength hdigits rest
  have hlow : isHighSurrogate c.toNat = false := by
    unfold isHighSurrogate
    rw [Bool.and_eq_false_iff]
    exact .inl (decide_eq_false (by omega))
  rw [hnumber] at hunit
  change surrogatePoint (controlDigits c.toNat ++ rest) = some (c, rest)
  unfold surrogatePoint
  rw [bind_eq hunit]
  dsimp only
  rw [if_neg (by rw [hlow]; decide), charOfCode?_toNat]
  rfl

/-- The reader takes back every character. -/
theorem recognises_dataChar (c : Char) : item.Recognises (dataChar c) c := by
  intro rest
  unfold dataChar
  split
  · rfl
  · rfl
  · rfl
  · rfl
  · rfl
  · rfl
  · rfl
  · split
    · next hcontrol => exact recognises_control hcontrol rest
    · next hplain =>
      have htest : (' ' ≤ c && c ≠ '"' && c ≠ '\\') = true := by
        simp_all
      change ((if (' ' ≤ c && c ≠ '"' && c ≠ '\\') = true then some (c, rest) else none) <|>
        Settings.Json.escape (c :: rest)) = some (c, rest)
      rw [if_pos htest]
      rfl

/-- A character takes up room, or an empty text would be read as one. -/
theorem length_dataChar_pos (c : Char) : 0 < (dataChar c).length := by
  refine List.length_pos_iff.2 fun hempty => ?_
  have hread := recognises_dataChar c []
  rw [hempty] at hread
  cases hread

theorem length_le_length_flatMap (cs : List Char) : cs.length ≤ (cs.flatMap dataChar).length := by
  induction cs with
  | nil => exact Nat.le_refl 0
  | cons c cs ih =>
    have hpos := length_dataChar_pos c
    rw [List.flatMap_cons, List.length_append, List.length_cons]
    omega

theorem toList_data (s : String) : (data s).toList = '"' :: s.toList.flatMap dataChar ++ ['"'] :=
  String.toList_ofList

/-- The reader of strings takes back the text of a literal. -/
theorem recognises_data (s : String) : Settings.Json.string.Recognises (data s).toList s := by
  intro rest
  have hcount : s.toList.length ≤ (s.toList.flatMap dataChar ++ '"' :: rest).length := by
    have hle := length_le_length_flatMap s.toList
    rw [List.length_append]
    omega
  have hitems : atMost item (s.toList.flatMap dataChar ++ '"' :: rest).length
      (s.toList.flatMap dataChar ++ '"' :: rest) = some (s.toList, '"' :: rest) :=
    atMost_eq (fun c _ => recognises_dataChar c) rfl hcount
  rw [toList_data, List.cons_append, List.cons_append, List.append_assoc, List.singleton_append]
  change ((atMost item (s.toList.flatMap dataChar ++ '"' :: rest).length
    (s.toList.flatMap dataChar ++ '"' :: rest)).bind fun (cs, left) =>
      ((char '"' left).bind fun (_, left) => some (String.ofList cs, left))) = some (s, rest)
  rw [hitems]
  change some (String.ofList s.toList, rest) = some (s, rest)
  rw [String.ofList_toList]

/-! ## Line ends -/

theorem newline_not_mem_dataChar (c : Char) : '\n' ∉ dataChar c := by
  unfold dataChar
  split
  · decide
  · decide
  · decide
  · decide
  · decide
  · decide
  · decide
  · next hnewline _ _ _ _ =>
    split
    · next hcontrol =>
      have hlt : c.toNat < 32 := hcontrol
      obtain ⟨-, hdigits, -⟩ := controlDigits_spec c.toNat hlt
      intro hmem
      change '\n' ∈ '\\' :: 'u' :: controlDigits c.toNat at hmem
      simp only [List.mem_cons] at hmem
      obtain hmem | hmem | hmem := hmem
      · exact absurd hmem (by decide)
      · exact absurd hmem (by decide)
      · have hdigit := List.all_eq_true.1 hdigits _ hmem
        revert hdigit
        decide
    · intro hmem
      exact hnewline (List.mem_singleton.1 hmem).symm

/-- A literal stays on its line, whatever line ends the text has. -/
theorem newline_not_mem_data (s : String) : '\n' ∉ (data s).toList := by
  rw [toList_data]
  simp [newline_not_mem_dataChar]

end Quoted

end ForwardPass

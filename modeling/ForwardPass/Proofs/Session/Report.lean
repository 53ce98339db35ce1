import ForwardPass.Proofs.Tensor
import ForwardPass.Session.Report

/-!
# What a report shows

An image is shown as one line for each of its rows, with a value for each column. A batch has an image to
show when it is long enough, or when its images are empty, so that even a batch of none has them all.
-/

namespace ForwardPass

/-! ## Rows -/

/-- A list of `count` pieces is cut into these. -/
theorem pieces_exact {β : Type} {size : Nat} (hsize : 0 < size) {count : Nat} {xs : List β}
    (hlength : xs.length = count * size) :
    (pieces size xs).length = count ∧ (∀ piece ∈ pieces size xs, piece.length = size) ∧
      (pieces size xs).flatten = xs := by
  induction count generalizing xs with
  | zero =>
    obtain rfl : xs = [] := List.eq_nil_of_length_eq_zero (by omega)
    rw [pieces, dif_pos (.inl rfl)]
    exact ⟨rfl, nofun, rfl⟩
  | succ count ih =>
    rw [Nat.succ_mul] at hlength
    have hne : ¬ (xs = [] ∨ size = 0) := by
      rintro (rfl | hzero)
      · rw [List.length_nil] at hlength
        omega
      · omega
    obtain ⟨hcount, hpieces, hflatten⟩ := @ih (xs.drop size) (by rw [List.length_drop]; omega)
    rw [pieces, dif_neg hne]
    refine ⟨congrArg (· + 1) hcount, ?_, ?_⟩
    · intro piece hpiece
      rcases List.mem_cons.1 hpiece with rfl | hpiece
      · rw [List.length_take]
        omega
      · exact hpieces piece hpiece
    · rw [List.flatten_cons, hflatten, List.take_append_drop]

namespace Report

/-! ## Lines -/

/-- The text is one line, with its end. -/
def IsLine (text : String) : Prop := ∃ cs, '\n' ∉ cs ∧ text.toList = cs ++ ['\n']

theorem newline_not_mem_digits (places n : Nat) : '\n' ∉ padZeros places (decimalDigits n) := by
  intro hmem
  rcases List.mem_append.1 hmem with hmem | hmem
  · exact absurd (List.eq_of_mem_replicate hmem) (by decide)
  · exact absurd (Nat.isDigit_of_mem_toDigits (by decide) (by decide) hmem) (by decide)

theorem newline_not_mem_signed {cs : List Char} (h : '\n' ∉ cs) (negative : Bool) :
    '\n' ∉ (String.ofList (if negative then '-' :: cs else cs)).toList := by
  cases negative <;> simp [h]

theorem newline_not_mem_fixed (places : Nat) (x : FloatValue) : '\n' ∉ (x.fixed places).toList := by
  cases x with
  | nan =>
    change '\n' ∉ "NaN".toList
    decide
  | infinite negative => exact newline_not_mem_signed (by decide) negative
  | finite negative magnitude =>
    refine newline_not_mem_signed ?_ negative
    have hdigits := newline_not_mem_digits (places + 1) (magnitude.roundTo places)
    split
    · exact hdigits
    · intro hmem
      rcases List.mem_append.1 hmem with hmem | hmem
      · exact hdigits (List.mem_of_mem_take hmem)
      · rcases List.mem_cons.1 hmem with heq | hmem
        · exact absurd heq (by decide)
        · exact hdigits (List.mem_of_mem_drop hmem)

theorem newline_not_mem_amount (x : Float32) : '\n' ∉ (amount x).toList := by
  simp [amount, padLeft, newline_not_mem_fixed]

/-- Texts without a line end have none when they stand behind one another with blanks between them. -/
theorem newline_not_mem_intercalate {texts : List (List Char)} (h : ∀ cs ∈ texts, '\n' ∉ cs) :
    '\n' ∉ [' '].intercalate texts := by
  induction texts with
  | nil => exact nofun
  | cons cs rest ih =>
    have hrest := ih fun cs' hcs' => h cs' (List.mem_cons_of_mem cs hcs')
    cases rest with
    | nil => simpa using h cs (List.mem_cons_self ..)
    | cons next rest =>
      rw [List.intercalate_cons_cons]
      simp [h cs (List.mem_cons_self ..), hrest]

theorem isLine_row (values : List Float32) : IsLine (row values) := by
  refine ⟨"  ".toList ++ [' '].intercalate ((values.map amount).map String.toList), fun hmem => ?_, ?_⟩
  · rcases List.mem_append.1 hmem with hmem | hmem
    · exact absurd hmem (by decide)
    · refine newline_not_mem_intercalate (fun cs hcs => ?_) hmem
      rw [List.map_map] at hcs
      obtain ⟨x, -, rfl⟩ := List.mem_map.1 hcs
      exact newline_not_mem_amount x
  · rw [row, String.toList_append, String.toList_append, String.toList_intercalate]
    rfl

/-! ## An image -/

variable {t : Tensor Float32} {image : Nat} {text : String}

/-- What stands above the values of an image. -/
def heading (t : Tensor Float32) (image : Nat) : String :=
  "Output [" ++ t.name ++ "] image " ++ toString image ++ ": " ++ toString t.shape.height ++ "x" ++
    toString t.shape.rows ++ "x" ++ toString t.shape.cols ++ "\n"

/-- The text shows the image in these rows, each of them on one line; an empty image has none. -/
structure Shows (t : Tensor Float32) (image : Nat) (text : String) (rows : List (List Float32)) : Prop where
  text : text = heading t image ++ String.join (rows.map row)
  values : t.image? image = some rows.flatten
  length : rows.length = if t.shape.logicalSize = 0 then 0 else t.shape.height * t.shape.rows
  cols : ∀ values ∈ rows, values.length = t.shape.cols
  lines : ∀ values ∈ rows, IsLine (row values)

theorem output?_eq (t : Tensor Float32) (image : Nat) :
    output? t image = (t.image? image).map fun values =>
      heading t image ++ String.join ((pieces (max t.shape.cols 1) values).map row) := by
  unfold output?
  cases t.image? image <;> rfl

theorem isSome_output?_iff :
    (output? t image).isSome = true ↔ image < t.batch ∨ t.shape.logicalSize = 0 := by
  rw [output?_eq, Option.isSome_map, Tensor.isSome_image?_iff]

/-- Whatever is shown of an image are its rows. -/
theorem shows_of_output? (h : output? t image = some text) : ∃ rows, Shows t image text rows := by
  rw [output?_eq] at h
  obtain ⟨values, hvalues, rfl⟩ := Option.map_eq_some_iff.1 h
  have hlength := Tensor.length_of_image?_eq_some hvalues
  by_cases hempty : t.shape.logicalSize = 0
  · obtain rfl : values = [] := List.eq_nil_of_length_eq_zero (hlength.trans hempty)
    refine ⟨[], ?_, hvalues, by rw [if_pos hempty]; rfl, nofun, nofun⟩
    rw [pieces, dif_pos (.inl rfl)]
  · have hcols : 0 < t.shape.cols := Nat.pos_of_ne_zero fun hzero => hempty (by
      rw [Shape.logicalSize, hzero, Nat.mul_zero])
    obtain ⟨hcount, hpieces, hflatten⟩ := @pieces_exact _ _ hcols _ values hlength
    rw [Nat.max_eq_left hcols]
    refine ⟨_, rfl, by rw [hflatten, hvalues], by rw [hcount, if_neg hempty], hpieces,
      fun values _ => isLine_row values⟩

end Report

end ForwardPass

import ForwardPass.Text.Cluster

/-!
# Typed lines

What a line comes to once the backspaces in it have taken effect: each takes back the last cluster that
is left. How much there is to take back is kept in one byte per cluster, so that of a cluster of 256
bytes or more only the remainder goes.
-/

namespace ForwardPass

/-- A line while it is typed. -/
structure TypedLine where
  /-- The characters that are left, the last one first. -/
  kept : List Char := []
  /-- The bytes that each cluster takes, the last one first. -/
  sizes : List UInt8 := []
deriving DecidableEq, Repr, Inhabited

/-- The bytes that a text takes. -/
def byteCount : List Char → Nat
  | [] => 0
  | c :: cs => c.utf8Size + byteCount cs

/-- Without the characters in front that take `size` bytes in all, if a character ends there. -/
def dropBytes : (size : Nat) → List Char → Option (List Char)
  | 0, cs => some cs
  | _ + 1, [] => none
  | size + 1, c :: cs => if c.utf8Size ≤ size + 1 then dropBytes (size + 1 - c.utf8Size) cs else none

/-- Whole characters can always be dropped. -/
theorem dropBytes_byteCount (front rest : List Char) :
    dropBytes (byteCount front) (front ++ rest) = some rest := by
  induction front with
  | nil => cases rest <;> rfl
  | cons c front ih =>
    obtain ⟨size, h⟩ : ∃ size, byteCount (c :: front) = size + 1 :=
      Nat.exists_eq_add_one_of_ne_zero (Nat.ne_of_gt (Nat.add_pos_left c.utf8Size_pos _))
    have fits : c.utf8Size ≤ size + 1 := h ▸ Nat.le_add_right _ _
    have left : size + 1 - c.utf8Size = byteCount front := by
      rw [← h]
      exact Nat.add_sub_cancel_left c.utf8Size _
    rw [h, List.cons_append, dropBytes, if_pos fits, left, ih]

namespace TypedLine

/-- Press the keys of one cluster, which may be a backspace. -/
def press (line : TypedLine) (cluster : List Char) : Option TypedLine :=
  if cluster = ['\x08'] then
    match line.sizes with
    | [] => some line
    | size :: sizes => (dropBytes size.toNat line.kept).map (⟨·, sizes⟩)
  else some ⟨cluster.reverse ++ line.kept, (byteCount cluster).toUInt8 :: line.sizes⟩

/-- What a line comes to, unless a backspace would cut a character apart. -/
def result? (cs : List Char) : Option (List Char) :=
  ((clusters cs).foldlM press {}).map (·.kept.reverse)

end TypedLine

end ForwardPass

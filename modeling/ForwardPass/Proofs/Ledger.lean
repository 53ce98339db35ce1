import Mathlib.Algebra.Ring.Nat
import ForwardPass.Ledger

/-!
# Mapped arrays and recorded transfers

A transfer that fits is recorded and changes nothing else, and a mapping reaches its own array only. So
what is available to a transfer is fixed by the latest mapping of its array, whatever was transferred or
launched since. `Totals.ofLog` are the totals that a log of transfers comes to.
-/

namespace ForwardPass

/-! ## Totals -/

instance : Add Totals where
  add a b := {
    transfersIn := a.transfersIn + b.transfersIn
    transfersOut := a.transfersOut + b.transfersOut
    bytesIn := a.bytesIn + b.bytesIn
    bytesOut := a.bytesOut + b.bytesOut
    launches := a.launches + b.launches }

namespace Totals

theorem add_assoc (a b c : Totals) : a + b + c = a + (b + c) := by
  change Totals.mk .. = Totals.mk ..
  congr 1 <;> exact Nat.add_assoc ..

theorem add_right_comm (a b c : Totals) : a + b + c = a + c + b := by
  change Totals.mk .. = Totals.mk ..
  congr 1 <;> exact Nat.add_right_comm ..

/-- The totals of so many launches and these transfers. -/
def ofLog (launches : Nat) (log : List Transfer) : Totals where
  transfersIn := log.countP (·.direction = .into)
  transfersOut := log.countP (·.direction = .outOf)
  bytesIn := ((log.filter (·.direction = .into)).map (·.length)).sum
  bytesOut := ((log.filter (·.direction = .outOf)).map (·.length)).sum
  launches := launches

theorem ofLog_append (m n : Nat) (log log' : List Transfer) :
    ofLog (m + n) (log ++ log') = ofLog m log + ofLog n log' := by
  change _ = Totals.mk _ _ _ _ _
  simp [ofLog]

theorem add_ofLog_nil (t : Totals) : t + ofLog 0 [] = t := rfl

/-- A transfer that is counted is one more in the log. -/
theorem count_ofLog (launches : Nat) (log : List Transfer) (t : Transfer) :
    (ofLog launches log).count t.direction t.length = ofLog launches (log ++ [t]) := by
  rw [← Nat.add_zero launches, ofLog_append, Nat.add_zero]
  obtain ⟨block, role, direction, offset, length⟩ := t
  cases direction <;> rfl

end Totals

namespace Ledger

/-! ## Arrays -/

variable {l : Ledger} {block block' : BlockId} {role role' : Role} {bytes elements : Nat} {t : Transfer}

/-- The ledger with one more completed transfer. -/
def record (l : Ledger) (t : Transfer) : Ledger :=
  { l with transfers := l.transfers.push t, totals := l.totals.count t.direction t.length }

theorem mappedBytes?_map_self : (l.map block role bytes).mappedBytes? block role = some bytes := by
  simp [mappedBytes?, map]

/-- An entry that is not looked for may be left out. -/
theorem lookup_filter_ne {κ β : Type} [BEq κ] [LawfulBEq κ] [DecidableEq κ] {key other : κ}
    (hne : key ≠ other) (entries : List (κ × β)) :
    (entries.filter (·.1 ≠ other)).lookup key = entries.lookup key := by
  induction entries with
  | nil => rfl
  | cons entry entries ih =>
    obtain ⟨k, b⟩ := entry
    rw [List.filter_cons]
    split
    · rw [List.lookup_cons, List.lookup_cons, ih]
    · next hk =>
      have hbeq : (key == k) = false := beq_eq_false_iff_ne.2 (by simp_all)
      rw [List.lookup_cons, hbeq, ih]

theorem mappedBytes?_map_of_ne (hne : (block', role') ≠ (block, role)) :
    (l.map block role bytes).mappedBytes? block' role' = l.mappedBytes? block' role' := by
  have hbeq : ((block', role') == (block, role)) = false := beq_eq_false_iff_ne.2 hne
  rw [mappedBytes?, map, List.lookup_cons, hbeq]
  exact lookup_filter_ne hne l.mapped

/-- A transfer from the start of an array is recorded when the array and its mapping are long enough. -/
theorem transfer_eq_ok {direction : Direction} {length : Nat} (hsize : length ≤ elements * elementBytes)
    (hmapped : ∀ bytes, l.mappedBytes? block role = some bytes → length ≤ bytes) :
    l.transfer elements ⟨block, role, direction, 0, length⟩ =
      .ok (l.record ⟨block, role, direction, 0, length⟩) := by
  refine if_pos ?_
  rw [Nat.zero_add, available]
  dsimp only
  split
  · next bytes hbytes => exact Nat.le_min.2 ⟨hsize, hmapped bytes hbytes⟩
  · exact hsize

end Ledger

end ForwardPass

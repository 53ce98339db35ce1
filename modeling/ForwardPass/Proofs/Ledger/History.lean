import Mathlib.Data.List.Basic
import Mathlib.Data.List.Induction
import ForwardPass.Proofs.Ledger

/-!
# Ledger histories

What a ledger holds after any calls, told by the calls alone: an array is mapped as the last call to map it
says, the log is the transfers that fitted when they were asked for, in their order, and the totals are those
of the log. What a transfer is answered with is told by the calls before it, too.
-/

namespace ForwardPass.Ledger

/-! ## Calls -/

/-- What a ledger may be asked for. -/
inductive Call where
  /-- Declare how many bytes an array of a block occupies. -/
  | map (block : BlockId) (role : Role) (bytes : Nat)
  /-- Transfer a range of a buffer of `elements` elements. -/
  | transfer (elements : Nat) (t : Transfer)
  /-- Announce that a kernel is launched. -/
  | launch
deriving DecidableEq, Repr

/-- Answer a call. The ledger goes on as it was when a transfer is refused. -/
def Call.answer : Call → EStateM EngineError Ledger Unit
  | .map block role bytes => modify (·.map block role bytes)
  | .transfer elements t => fun l =>
    match l.transfer elements t with
    | .ok l' => .ok () l'
    | .error e => .error e l
  | .launch => modify Ledger.launch

/-- The ledger that a call leaves, however it is answered. -/
def after (l : Ledger) (c : Call) : Ledger :=
  match c.answer l with
  | .ok _ l' => l'
  | .error _ l' => l'

/-- The ledger that calls leave, one after the other, of which there were none before. -/
def afterAll (calls : List Call) : Ledger := calls.foldl after {}

/-! ## What the calls say -/

/-- The bytes that a call maps for an array, if it does. -/
def Call.mapping? (block : BlockId) (role : Role) : Call → Option Nat
  | .map block' role' bytes => if (block, role) = (block', role') then some bytes else none
  | _ => none

/-- The bytes that were mapped last for an array. -/
def lastMapped? (block : BlockId) (role : Role) (calls : List Call) : Option Nat :=
  (calls.filterMap (Call.mapping? block role)).getLast?

/-- The transfer, asked for behind these calls, stays within its buffer of `elements` elements and within what
was mapped last for its array, if anything was. -/
def Fits (calls : List Call) (elements : Nat) (t : Transfer) : Prop :=
  t.offset + t.length ≤ 4 * elements ∧
    ∀ bytes ∈ lastMapped? t.block t.role calls, t.offset + t.length ≤ bytes

instance (calls : List Call) (elements : Nat) (t : Transfer) : Decidable (Fits calls elements t) :=
  inferInstanceAs (Decidable (_ ∧ _))

/-- The bytes that a transfer behind these calls may reach. -/
def reach (calls : List Call) (elements : Nat) (t : Transfer) : Nat :=
  (lastMapped? t.block t.role calls).elim (4 * elements) (min (4 * elements))

/-- The transfer that a call behind these completes, if it is one that fits. -/
def Call.completion? (calls : List Call) : Call → Option Transfer
  | .transfer elements t => if Fits calls elements t then some t else none
  | _ => none

/-- The transfers that fitted when they were asked for, in their order. -/
def completions (calls : List Call) : List Transfer :=
  (List.range calls.length).filterMap fun k => calls[k]?.bind (Call.completion? (calls.take k))

variable {calls : List Call}

theorem lastMapped?_concat (block : BlockId) (role : Role) (calls : List Call) (c : Call) :
    lastMapped? block role (calls ++ [c]) = (c.mapping? block role).or (lastMapped? block role calls) := by
  unfold lastMapped?
  rw [List.filterMap_append, List.getLast?_append]
  cases h : c.mapping? block role <;> simp [h]

theorem fits_iff_le_reach {elements : Nat} {t : Transfer} :
    Fits calls elements t ↔ t.offset + t.length ≤ reach calls elements t := by
  unfold Fits reach
  cases lastMapped? t.block t.role calls with
  | none => simp
  | some bytes => simp only [Option.mem_some_iff, forall_eq', Option.elim_some, Nat.le_min]

/-- The calls before a call know nothing of it. -/
theorem completions_concat (calls : List Call) (c : Call) :
    completions (calls ++ [c]) = completions calls ++ (c.completion? calls).toList := by
  unfold completions
  rw [List.length_append, List.length_singleton, List.range_succ, List.filterMap_append]
  congr 1
  · refine List.filterMap_congr fun k hk => ?_
    have hlt := List.mem_range.1 hk
    rw [List.getElem?_append_left hlt, List.take_append_of_le_length (Nat.le_of_lt hlt)]
  · rw [List.filterMap_cons, List.getElem?_concat_length, List.take_left, Option.bind_some]
    cases c.completion? calls <;> rfl

/-! ## The invariant -/

/-- The ledger holds what the calls say. -/
structure Accounts (calls : List Call) (l : Ledger) : Prop where
  mapped : ∀ block role, l.mappedBytes? block role = lastMapped? block role calls
  log : l.transfers.toList = completions calls
  totals : l.totals = .ofLog (calls.count .launch) l.transfers.toList

namespace Accounts

variable {l : Ledger}

theorem available_eq (h : Accounts calls l) (elements : Nat) (t : Transfer) :
    l.available t.block t.role elements = reach calls elements t := by
  unfold available reach
  rw [h.mapped, Nat.mul_comm 4]
  cases lastMapped? t.block t.role calls <;> rfl

/-- A transfer is recorded if it fits, and refused with what it might have reached if not. -/
theorem answer_transfer (h : Accounts calls l) (elements : Nat) (t : Transfer) :
    (Call.transfer elements t).answer l =
      if Fits calls elements t then .ok () (l.record t)
      else .error (.transfer t.block t.offset t.length (reach calls elements t)) l := by
  unfold Call.answer transfer
  dsimp only
  rw [h.available_eq]
  by_cases hfits : Fits calls elements t
  · rw [if_pos (fits_iff_le_reach.1 hfits), if_pos hfits]
    rfl
  · rw [if_neg (fun hle => hfits (fits_iff_le_reach.2 hle)), if_neg hfits]

/-- One more call is accounted for like all before it. -/
theorem after (h : Accounts calls l) (c : Call) : Accounts (calls ++ [c]) (l.after c) := by
  cases c with
  | map block role bytes =>
    refine ⟨fun block' role' => ?_, ?_, ?_⟩
    · rw [lastMapped?_concat, ← h.mapped]
      change (l.map block role bytes).mappedBytes? block' role' = _
      dsimp only [Call.mapping?]
      split
      · next heq =>
        cases heq
        rw [mappedBytes?_map_self]
        rfl
      · next hne =>
        rw [mappedBytes?_map_of_ne hne]
        rfl
    · rw [completions_concat, ← h.log]
      exact (List.append_nil _).symm
    · rw [List.count_append]
      exact h.totals
  | transfer elements t =>
    have hmapped (block : BlockId) (role : Role) :
        l.mappedBytes? block role = lastMapped? block role (calls ++ [.transfer elements t]) := by
      rw [lastMapped?_concat, ← h.mapped]
      rfl
    have hlog := completions_concat calls (.transfer elements t)
    dsimp only [Call.completion?] at hlog
    unfold Ledger.after
    rw [h.answer_transfer]
    by_cases hfits : Fits calls elements t
    · rw [if_pos hfits]
      rw [if_pos hfits, Option.toList_some, ← h.log] at hlog
      refine ⟨hmapped, ?_, ?_⟩
      · rw [hlog]
        exact Array.toList_push
      · change l.totals.count t.direction t.length = .ofLog _ (l.transfers.push t).toList
        rw [h.totals, Totals.count_ofLog, Array.toList_push, List.count_append]
        rfl
    · rw [if_neg hfits]
      rw [if_neg hfits, Option.toList_none, List.append_nil, ← h.log] at hlog
      refine ⟨hmapped, hlog.symm, ?_⟩
      rw [List.count_append]
      exact h.totals
  | launch =>
    refine ⟨fun block role => ?_, ?_, ?_⟩
    · rw [lastMapped?_concat, ← h.mapped]
      rfl
    · rw [completions_concat, ← h.log]
      exact (List.append_nil _).symm
    · have hcount : (calls ++ [Call.launch]).count .launch = calls.count .launch + 1 := by
        rw [List.count_append]
        rfl
      change { l.totals with launches := l.totals.launches + 1 } = _
      rw [hcount, h.totals]
      rfl

theorem afterAll (calls : List Call) : Accounts calls (afterAll calls) := by
  -- The calls are taken off at their end, because the ledger is that of all calls before the last.
  induction calls using List.reverseRecOn with
  | nil => exact ⟨fun _ _ => rfl, rfl, rfl⟩
  | append_singleton calls c ih =>
    have hlast : Ledger.afterAll (calls ++ [c]) = (Ledger.afterAll calls).after c := List.foldl_concat ..
    rw [hlast]
    exact ih.after c

end Accounts

/-- After any calls the ledger holds what these say and nothing else, and a transfer that is asked for next is
recorded whole if it fits, or else refused with the bytes it might have reached, and without a trace. -/
theorem accounts_exact (calls : List Call) :
    Accounts calls (afterAll calls) ∧ ∀ elements t,
      (Call.transfer elements t).answer (afterAll calls) =
        if Fits calls elements t then .ok () ((afterAll calls).record t)
        else .error (.transfer t.block t.offset t.length (reach calls elements t)) (afterAll calls) := by
  have haccounts := Accounts.afterAll calls
  exact ⟨haccounts, haccounts.answer_transfer⟩

/-- A mapping that shrinks refuses what it let through before, and an end beyond any word does not come around
to the front. -/
example :
    let t : Transfer := ⟨2, .weights, .into, 16, 32⟩
    let far : Transfer := ⟨2, .weights, .into, 2 ^ 64 - 1, 2⟩
    completions [.map 2 .weights 64, .transfer 16 t, .transfer 16 far, .map 2 .weights 32, .transfer 16 t] =
      [t] := by
  decide +kernel

end ForwardPass.Ledger

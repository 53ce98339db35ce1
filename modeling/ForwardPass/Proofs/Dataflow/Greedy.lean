import ForwardPass.Dataflow.Order
import Mathlib.Data.Finite.Defs
import Mathlib.Data.Set.Card
import Mathlib.Logic.Relation
import Mathlib.Order.WellFounded

/-!
# Taking the first operator that can run

For all operators, whatever they read and produce. `Takes` says how operators are taken out of those that wait,
the first that nothing waiting feeds in each turn. Three things are read off it by induction: what is taken
stands behind its producers, it is the least among all orders that can run, and what is left lies on a cycle
or behind one.
-/

namespace ForwardPass.Dataflow

variable {ws : List Wiring} {waiting rest l l' : List Nat} {i j : Nat}

/-! ## Edges -/

/-- Operator `i` produces a tensor that operator `j` reads. -/
def Feeds (ws : List Wiring) (i j : Nat) : Prop :=
  ∃ v w, ws[i]? = some v ∧ ws[j]? = some w ∧ v.output ∈ w.inputs

/-- Operators that lie on a cycle, or behind one. -/
def Cyclic (ws : List Wiring) : Set Nat :=
  {j | ∃ c, Relation.TransGen (Feeds ws) c c ∧ Relation.ReflTransGen (Feeds ws) c j}

theorem Feeds.lt_length (h : Feeds ws i j) : i < ws.length ∧ j < ws.length := by
  obtain ⟨v, w, hv, hw, -⟩ := h
  exact ⟨(List.getElem?_eq_some_iff.1 hv).1, (List.getElem?_eq_some_iff.1 hw).1⟩

theorem lt_length_of_cyclic (h : j ∈ Cyclic ws) : j < ws.length := by
  obtain ⟨c, hcycle, hpath⟩ := h
  cases hpath with
  | refl =>
    obtain ⟨i, -, hfeeds⟩ := Relation.TransGen.tail'_iff.1 hcycle
    exact hfeeds.lt_length.2
  | tail _ hfeeds => exact hfeeds.lt_length.2

/-! ## Taking -/

/-- Nothing that waits feeds operator `i`. -/
def Free (ws : List Wiring) (waiting : List Nat) (i : Nat) : Prop :=
  ∀ j ∈ waiting, ¬ Feeds ws j i

/-- Everything in `l` stands behind what feeds it, as far as that is in `within`. -/
def Behind (ws : List Wiring) (within l : List Nat) : Prop :=
  ∀ before j after, l = before ++ j :: after → ∀ i ∈ within, Feeds ws i j → i ∈ before

/-- How operators are taken out of those that wait: which ones in turn, and what is left. -/
inductive Takes (ws : List Wiring) : List Nat → List Nat → List Nat → Prop
  /-- No operator is free. -/
  | stuck {waiting : List Nat} (blocked : ∀ i ∈ waiting, ¬ Free ws waiting i) : Takes ws waiting [] waiting
  /-- The first operator that is free is taken. -/
  | take {before after rest l : List Nat} {next : Nat}
      (blocked : ∀ i ∈ before, ¬ Free ws (before ++ next :: after) i)
      (free : Free ws (before ++ next :: after) next) (others : Takes ws (before ++ after) l rest) :
    Takes ws (before ++ next :: after) (next :: l) rest

/-! ### One operator among others -/

section Middle

variable {before after : List Nat} {next : Nat}

theorem sublist_middle (before after : List Nat) (next : Nat) :
    (before ++ after).Sublist (before ++ next :: after) :=
  List.Sublist.append_left (List.sublist_cons_self ..) _

theorem mem_middle : i ∈ before ++ next :: after ↔ i = next ∨ i ∈ before ++ after := by
  simp [or_left_comm]

theorem not_mem_of_pairwise_middle (h : (before ++ next :: after).Pairwise (· < ·)) :
    next ∉ before ++ after :=
  (List.nodup_cons.1 (List.nodup_middle.1 (h.imp Nat.ne_of_lt))).1

end Middle

namespace Takes

theorem rest_sublist (h : Takes ws waiting l rest) : rest.Sublist waiting := by
  induction h with
  | stuck _ => exact .refl _
  | take _ _ _ ih => exact ih.trans (sublist_middle ..)

/-- Every operator is taken or left. -/
theorem perm (h : Takes ws waiting l rest) : (l ++ rest).Perm waiting := by
  induction h with
  | stuck _ => exact .refl _
  | take _ _ _ ih => exact (ih.cons _).trans List.perm_middle.symm

/-- None of those that are left is free. -/
theorem rest_blocked (h : Takes ws waiting l rest) : ∀ i ∈ rest, ¬ Free ws rest i := by
  induction h with
  | stuck blocked => exact blocked
  | take _ _ _ ih => exact ih

/-- What is taken stands behind every waiting operator that feeds it. -/
theorem behind (h : Takes ws waiting l rest) : Behind ws waiting l := by
  induction h with
  | stuck _ =>
    intro before j after heq
    simp at heq
  | take _ free _ ih =>
    intro before j after heq i hi hfeeds
    cases before with
    | nil =>
      cases heq
      exact (free i hi hfeeds).elim
    | cons k before =>
      cases heq
      rcases mem_middle.1 hi with rfl | hi
      · exact List.mem_cons_self ..
      · exact List.mem_cons_of_mem _ (ih before j after rfl i hi hfeeds)

/-- No order of the waiting operators in which they stand behind their producers comes before the one taken. -/
theorem least (h : Takes ws waiting l rest) (hsorted : waiting.Pairwise (· < ·)) (hperm : l'.Perm waiting)
    (hbehind : Behind ws waiting l') : l = l' ∨ List.Lex (· < ·) l l' := by
  induction h generalizing l' with
  | stuck _ =>
    cases l' with
    | nil => exact .inl rfl
    | cons j l' => exact .inr .nil
  | @take front back rest l next blocked free others ih =>
    have hperm' := hperm.trans List.perm_middle
    cases l' with
    | nil => exact (List.cons_ne_nil _ _ hperm'.nil_eq.symm).elim
    | cons j l' =>
      -- Nothing stands in front of the first operator, so nothing that waits feeds it.
      have hfree : Free ws (front ++ next :: back) j :=
        fun i hi hfeeds => List.not_mem_nil (hbehind [] j l' rfl i hi hfeeds)
      rcases List.mem_append.1 (hperm.subset (List.mem_cons_self ..)) with hfront | hback
      · exact (blocked j hfront hfree).elim
      rcases List.mem_cons.1 hback with rfl | hback
      · have hnew : j ∉ front ++ back := not_mem_of_pairwise_middle hsorted
        have hbehind' : Behind ws (front ++ back) l' := by
          intro before k after heq i hi hfeeds
          have hmem := hbehind (j :: before) k after (by rw [heq]; rfl) i
            ((sublist_middle ..).subset hi) hfeeds
          rcases List.mem_cons.1 hmem with rfl | hmem
          · exact (hnew hi).elim
          · exact hmem
        rcases ih (hsorted.sublist (sublist_middle ..)) hperm'.cons_inv hbehind' with rfl | hlex
        · exact .inl rfl
        · exact .inr (.cons hlex)
      · exact .inr (.rel ((List.pairwise_cons.1 (List.pairwise_append.1 hsorted).2.1).1 j hback))

end Takes

/-! ## Cycles -/

/-- Going back along edges without leaving a finite set, one comes round. -/
theorem exists_cycle_behind {β : Type} {r : β → β → Prop} {s : Set β} (hs : s.Finite)
    (hfed : ∀ b ∈ s, ∃ a ∈ s, r a b) {b : β} (hb : b ∈ s) :
    ∃ c, Relation.TransGen r c c ∧ Relation.ReflTransGen r c b := by
  by_contra hnone
  -- Without a cycle in front of `b`, what leads to `b` would have a first element, which nothing feeds.
  let leading : Set β := {a ∈ s | Relation.ReflTransGen r a b}
  let before (x y : leading) : Prop := Relation.TransGen r x.1 y.1
  have hfinite : Finite leading := hs.subset (Set.sep_subset ..)
  have htrans : IsTrans leading before := ⟨fun _ _ _ hxy hyz => hxy.trans hyz⟩
  have hirrefl : Std.Irrefl before := ⟨fun x hcycle => hnone ⟨x.1, hcycle, x.2.2⟩⟩
  have hwf : WellFounded before := Finite.wellFounded_of_trans_of_irrefl before
  obtain ⟨first, -, hfirst⟩ := hwf.has_min Set.univ ⟨⟨b, hb, .refl⟩, trivial⟩
  obtain ⟨a, ha, hra⟩ := hfed first.1 first.2.1
  exact hfirst ⟨a, ha, .head hra first.2.2⟩ trivial (.single hra)

/-- What is left lies on a cycle or behind one. -/
theorem Takes.cyclic_of_rest (h : Takes ws waiting l rest) (hj : j ∈ rest) : j ∈ Cyclic ws := by
  refine exists_cycle_behind (List.finite_toSet rest) ?_ hj
  intro k hk
  by_contra hnone
  exact h.rest_blocked k hk fun i hi hfeeds => hnone ⟨i, hi, hfeeds⟩

/-- In an order that stands behind all producers, whatever leads to an operator stands in front of it. -/
theorem Behind.mem_of_transGen (h : Behind ws (List.range ws.length) l)
    (hpath : Relation.TransGen (Feeds ws) i j) {before after : List Nat} (heq : l = before ++ j :: after) :
    i ∈ before := by
  induction hpath generalizing before after with
  | single hfeeds => exact h before _ after heq i (List.mem_range.2 hfeeds.lt_length.1) hfeeds
  | @tail k j _ hfeeds ih =>
    have hk := h before j after heq k (List.mem_range.2 hfeeds.lt_length.1) hfeeds
    obtain ⟨front, back, rfl⟩ := List.append_of_mem hk
    rw [List.append_assoc, List.cons_append] at heq
    exact List.mem_append_left _ (ih heq)

/-- What can be put in such an order is not cyclic. -/
theorem Behind.not_cyclic (h : Behind ws (List.range ws.length) l) (hnodup : l.Nodup) (hj : j ∈ l) :
    j ∉ Cyclic ws := by
  rintro ⟨c, hcycle, hpath⟩
  have hc : c ∈ l := by
    rcases Relation.reflTransGen_iff_eq_or_transGen.1 hpath with rfl | hpath
    · exact hj
    · obtain ⟨before, after, heq⟩ := List.append_of_mem hj
      rw [heq]
      exact List.mem_append_left _ (h.mem_of_transGen hpath heq)
  obtain ⟨before, after, heq⟩ := List.append_of_mem hc
  -- The operator would stand in front of itself.
  rw [heq, List.nodup_middle] at hnodup
  exact (List.nodup_cons.1 hnodup).1 (List.mem_append_left _ (h.mem_of_transGen hcycle heq))

/-! ## All operators -/

/-- All operators of a graph, each behind the producers of everything it reads. -/
structure Legal (ws : List Wiring) (l : List Nat) : Prop where
  perm : l.Perm (List.range ws.length)
  behind : ∀ before j after, l = before ++ j :: after → ∀ i, Feeds ws i j → i ∈ before

/-- In a legal order no operator leads back to itself. -/
theorem Legal.acyclic (h : Legal ws l) (c : Nat) : ¬ Relation.TransGen (Feeds ws) c c := by
  intro hcycle
  have hbehind : Behind ws (List.range ws.length) l := fun before j after heq i _ =>
    h.behind before j after heq i
  have hcyclic : c ∈ Cyclic ws := ⟨c, hcycle, .refl⟩
  have hc : c ∈ l := h.perm.mem_iff.2 (List.mem_range.2 (lt_length_of_cyclic hcyclic))
  exact hbehind.not_cyclic (h.perm.nodup_iff.2 List.nodup_range) hc hcyclic

/-- There is one least order. -/
theorem Legal.eq_of_least (h : Legal ws l) (h' : Legal ws l')
    (hleast : ∀ k, Legal ws k → l = k ∨ List.Lex (· < ·) l k)
    (hleast' : ∀ k, Legal ws k → l' = k ∨ List.Lex (· < ·) l' k) : l = l' := by
  rcases hleast l' h' with heq | hlex
  · exact heq
  rcases hleast' l h with heq | hlex'
  · exact heq.symm
  · exact (asymm hlex hlex').elim

section All

variable (h : Takes ws (List.range ws.length) l rest)

include h

/-- What is left of all operators is what is cyclic. -/
theorem Takes.cyclic_eq : Cyclic ws = {j | j ∈ rest} := by
  have hnodup : (l ++ rest).Nodup := h.perm.nodup_iff.2 List.nodup_range
  ext j
  constructor
  · intro hj
    have hmem := h.perm.mem_iff.2 (List.mem_range.2 (lt_length_of_cyclic hj))
    refine (List.mem_append.1 hmem).resolve_left fun hl => ?_
    exact h.behind.not_cyclic (List.nodup_append.1 hnodup).1 hl hj
  · intro hj
    exact h.cyclic_of_rest hj

theorem Takes.length_rest : rest.length = (Cyclic ws).ncard := by
  have hnodup : rest.Nodup := List.nodup_range.sublist h.rest_sublist
  have hset : {j | j ∈ rest} = (rest.toFinset : Set Nat) := by
    ext j
    simp
  rw [h.cyclic_eq, hset, Set.ncard_coe_finset, List.toFinset_card_of_nodup hnodup]

/-- When something is left there is a cycle. -/
theorem Takes.exists_cycle (hrest : rest ≠ []) : ∃ c, Relation.TransGen (Feeds ws) c c := by
  obtain ⟨i, rest', rfl⟩ := List.exists_cons_of_ne_nil hrest
  obtain ⟨c, hcycle, -⟩ := h.cyclic_of_rest (List.mem_cons_self ..)
  exact ⟨c, hcycle⟩

theorem Takes.legal (hrest : rest = []) : Legal ws l where
  perm := by
    have hperm := h.perm
    rwa [hrest, List.append_nil] at hperm
  behind before j after heq i hfeeds :=
    h.behind before j after heq i (List.mem_range.2 hfeeds.lt_length.1) hfeeds

theorem Takes.legal_least (hl' : Legal ws l') : l = l' ∨ List.Lex (· < ·) l l' := by
  refine h.least List.pairwise_lt_range hl'.perm ?_
  intro before j after heq i _ hfeeds
  exact hl'.behind before j after heq i hfeeds

end All

end ForwardPass.Dataflow

import ForwardPass.Proofs.Dataflow.Counters

/-!
# The least order

What the order of any operators is: refused when two of them produce one tensor, the least of all lists that
can run when there is one, and else refused with the number of those that cannot run. When no operator reads
what it produces itself or what a later one produces, the operators run in the order they were added.
-/

namespace ForwardPass.Dataflow

variable {w : Wiring} {ws : List Wiring} {l : List Nat}

/-! ## Producers -/

/-- Operators that share a tensor are refused by the first that does. -/
theorem order_of_shared (h : ¬ (ws.map (·.output)).Nodup) :
    ∃ defect, Clash ws defect ∧ order ws = .error (.invalidGraph defect) := by
  rcases producers_cases ws with ⟨hnodup, -⟩ | ⟨defect, hclash, hproducers⟩
  · exact (h hnodup).elim
  · refine ⟨defect, hclash, ?_⟩
    unfold order
    rw [hproducers]
    rfl

/-- With one producer for each tensor the order is what was taken, unless something is left. -/
theorem order_of_nodup (h : (ws.map (·.output)).Nodup) :
    ∃ l rest, Takes ws (List.range ws.length) l rest ∧
      order ws = if rest = [] then .ok l else .error (.graphCycle rest.length) := by
  rcases producers_cases ws with ⟨-, hproducers⟩ | ⟨defect, hclash, -⟩
  · obtain ⟨rest, htakes⟩ := (running_start h).takes (tabled_link h)
    generalize htaken : takeAll _ _ = taken at htakes
    have horder : order ws = if taken.length < ws.length then
        .error (.graphCycle (ws.length - taken.length)) else .ok taken := by
      unfold order
      rw [hproducers, ← htaken]
      rfl
    have hlength := htakes.perm.length_eq
    rw [List.length_append, List.length_range] at hlength
    refine ⟨taken, rest, htakes, horder.trans ?_⟩
    rw [← hlength, Nat.add_sub_cancel_left]
    cases rest with
    | nil => simp
    | cons i rest => simp
  · exact (hclash.not_nodup h).elim

/-- An order that is given is legal, and every tensor has one producer then. -/
theorem legal_of_order (h : order ws = .ok l) : (ws.map (·.output)).Nodup ∧ Legal ws l := by
  have hnodup : (ws.map (·.output)).Nodup := by
    by_contra hshared
    obtain ⟨defect, -, hdefect⟩ := order_of_shared hshared
    rw [h] at hdefect
    cases hdefect
  obtain ⟨taken, rest, htakes, horder⟩ := order_of_nodup hnodup
  rw [h] at horder
  split at horder
  · next hrest =>
    cases horder
    exact ⟨hnodup, htakes.legal hrest⟩
  · cases horder

/-! ## The result -/

theorem order_of_acyclic (h : (ws.map (·.output)).Nodup) (hacyclic : ∀ c, ¬ Relation.TransGen (Feeds ws) c c) :
    ∃ l, order ws = .ok l ∧ Legal ws l ∧ ∀ l', Legal ws l' → l = l' ∨ List.Lex (· < ·) l l' := by
  obtain ⟨l, rest, htakes, horder⟩ := order_of_nodup h
  have hrest : rest = [] := by
    by_contra hrest
    obtain ⟨c, hcycle⟩ := htakes.exists_cycle hrest
    exact hacyclic c hcycle
  rw [if_pos hrest] at horder
  exact ⟨l, horder, htakes.legal hrest, fun l' => htakes.legal_least⟩

theorem order_of_cycle (h : (ws.map (·.output)).Nodup) {c : Nat} (hcycle : Relation.TransGen (Feeds ws) c c) :
    order ws = .error (.graphCycle (Cyclic ws).ncard) := by
  obtain ⟨l, rest, htakes, horder⟩ := order_of_nodup h
  have hrest : rest ≠ [] := fun hrest => (htakes.legal hrest).acyclic c hcycle
  rw [horder, if_neg hrest, htakes.length_rest]

/-- What the order of any operators is: refused when two of them produce one tensor, with the first two that
do, and otherwise the least of all lists in which every operator stands behind the producers of what it reads.
There is such a list when no operator leads back to itself; else the operators that lie on a cycle or behind
one are counted. -/
theorem order_exact (ws : List Wiring) :
    ((∃ defect, order ws = .error (.invalidGraph defect)) ↔ ¬ (ws.map (·.output)).Nodup) ∧
    (∀ defect, order ws = .error (.invalidGraph defect) → Clash ws defect) ∧
    ((∃ l, order ws = .ok l) ↔
      (ws.map (·.output)).Nodup ∧ ∀ c, ¬ Relation.TransGen (Feeds ws) c c) ∧
    (∀ l, order ws = .ok l ↔ (ws.map (·.output)).Nodup ∧ Legal ws l ∧
      ∀ l', Legal ws l' → l = l' ∨ List.Lex (· < ·) l l') ∧
    (∀ remaining, order ws = .error (.graphCycle remaining) ↔
      (ws.map (·.output)).Nodup ∧ (∃ c, Relation.TransGen (Feeds ws) c c) ∧
        remaining = (Cyclic ws).ncard) := by
  by_cases h : (ws.map (·.output)).Nodup
  · by_cases hcycle : ∃ c, Relation.TransGen (Feeds ws) c c
    · have hlegal (l : List Nat) : ¬ Legal ws l := by
        intro hl
        obtain ⟨c, hc⟩ := hcycle
        exact hl.acyclic c hc
      have horder : order ws = .error (.graphCycle (Cyclic ws).ncard) := by
        obtain ⟨c, hc⟩ := hcycle
        exact order_of_cycle h hc
      rw [horder]
      simp [h, hcycle, hlegal, eq_comm]
    · have hacyclic : ∀ c, ¬ Relation.TransGen (Feeds ws) c c := fun c hc => hcycle ⟨c, hc⟩
      obtain ⟨l, horder, hl, hleast⟩ := order_of_acyclic h hacyclic
      have hunique (k : List Nat) :
          l = k ↔ Legal ws k ∧ ∀ l', Legal ws l' → k = l' ∨ List.Lex (· < ·) k l' := by
        constructor
        · rintro rfl
          exact ⟨hl, hleast⟩
        · rintro ⟨hk, hleast'⟩
          exact hl.eq_of_least hk hleast hleast'
      rw [horder]
      refine ⟨by simp [h], by simp, by simp [h, hacyclic], fun k => ?_, by simp [hcycle]⟩
      rw [Except.ok.injEq, hunique]
      exact (and_iff_right h).symm
  · obtain ⟨defect, hclash, horder⟩ := order_of_shared h
    rw [horder]
    simp [h, hclash]

/-- The first of these can run, two feed each other, and the last reads twice from one of those. -/
def looped : List Wiring :=
  [⟨"a", [], ⟨0⟩⟩, ⟨"b", [⟨2⟩, ⟨0⟩], ⟨1⟩⟩, ⟨"c", [⟨1⟩], ⟨2⟩⟩, ⟨"d", [⟨2⟩, ⟨2⟩], ⟨3⟩⟩]

theorem order_exact_looped :
    order looped = .error (.graphCycle 3) ∧ (∃ c, Relation.TransGen (Feeds looped) c c) ∧
      (Cyclic looped).ncard = 3 := by
  have horder : order looped = .error (.graphCycle 3) := by decide +kernel
  obtain ⟨-, -, -, -, hcycle⟩ := order_exact looped
  obtain ⟨-, hloop, hcard⟩ := (hcycle 3).1 horder
  exact ⟨horder, hloop, hcard.symm⟩

/-! ## Operators that are added in order -/

/-- No operator reads its own output or that of a later one, and no two have one output. -/
structure InOrder (ws : List Wiring) : Prop where
  fresh : ∀ w ∈ ws, w.output ∉ w.inputs
  later : ws.Pairwise fun w later => later.output ∉ w.inputs ∧ w.output ≠ later.output

theorem InOrder.sublist {vs : List Wiring} (h : InOrder ws) (hvs : vs.Sublist ws) : InOrder vs where
  fresh v hv := h.fresh v (hvs.subset hv)
  later := h.later.sublist hvs

theorem InOrder.tail (h : InOrder (w :: ws)) : InOrder ws := h.sublist (List.sublist_cons_self w ws)

theorem InOrder.lt_of_feeds {i j : Nat} (h : InOrder ws) (hfeeds : Feeds ws i j) : i < j := by
  obtain ⟨v, w, hv, hw, hmem⟩ := hfeeds
  obtain ⟨hi, rfl⟩ := List.getElem?_eq_some_iff.1 hv
  obtain ⟨hj, rfl⟩ := List.getElem?_eq_some_iff.1 hw
  rcases Nat.lt_trichotomy i j with hlt | rfl | hlt
  · exact hlt
  · exact (h.fresh _ (List.getElem_mem hi) hmem).elim
  · exact ((List.pairwise_iff_getElem.1 h.later j i hj hi hlt).1 hmem).elim

theorem InOrder.nodup (h : InOrder ws) : (ws.map (·.output)).Nodup :=
  List.pairwise_map.2 (h.later.imp fun hlater => hlater.2)

/-- When edges lead forward only, what waits is taken from its front. -/
theorem takes_of_forward (hforward : ∀ i j, Feeds ws i j → i < j) {waiting : List Nat}
    (hsorted : waiting.Pairwise (· < ·)) : Takes ws waiting waiting [] := by
  induction waiting with
  | nil => exact .stuck fun i hi => (List.not_mem_nil hi).elim
  | cons i waiting ih =>
    obtain ⟨hi, hsorted⟩ := List.pairwise_cons.1 hsorted
    have hblocked : ∀ k ∈ ([] : List Nat), ¬ Free ws ([] ++ i :: waiting) k :=
      fun k hk => (List.not_mem_nil hk).elim
    refine .take hblocked (fun k hk hfeeds => ?_) (ih hsorted)
    have hlt := hforward k i hfeeds
    rcases List.mem_cons.1 hk with rfl | hk
    · exact Nat.lt_irrefl k hlt
    · exact Nat.lt_asymm hlt (hi k hk)

/-- Operators that are added in order run in that order. -/
theorem order_eq_ok (h : InOrder ws) : order ws = .ok (List.range ws.length) := by
  have htakes : Takes ws (List.range ws.length) (List.range ws.length) [] :=
    takes_of_forward (fun i j => h.lt_of_feeds) List.pairwise_lt_range
  have hlegal := htakes.legal rfl
  obtain ⟨l, horder, hl, hleast⟩ := order_of_acyclic h.nodup hlegal.acyclic
  rw [horder, hl.eq_of_least hlegal hleast fun k => htakes.legal_least]

end ForwardPass.Dataflow

import ForwardPass.Proofs.Dataflow.LayerGraph
import ForwardPass.Proofs.Exact
import ForwardPass.Proofs.Layer.Growth

/-!
# Graphs in another order

The result of a graph does not depend on the order in which its layers were added. Two operators of which
neither reads what the other produces may change places; so any two orders in which everything stands behind
its producers make the same store, or neither makes one. Totals add up in any order.
-/

namespace ForwardPass

/-! ## Orders -/

namespace Dataflow

variable {ws ws' : List Wiring} {l : List Nat}

/-- What stands later in a legal order feeds nothing before it. -/
theorem Legal.pairwise (h : Legal ws l) : l.Pairwise fun i j => i ≠ j ∧ ¬ Feeds ws j i := by
  have hnodup : l.Nodup := h.perm.nodup_iff.2 List.nodup_range
  suffices hsuffix : ∀ after before, l = before ++ after →
      after.Pairwise fun i j => i ≠ j ∧ ¬ Feeds ws j i from hsuffix l [] rfl
  intro after
  induction after with
  | nil => exact fun _ _ => .nil
  | cons i after ih =>
    intro before heq
    refine List.pairwise_cons.2 ⟨fun j hj => ?_, ih (before ++ [i]) (by simp [heq])⟩
    rw [heq, List.nodup_append] at hnodup
    refine ⟨fun hij => (List.nodup_cons.1 hnodup.2.1).1 (hij ▸ hj), fun hfeeds => ?_⟩
    exact hnodup.2.2 j (h.behind before i after heq j hfeeds) j (List.mem_cons_of_mem i hj) rfl

/-- Nothing in a legal order feeds itself. -/
theorem Legal.not_feeds_self (h : Legal ws l) (i : Nat) : ¬ Feeds ws i i :=
  fun hfeeds => h.acyclic i (.single hfeeds)

/-- Operators that are permuted feed each other as before. -/
theorem acyclic_of_perm (hperm : ws.Perm ws') (h : ∀ c, ¬ Relation.TransGen (Feeds ws) c c) (c : Nat) :
    ¬ Relation.TransGen (Feeds ws') c c := by
  intro hcycle
  -- Where an operator stands among the first, if it is one of the second.
  let place (i : Nat) : Nat := (ws'[i]?.map ws.idxOf).getD 0
  have hplace {i : Nat} {w : Wiring} (hw : ws'[i]? = some w) : ws[place i]? = some w := by
    have hmem : w ∈ ws := hperm.mem_iff.2 (List.mem_of_getElem? hw)
    simp only [place, hw, Option.map_some, Option.getD_some]
    exact List.getElem?_idxOf hmem
  refine h (place c) (hcycle.lift place ?_)
  rintro i j ⟨v, w, hv, hw, hmem⟩
  exact ⟨v, w, hplace hv, hplace hw, hmem⟩

/-- Operators have an order when they have one in another order. -/
theorem order_of_perm (hperm : ws.Perm ws') (h : order ws = .ok l) : ∃ l', order ws' = .ok l' := by
  obtain ⟨hnodup, hlegal⟩ := legal_of_order h
  have hnodup' : (ws'.map (·.output)).Nodup := (hperm.map _).nodup_iff.1 hnodup
  obtain ⟨l', horder, -, -⟩ := order_of_acyclic hnodup' (acyclic_of_perm hperm hlegal.acyclic)
  exact ⟨l', horder⟩

end Dataflow

/-! ## Operators that change places -/

section Commuting

variable {σ β : Type} {step : σ → β → Option σ}

/-- An operation that may change places with all others before it may as well be the first. -/
theorem foldlM_middle {a : β} {before after : List β}
    (h : ∀ b ∈ before, ∀ s, (step s a).bind (step · b) = (step s b).bind (step · a)) (s : σ) :
    (before ++ a :: after).foldlM step s = (a :: (before ++ after)).foldlM step s := by
  induction before generalizing s with
  | nil => rfl
  | cons b before ih =>
    have hrest (s : σ) := ih (fun c hc => h c (List.mem_cons_of_mem b hc)) s
    simp only [List.cons_append, List.foldlM_cons] at hrest ⊢
    calc (step s b).bind (fun s => (before ++ a :: after).foldlM step s)
      _ = (step s b).bind fun s => (step s a).bind fun s => (before ++ after).foldlM step s :=
          congrArg _ (funext hrest)
      _ = ((step s b).bind (step · a)).bind fun s => (before ++ after).foldlM step s :=
          (Option.bind_assoc ..).symm
      _ = ((step s a).bind (step · b)).bind fun s => (before ++ after).foldlM step s := by
          rw [h b (List.mem_cons_self ..)]
      _ = (step s a).bind fun s => (step s b).bind fun s => (before ++ after).foldlM step s :=
          Option.bind_assoc ..

end Commuting

namespace LayerNode

variable {α : Type} [Scalar α] {a b n : LayerNode} {store : TensorStore α}

/-- What an operator does not touch may be stored before or after it. -/
theorem perform_set {id : TensorId} (hinputs : id ∉ n.inputs) (houtput : id ≠ n.output) (t : Tensor α) :
    n.perform (store.set id t) = (n.perform store).map (·.set id t) := by
  have hmake : n.make (store.set id t) = n.make store := by
    refine make_congr fun id' hid' => TensorStore.get?_set_of_ne fun heq => ?_
    exact hinputs (heq ▸ hid')
  unfold perform
  rw [hmake]
  cases n.make store with
  | error failure => rfl
  | ok u =>
    dsimp only
    rw [TensorStore.size_set]
    split
    · rw [Option.map_some, TensorStore.set_comm houtput]
    · rfl

/-- Operators that have nothing to do with each other may change places. -/
theorem perform_comm (ha : a.output ∉ b.inputs) (hb : b.output ∉ a.inputs) (hne : a.output ≠ b.output)
    (store : TensorStore α) :
    (a.perform store).bind b.perform = (b.perform store).bind a.perform := by
  cases hfirst : a.perform store with
  | none =>
    cases hsecond : b.perform store with
    | none => rfl
    | some after =>
      obtain ⟨u, -, -, rfl⟩ := perform_eq_some.1 hsecond
      rw [Option.bind_some, perform_set hb hne.symm, hfirst]
      rfl
  | some after =>
    obtain ⟨t, -, -, rfl⟩ := perform_eq_some.1 hfirst
    rw [Option.bind_some, perform_set ha hne]
    cases hsecond : b.perform store with
    | none => rfl
    | some after =>
      obtain ⟨u, -, -, rfl⟩ := perform_eq_some.1 hsecond
      rw [Option.bind_some, perform_set hb hne.symm, hfirst, Option.map_some, Option.map_some,
        TensorStore.set_comm hne]

/-- The store once all these operators have been performed, unless one of them is stopped. -/
def performAll (nodes : List LayerNode) (store : TensorStore α) : Option (TensorStore α) :=
  nodes.foldlM (fun store n => n.perform store) store

theorem performAll_cons (n : LayerNode) (nodes : List LayerNode) (store : TensorStore α) :
    performAll (n :: nodes) store = (n.perform store).bind (performAll nodes) := List.foldlM_cons

/-- Two orders in which operators stand behind their producers make one store. -/
theorem performAll_perm {xs ys : List LayerNode} (hperm : xs.Perm ys)
    (hx : Dataflow.InOrder (xs.map wiring)) (hy : Dataflow.InOrder (ys.map wiring))
    (store : TensorStore α) : performAll xs store = performAll ys store := by
  induction xs generalizing ys store with
  | nil =>
    rw [hperm.nil_eq]
  | cons a xs ih =>
    obtain ⟨before, after, rfl⟩ := List.append_of_mem (hperm.mem_iff.1 (List.mem_cons_self ..))
    have hrest : xs.Perm (before ++ after) := (hperm.trans List.perm_middle).cons_inv
    have hfirst := List.pairwise_cons.1 (List.pairwise_map.1 hx.later)
    have hlater := List.pairwise_append.1 (List.pairwise_map.1 hy.later)
    -- The first of the one order depends on nothing before it in the other, nor that on it.
    have hcomm : ∀ b ∈ before, ∀ store : TensorStore α,
        (a.perform store).bind b.perform = (b.perform store).bind a.perform := by
      intro b hb
      have hab := hfirst.1 b (hrest.mem_iff.2 (List.mem_append_left _ hb))
      have hba := hlater.2.2 b hb a (List.mem_cons_self ..)
      exact perform_comm hba.1 hab.1 hab.2
    have hsublist : (before ++ after).Sublist (before ++ a :: after) :=
      (List.sublist_cons_self a after).append_left before
    have hmiddle : performAll (before ++ a :: after) store = performAll (a :: (before ++ after)) store :=
      foldlM_middle hcomm store
    rw [hmiddle, performAll_cons, performAll_cons]
    exact congrArg _ (funext fun store => ih hrest hx.tail (hy.sublist (hsublist.map wiring)) store)

end LayerNode

/-! ## Runs -/

namespace Graph

open LayerNode

variable {α : Type} [Scalar α] {nodes nodes' : List LayerNode} {n : LayerNode} {l : List Nat}
  {blocks : Blocks} {start : Context α} {id id' : TensorId} {e e' : Execution α}

/-- The operators with these indices. -/
def scheduled (nodes : List LayerNode) (l : List Nat) : List LayerNode := l.filterMap (nodes[·]?)

theorem scheduled_range (nodes : List LayerNode) : scheduled nodes (List.range nodes.length) = nodes := by
  unfold scheduled
  induction nodes with
  | nil => rfl
  | cons n nodes ih =>
    rw [List.length_cons, List.range_succ_eq_map, List.filterMap_cons, List.filterMap_map]
    simpa [Function.comp_def] using ih

theorem scheduled_perm (hlegal : Dataflow.Legal (nodes.map wiring) l) :
    (scheduled nodes l).Perm nodes := by
  have hperm := hlegal.perm.filterMap (nodes[·]?)
  rw [List.length_map] at hperm
  exact hperm.trans (.of_eq (scheduled_range nodes))

/-- The operators of a legal order are in order. -/
theorem scheduled_inOrder (houtputs : (nodes.map (·.output)).Nodup)
    (hlegal : Dataflow.Legal (nodes.map wiring) l) :
    Dataflow.InOrder ((scheduled nodes l).map wiring) where
  fresh w hw hmem := by
    obtain ⟨n, hn, rfl⟩ := List.mem_map.1 hw
    obtain ⟨i, -, hi⟩ := List.mem_filterMap.1 hn
    exact hlegal.not_feeds_self i (feeds hi hi hmem)
  later := by
    rw [List.pairwise_map]
    refine hlegal.pairwise.filterMap _ fun i j hij n hn m hm => ⟨fun hmem => ?_, fun heq => ?_⟩
    · exact hij.2 (feeds hm hn hmem)
    · exact hij.1 (index_eq houtputs hn hm heq)

/-- The turn of an operator does to the store what it performs. -/
theorem runOperator_ends (blocks : Blocks) (k : Nat) (n : LayerNode) (e : Execution α) :
    EndsFrom (runOperator blocks k n.toOperator) e
      (fun _ e' => n.perform e.context.store = some e'.context.store ∧
        e'.context.ledger = n.layer.account blocks n.images e.context.ledger)
      fun _ _ => n.perform e.context.store = none := by
  have hends := n.run_ends blocks e.context
  have hturned := runOperator_turned blocks k n e
  unfold EndsFrom
  generalize runOperator blocks k n.toOperator e = result at hturned
  cases hturned with
  | missing inputs first absent =>
    exact perform_of_absent (inputs ▸ List.mem_append_cons_self) absent
  | stopped present run => exact (hends.of_error run).1
  | ran present run => exact hends.of_ok run

/-- The totals once all these operators have run. -/
def totalsOf (nodes : List LayerNode) (totals : Totals) : Totals :=
  nodes.foldl (fun totals n => totals + n.layer.growth n.images) totals

theorem totalsOf_perm (hperm : nodes.Perm nodes') (totals : Totals) :
    totalsOf nodes totals = totalsOf nodes' totals :=
  hperm.foldl_eq' (fun _ _ _ _ _ => Totals.add_right_comm ..) totals

/-- Operators that take their turns do to the store what they perform. -/
theorem runAll_ends (hl : ∀ k ∈ l, ∃ n, nodes[k]? = some n) (blocks : Blocks) (last : Option TensorId)
    (e : Execution α) :
    EndsFrom ((ofNodes nodes).runAll blocks l last) e
      (fun answer e' => performAll (scheduled nodes l) e.context.store = some e'.context.store ∧
        e'.context.ledger.totals = totalsOf (scheduled nodes l) e.context.ledger.totals ∧
        answer = ((scheduled nodes l).getLast?.map (·.output)).or last)
      fun _ _ => performAll (scheduled nodes l) e.context.store = none := by
  induction l generalizing last e with
  | nil => exact ⟨rfl, rfl, rfl⟩
  | cons k l ih =>
    obtain ⟨n, hn⟩ := hl k (List.mem_cons_self ..)
    have hscheduled : scheduled nodes (k :: l) = n :: scheduled nodes l := List.filterMap_cons_some hn
    rw [hscheduled, performAll_cons, runAll_cons (getElem?_ofNodes hn)]
    refine ((runOperator_ends blocks k n e).mono (fun _ _ h => h) fun _ _ hnone => ?_).bind
      fun _ e₁ hran => ?_
    · rw [hnone]
      rfl
    · obtain ⟨hperform, hledger⟩ := hran
      rw [hperform, Option.bind_some]
      refine (ih (fun j hj => hl j (List.mem_cons_of_mem k hj)) (some n.output) e₁).mono
        (fun answer e' hrest => ?_) fun _ _ hnone => hnone
      obtain ⟨hall, htotals, hanswer⟩ := hrest
      refine ⟨hall, ?_, ?_⟩
      · rw [htotals, hledger, Layer.totals_account]
        rfl
      · rw [hanswer, List.getLast?_cons]
        cases (scheduled nodes l).getLast? <;> rfl

/-- The operators of a graph in an order that has everything behind its producers. -/
structure Arranged (nodes xs : List LayerNode) : Prop where
  perm : xs.Perm nodes
  inOrder : Dataflow.InOrder (xs.map wiring)

/-- A run that went through has performed the operators as arranged, and answered the last one. -/
structure Performed (xs : List LayerNode) (start : Context α) (id : TensorId) (e : Execution α) :
    Prop where
  store : performAll xs start.store = some e.context.store
  totals : e.context.ledger.totals = totalsOf xs start.ledger.totals
  last : xs.getLast?.map (·.output) = some id

/-- A run ends as its operators do when they are performed in some arrangement. -/
theorem run_ends (horder : (ofNodes nodes : Graph α).order = .ok l) (blocks : Blocks) (start : Context α) :
    ∃ xs, Arranged nodes xs ∧ EndsFrom ((ofNodes nodes).run blocks) ⟨start, []⟩ (Performed xs start)
      fun _ _ => xs = [] ∨ performAll xs start.store = none := by
  obtain ⟨houtputs, hlegal⟩ := legal_of_order horder
  have hindices : ∀ k ∈ l, ∃ n, nodes[k]? = some n := fun k hk => exists_of_legal hlegal hk
  refine ⟨scheduled nodes l, ⟨scheduled_perm hlegal, scheduled_inOrder houtputs hlegal⟩, ?_⟩
  rw [run_eq horder]
  refine ((runAll_ends hindices blocks none ⟨start, []⟩).mono (fun _ _ h => h)
    fun _ _ hnone => .inr hnone).bind fun last e hran => ?_
  obtain ⟨hall, htotals, hlast⟩ := hran
  rw [Option.or_none] at hlast
  cases last with
  | some id => exact ⟨hall, htotals, hlast.symm⟩
  | none => exact .inl (by simpa using hlast.symm)

theorem exists_performed (h : (ofNodes nodes).run blocks ⟨start, []⟩ = .ok id e) :
    ∃ xs, Arranged nodes xs ∧ Performed xs start id e := by
  cases horder : (ofNodes nodes : Graph α).order with
  | error cause =>
    rw [run_of_unordered horder] at h
    cases h
  | ok l =>
    obtain ⟨xs, hxs, hends⟩ := run_ends horder blocks start
    exact ⟨xs, hxs, hends.of_ok h⟩

/-- What can be performed in one arrangement goes through in every graph of the same operators. -/
theorem Performed.run {xs : List LayerNode} (h : Performed xs start id e) (hxs : Arranged nodes xs)
    (blocks : Blocks) : ∃ id e, (ofNodes nodes).run blocks ⟨start, []⟩ = .ok id e := by
  obtain ⟨l, hl⟩ := Dataflow.order_of_perm (hxs.perm.map wiring) (Dataflow.order_eq_ok hxs.inOrder)
  rw [← order_ofNodes (α := α)] at hl
  obtain ⟨ys, hys, hends⟩ := run_ends hl blocks start
  have hstore := performAll_perm (hys.perm.trans hxs.perm.symm) hys.inOrder hxs.inOrder start.store
  rw [h.store] at hstore
  cases hrun : (ofNodes nodes).run blocks ⟨start, []⟩ with
  | ok id e => exact ⟨id, e, rfl⟩
  | error failure e' =>
    rcases hends.of_error hrun with rfl | hnone
    · -- There is an operator that was answered, so the graph is not empty.
      have hlast := h.last
      rw [(hys.perm.trans hxs.perm.symm).nil_eq.symm] at hlast
      cases hlast
    · rw [hnone] at hstore
      cases hstore

theorem Performed.agree {xs ys : List LayerNode} (h : Performed xs start id e)
    (h' : Performed ys start id' e') (hxs : Arranged nodes xs) (hys : Arranged nodes ys) :
    e.context.store = e'.context.store ∧ e.context.ledger.totals = e'.context.ledger.totals := by
  have hperm : xs.Perm ys := hxs.perm.trans hys.perm.symm
  constructor
  · apply Option.some.inj
    rw [← h.store, ← h'.store]
    exact performAll_perm hperm hxs.inOrder hys.inOrder start.store
  · rw [h.totals, h'.totals]
    exact totalsOf_perm hperm _

/-- Nobody reads the last operator, so it is answered when it is the only such operator. -/
theorem Performed.eq_output {xs : List LayerNode} (h : Performed xs start id e) (hxs : Arranged nodes xs)
    {sink : LayerNode} (hsink : ∀ n ∈ nodes, (∀ m ∈ nodes, n.output ∉ m.inputs) → n = sink) :
    id = sink.output := by
  obtain ⟨last, hlast, rfl⟩ := Option.map_eq_some_iff.1 h.last
  obtain ⟨before, rfl⟩ := List.getLast?_eq_some_iff.1 hlast
  have hlater := List.pairwise_append.1 (List.pairwise_map.1 hxs.inOrder.later)
  refine congrArg LayerNode.output (hsink last (hxs.perm.mem_iff.1 ?_) fun m hm => ?_)
  · exact List.mem_append_right _ (List.mem_singleton_self last)
  · rcases List.mem_append.1 (hxs.perm.mem_iff.2 hm) with hm | hm
    · exact (hlater.2.2 m hm last (List.mem_singleton_self last)).1
    · rw [List.mem_singleton.1 hm]
      exact hxs.inOrder.fresh _ (List.mem_map_of_mem (List.mem_append_right _ (List.mem_singleton_self last)))

/-- Layers that are added in another order run alike, on the same tensors and the same ledger. Either both
runs go through or neither does; they leave one store and the same totals, and both answer the only operator
that nobody reads, if there is just one. -/
theorem run_perm (hperm : nodes.Perm nodes') (blocks : Blocks) (start : Context α) :
    ((∃ id e, (ofNodes nodes).run blocks ⟨start, []⟩ = .ok id e) ↔
      ∃ id e, (ofNodes nodes').run blocks ⟨start, []⟩ = .ok id e) ∧
    ∀ id e id' e', (ofNodes nodes).run blocks ⟨start, []⟩ = .ok id e →
      (ofNodes nodes').run blocks ⟨start, []⟩ = .ok id' e' →
      e.context.store = e'.context.store ∧ e.context.ledger.totals = e'.context.ledger.totals ∧
      ∀ sink ∈ nodes, (∀ n ∈ nodes, (∀ m ∈ nodes, n.output ∉ m.inputs) ↔ n = sink) →
        id = sink.output ∧ id' = sink.output := by
  refine ⟨⟨?_, ?_⟩, ?_⟩
  · rintro ⟨id, e, h⟩
    obtain ⟨xs, hxs, hperformed⟩ := exists_performed h
    exact hperformed.run ⟨hxs.perm.trans hperm, hxs.inOrder⟩ blocks
  · rintro ⟨id, e, h⟩
    obtain ⟨xs, hxs, hperformed⟩ := exists_performed h
    exact hperformed.run ⟨hxs.perm.trans hperm.symm, hxs.inOrder⟩ blocks
  · intro id e id' e' h h'
    obtain ⟨xs, hxs, hperformed⟩ := exists_performed h
    obtain ⟨ys, hys, hperformed'⟩ := exists_performed h'
    have hys' : Arranged nodes ys := ⟨hys.perm.trans hperm.symm, hys.inOrder⟩
    obtain ⟨hstore, htotals⟩ := hperformed.agree hperformed' hxs hys'
    refine ⟨hstore, htotals, fun sink _ hsink => ?_⟩
    have honly : ∀ n ∈ nodes, (∀ m ∈ nodes, n.output ∉ m.inputs) → n = sink := fun n hn => (hsink n hn).1
    exact ⟨hperformed.eq_output hxs honly, hperformed'.eq_output hys' honly⟩

/-- Two layers that may come in either order, and one that reads what both make: its input is pooled from one
tensor, and its weights from another. -/
def joined : List LayerNode :=
  let pool (rows : Nat) : Layer := {
    name := "pool"
    kind := .pooling
    inputs := ⟨rows, 1, 1, 7⟩
    outputs := ⟨rows, 1, 1, 7⟩
    weights := .nothing
    fieldSize := 1
    stride := 1
    border := 0
    activation := .identity
    pooling := .max }
  [⟨pool 1, 1, ⟨0⟩, none, ⟨2⟩⟩, ⟨pool 2, 1, ⟨1⟩, none, ⟨3⟩⟩,
    ⟨.innerProduct "join" ⟨1, 1, 1, 7⟩ 1 .identity, 1, ⟨2⟩, some ⟨3⟩, ⟨4⟩⟩]

/-- A store with the two tensors that are pooled, and room for the others. -/
def joinedStart : Context Int where
  store := ⟨#[some ⟨"image", ⟨1, 1, 1, 7⟩, 1, #[5, 0, 0, 0, 0, 0, 0, 0], rfl⟩,
    some ⟨"weights", ⟨2, 1, 1, 7⟩, 1, #[3, 0, 0, 0, 0, 0, 0, 0, 4, 0, 0, 0, 0, 0, 0, 0], rfl⟩,
    none, none, none]⟩

theorem run_perm_joined :
    joined.Perm joined.reverse ∧ ∃ id e id' e',
      (@ofNodes Int integers joined).run {} ⟨joinedStart, []⟩ = .ok id e ∧
      (@ofNodes Int integers joined.reverse).run {} ⟨joinedStart, []⟩ = .ok id' e' ∧
      e.context.store = e'.context.store ∧ e.context.ledger.totals = e'.context.ledger.totals ∧
      id = ⟨4⟩ ∧ id' = ⟨4⟩ := by
  have hperm : joined.Perm joined.reverse := joined.reverse_perm.symm
  obtain ⟨hcompletes, hagree⟩ := @run_perm Int integers joined joined.reverse hperm {} joinedStart
  have hfirst : (match (@ofNodes Int integers joined).run {} ⟨joinedStart, []⟩ with
      | .ok _ _ => true
      | .error _ _ => false) = true := by decide +kernel
  cases hrun : (@ofNodes Int integers joined).run {} ⟨joinedStart, []⟩ with
  | error failure e =>
    rw [hrun] at hfirst
    cases hfirst
  | ok id e =>
    obtain ⟨id', e', hrun'⟩ := hcompletes.1 ⟨id, e, hrun⟩
    obtain ⟨hstore, htotals, hsink⟩ := hagree id e id' e' hrun hrun'
    have hjoin := hsink joined[2] (by decide) (by decide)
    exact ⟨hperm, id, e, id', e', rfl, hrun', hstore, htotals, hjoin.1, hjoin.2⟩

end Graph

end ForwardPass

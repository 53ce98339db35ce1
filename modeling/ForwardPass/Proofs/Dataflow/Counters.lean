import ForwardPass.Proofs.Dataflow.Greedy

/-!
# Counters

The order never looks at what waits. It reads off its tables who is ready, and these count every input, also
when an operator reads one tensor twice. `Counted` is what the tables hold while some operators wait; each turn
keeps it. So the counters take operators as `Takes` says.
-/

namespace ForwardPass.Dataflow

variable {w : Wiring} {ws : List Wiring} {producer : List (TensorId × Nat)} {i j k : Nat}

/-! ## Producers -/

/-- The first operator whose output an earlier one produces too, as the defect that names both. -/
def Clash (ws : List Wiring) (defect : GraphDefect) : Prop :=
  ∃ i j v w, i < j ∧ ws[i]? = some v ∧ ws[j]? = some w ∧ v.output = w.output ∧
    ((ws.take j).map (·.output)).Nodup ∧ defect = .twoProducers w.output v.name w.name

theorem Clash.not_nodup {defect : GraphDefect} (h : Clash ws defect) : ¬ (ws.map (·.output)).Nodup := by
  obtain ⟨i, j, v, w, hlt, hv, hw, houtput, -, -⟩ := h
  intro hnodup
  have hj : j < (ws.map (·.output)).length := by
    rw [List.length_map]
    exact (List.getElem?_eq_some_iff.1 hw).1
  have hij : (ws.map (·.output))[i]? = (ws.map (·.output))[j]? := by simp [hv, hw, houtput]
  exact Nat.ne_of_lt hlt ((List.getElem?_inj (Nat.lt_trans hlt hj) hnodup).1 hij)

/-- A list in which each key stands once is looked up by membership. -/
theorem lookup_eq_some_iff_mem {α β : Type} [BEq α] [LawfulBEq α] {l : List (α × β)}
    (h : (l.map Prod.fst).Nodup) {a : α} {b : β} : l.lookup a = some b ↔ (a, b) ∈ l := by
  induction l with
  | nil => simp
  | cons x l ih =>
    obtain ⟨key, value⟩ := x
    obtain ⟨hnew, h⟩ := List.nodup_cons.1 h
    by_cases heq : a = key
    · subst heq
      have hnone : (a, b) ∉ l := by
        intro hmem
        exact hnew (List.mem_map.2 ⟨_, hmem, rfl⟩)
      simp [hnone, eq_comm]
    · have hkey : (a == key) = false := beq_eq_false_iff_ne.2 heq
      simp [List.lookup_cons, hkey, heq, ih h]

/-- Operators under the tensors they produce, the last one first. -/
def entries (ws : List Wiring) : List (TensorId × Nat) :=
  (ws.zipIdx.map fun x => (x.1.output, x.2)).reverse

theorem entries_concat (ws : List Wiring) (w : Wiring) :
    entries (ws ++ [w]) = (w.output, ws.length) :: entries ws := by
  simp [entries, List.zipIdx_append]

theorem map_fst_entries (ws : List Wiring) : (entries ws).map Prod.fst = (ws.map (·.output)).reverse := by
  rw [entries, List.map_reverse, List.map_map, ← List.zipIdx_map_fst 0 ws, List.map_map]
  simp [Function.comp_def]

/-- With one producer for each tensor, a tensor is found under its producer. -/
theorem lookup_entries (h : (ws.map (·.output)).Nodup) {id : TensorId} :
    (entries ws).lookup id = some i ↔ ∃ w, ws[i]? = some w ∧ w.output = id := by
  have hkeys : ((entries ws).map Prod.fst).Nodup := by
    rw [map_fst_entries]
    exact List.nodup_reverse.2 h
  rw [lookup_eq_some_iff_mem hkeys]
  simp [entries, List.mem_zipIdx_iff_getElem?]

theorem not_mem_outputs (h : (entries ws).lookup w.output = none) : w.output ∉ ws.map (·.output) := by
  rw [← List.mem_reverse, ← map_fst_entries]
  intro hmem
  obtain ⟨x, hx, heq⟩ := List.mem_map.1 hmem
  have hne := List.lookup_eq_none_iff.1 h x hx
  simp [heq] at hne

/-- Behind operators with different outputs, the rest are entered one by one up to the first clash. -/
theorem foldlM_addProducer {done todo : List Wiring} (hws : done ++ todo = ws)
    (hdone : (done.map (·.output)).Nodup) :
    ((ws.map (·.output)).Nodup ∧
      (todo.zipIdx done.length).foldlM (addProducer ws) (entries done) = .ok (entries ws)) ∨
    ∃ defect, Clash ws defect ∧
      (todo.zipIdx done.length).foldlM (addProducer ws) (entries done) = .error (.invalidGraph defect) := by
  induction todo generalizing done with
  | nil =>
    rw [List.append_nil] at hws
    subst hws
    exact .inl ⟨hdone, rfl⟩
  | cons w todo ih =>
    rw [List.zipIdx_cons, List.foldlM_cons, addProducer]
    cases hlookup : (entries done).lookup w.output with
    | none =>
      have hnodup : ((done ++ [w]).map (·.output)).Nodup := by
        rw [List.map_append, List.map_singleton, ← List.concat_eq_append, List.nodup_concat]
        exact ⟨not_mem_outputs hlookup, hdone⟩
      have hih := ih (by simpa using hws) hnodup
      rw [entries_concat, List.length_append] at hih
      exact hih
    | some prev =>
      obtain ⟨v, hv, houtput⟩ := (lookup_entries hdone).1 hlookup
      have hprev : prev < done.length := (List.getElem?_eq_some_iff.1 hv).1
      have hv' : ws[prev]? = some v := by rw [← hws, List.getElem?_append_left hprev, hv]
      refine .inr ⟨.twoProducers w.output v.name w.name, ?_, ?_⟩
      · refine ⟨prev, done.length, v, w, hprev, hv', ?_, houtput, ?_, rfl⟩
        · simp [← hws]
        · simpa [← hws] using hdone
      · simp [hv']
        rfl

/-- The producers are told apart, or two of them come together. -/
theorem producers_cases (ws : List Wiring) :
    ((ws.map (·.output)).Nodup ∧ producers ws = .ok (entries ws)) ∨
    ∃ defect, Clash ws defect ∧ producers ws = .error (.invalidGraph defect) :=
  @foldlM_addProducer ws [] ws rfl List.nodup_nil

/-! ## Links -/

/-- The inputs that operators produce, each as its producer and its reader. -/
def edges (producer : List (TensorId × Nat)) (ws : List Wiring) : List (Nat × Nat) :=
  ws.zipIdx.flatMap fun x => x.1.inputs.filterMap fun id => (producer.lookup id).map (·, x.2)

theorem mem_edges (h : (ws.map (·.output)).Nodup) : (i, j) ∈ edges (entries ws) ws ↔ Feeds ws i j := by
  simp only [edges, List.mem_flatMap, List.mem_filterMap, Option.map_eq_some_iff, Prod.exists, Prod.mk.injEq,
    List.mem_zipIdx_iff_getElem?, lookup_entries h, Feeds]
  constructor
  · rintro ⟨w, _, hw, id, hid, _, ⟨v, hv, rfl⟩, rfl, rfl⟩
    exact ⟨v, w, hv, hw, hid⟩
  · rintro ⟨v, w, hv, hw, hid⟩
    exact ⟨w, j, hw, v.output, hid, i, ⟨v, hv, rfl⟩, rfl, rfl⟩

/-- Enter one edge. -/
def Links.tie (links : Links) (edge : Nat × Nat) : Links where
  readers := links.readers.modify edge.1 (· ++ [edge.2])
  missing := links.missing.modify edge.2 (· + 1)

theorem link_eq (producer : List (TensorId × Nat)) (ws : List Wiring) :
    link producer ws = (edges producer ws).foldl Links.tie
      { readers := Array.replicate ws.length [], missing := Array.replicate ws.length 0 } := by
  rw [link, edges, List.foldl_flatMap]
  congr 1
  funext links ⟨w, idx⟩
  rw [List.foldl_filterMap]
  dsimp only
  congr 1
  funext links id
  rw [Links.add]
  cases producer.lookup id <;> rfl

theorem readers_foldl_tie (es : List (Nat × Nat)) (links : Links) :
    (es.foldl Links.tie links).readers[i]? =
      links.readers[i]?.map (· ++ (es.filter (·.1 = i)).map (·.2)) := by
  induction es generalizing links with
  | nil => simp
  | cons e es ih =>
    rw [List.foldl_cons, ih, Links.tie, Array.getElem?_modify]
    by_cases h : e.1 = i <;> simp [h, Function.comp_def]

theorem missing_foldl_tie (es : List (Nat × Nat)) (links : Links) :
    (es.foldl Links.tie links).missing[j]? = links.missing[j]?.map (· + es.countP (·.2 = j)) := by
  induction es generalizing links with
  | nil => simp
  | cons e es ih =>
    rw [List.foldl_cons, ih, Links.tie, Array.getElem?_modify]
    by_cases h : e.2 = j <;> simp [h, Function.comp_def, Nat.add_assoc, Nat.add_comm 1]

/-- Each operator is listed as a reader once for every input of it. -/
theorem readers_link (h : i < ws.length) :
    ∃ readers, (link producer ws).readers[i]? = some readers ∧
      ∀ j, readers.count j = (edges producer ws).count (i, j) := by
  rw [link_eq, readers_foldl_tie]
  refine ⟨((edges producer ws).filter (·.1 = i)).map (·.2), by simp [h], ?_⟩
  intro j
  rw [List.count_eq_countP, List.countP_map, List.countP_filter, List.count_eq_countP]
  congr 1
  funext e
  rw [Bool.eq_iff_iff]
  simp [Prod.ext_iff, and_comm]

/-- Each counter starts at the number of inputs that others produce. -/
theorem missing_link :
    (link producer ws).missing[j]? =
      if j < ws.length then some ((edges producer ws).countP (·.2 = j)) else none := by
  rw [link_eq, missing_foldl_tie, Array.getElem?_replicate]
  split <;> simp

/-! ## Releases -/

theorem mem_insertIndex {l : List Nat} : j ∈ insertIndex i l ↔ j = i ∨ j ∈ l := by
  induction l with
  | nil => simp [insertIndex]
  | cons k l ih =>
    simp only [insertIndex]
    split
    · simp
    split
    · simp_all
    · simp [ih, or_left_comm]

theorem pairwise_insertIndex {l : List Nat} (h : l.Pairwise (· < ·)) :
    (insertIndex i l).Pairwise (· < ·) := by
  induction l with
  | nil => simp [insertIndex]
  | cons k l ih =>
    obtain ⟨hk, hl⟩ := List.pairwise_cons.1 h
    simp only [insertIndex]
    split
    · next hlt => exact List.pairwise_cons.2 ⟨by grind, h⟩
    split
    · exact h
    · refine List.pairwise_cons.2 ⟨?_, ih hl⟩
      intro m hm
      rcases mem_insertIndex.1 hm with rfl | hm
      · omega
      · exact hk m hm

namespace Frontier

variable {s : Frontier} {ks : List Nat}

/-- A release counts one input of its reader; at zero it changes nothing. -/
theorem missing_release :
    (s.release k).missing[j]? = s.missing[j]?.map fun left => left - if k = j then 1 else 0 := by
  unfold release
  split
  · next left hleft =>
    rw [Array.getElem?_setIfInBounds]
    by_cases hk : k = j
    · subst hk
      obtain ⟨hlt, hget⟩ := Array.getElem?_eq_some_iff.1 hleft
      simp [hlt, hget]
    · simp [hk]
  · next hnone =>
    by_cases hk : k = j
    · subst hk
      cases hleft : s.missing[k]? with
      | none => rfl
      | some left =>
        cases left with
        | zero => simp
        | succ left => exact (hnone left hleft).elim
    · simp [hk]

theorem missing_foldl_release :
    (ks.foldl release s).missing[j]? = s.missing[j]?.map (· - ks.count j) := by
  induction ks generalizing s with
  | nil => simp
  | cons k ks ih =>
    rw [List.foldl_cons, ih, missing_release]
    simp [List.count_cons, Function.comp_def, Nat.sub_sub, Nat.add_comm]

/-- The last input that is missing makes an operator ready. -/
theorem mem_ready_release : j ∈ (s.release k).ready ↔ j ∈ s.ready ∨ k = j ∧ s.missing[j]? = some 1 := by
  unfold release
  grind [mem_insertIndex]

/-- An operator gets ready when it comes up at least as often as it misses an input. -/
theorem mem_ready_foldl_release :
    j ∈ (ks.foldl release s).ready ↔
      j ∈ s.ready ∨ ∃ left, s.missing[j]? = some left ∧ 0 < left ∧ left ≤ ks.count j := by
  induction ks generalizing s with
  | nil => grind
  | cons k ks ih =>
    rw [List.foldl_cons, ih, missing_release, mem_ready_release]
    grind

theorem pairwise_ready_foldl_release (h : s.ready.Pairwise (· < ·)) :
    (ks.foldl release s).ready.Pairwise (· < ·) := by
  induction ks generalizing s with
  | nil => exact h
  | cons k ks ih =>
    refine ih ?_
    unfold release
    split
    · split
      · exact pairwise_insertIndex h
      · exact h
    · exact h

end Frontier

/-! ## The loop -/

/-- How many inputs of operator `j` come from operators that wait. -/
def awaited (es : List (Nat × Nat)) (waiting : List Nat) (j : Nat) : Nat :=
  es.countP fun e => e.2 = j ∧ e.1 ∈ waiting

section Awaited

variable {es : List (Nat × Nat)} {waiting before after rest readers : List Nat} {next n : Nat} {s : Frontier}

theorem awaited_eq_zero : awaited es waiting j = 0 ↔ ∀ i ∈ waiting, (i, j) ∉ es := by
  rw [awaited, List.countP_eq_zero]
  constructor
  · intro h i hi hmem
    simpa [hi] using h (i, j) hmem
  · rintro h ⟨i, j'⟩ hmem
    simp only [decide_eq_true_eq]
    rintro ⟨rfl, hi⟩
    exact h i hi hmem

/-- Of the inputs that operator `j` waits for, those from `next` are as many as there are edges between them. -/
theorem awaited_middle (h : next ∉ before ++ after) :
    awaited es (before ++ next :: after) j = awaited es (before ++ after) j + es.count (next, j) := by
  simp only [awaited]
  induction es with
  | nil => rfl
  | cons e es ih =>
    rw [List.countP_cons, List.countP_cons, List.count_cons, ih]
    grind

/-- What the tables hold while some of the operators wait. -/
structure Counted (es : List (Nat × Nat)) (n : Nat) (waiting : List Nat) (s : Frontier) : Prop where
  bounded : ∀ j ∈ waiting, j < n
  /-- Every counter holds the inputs that are still to come. -/
  missing : ∀ j, s.missing[j]? = if j < n then some (awaited es waiting j) else none
  /-- Those are ready that wait for nothing. -/
  ready : ∀ j, j ∈ s.ready ↔ j ∈ waiting ∧ awaited es waiting j = 0
  ascending : s.ready.Pairwise (· < ·)
  /-- What ran had all its inputs. -/
  behind : ∀ e ∈ es, e.1 ∈ waiting → e.2 ∈ waiting

/-- What misses an input waits. -/
theorem Counted.mem_of_awaited (h : Counted es n waiting s) (hpos : awaited es waiting j ≠ 0) :
    j ∈ waiting := by
  rw [Ne, awaited_eq_zero] at hpos
  push Not at hpos
  obtain ⟨i, hi, hmem⟩ := hpos
  exact h.behind (i, j) hmem hi

section Take

variable (h : Counted es n (before ++ next :: after) s) (hready : s.ready = next :: rest)
  (hnew : next ∉ before ++ after) (hreaders : ∀ j, readers.count j = es.count (next, j))

include h hready

theorem Counted.awaited_next : awaited es (before ++ next :: after) next = 0 :=
  ((h.ready next).1 (by simp [hready])).2

include hnew hreaders

/-- The readers of an operator that runs get ready when they waited for it alone. -/
theorem Counted.mem_ready_take :
    j ∈ (readers.foldl Frontier.release { s with ready := rest }).ready ↔
      j ∈ before ++ after ∧ awaited es (before ++ after) j = 0 := by
  have hnext := h.awaited_next hready
  have hj := h.ready j
  have hwaits := h.mem_of_awaited (j := j)
  have hsorted := h.ascending
  rw [hready] at hj hsorted
  have hrest : next ∉ rest := fun hmem => Nat.lt_irrefl _ ((List.pairwise_cons.1 hsorted).1 next hmem)
  have hbound := h.bounded j
  have hsplit : awaited es (before ++ next :: after) j = awaited es (before ++ after) j + es.count (next, j) :=
    awaited_middle hnew
  rw [Frontier.mem_ready_foldl_release, h.missing, hreaders]
  rw [mem_middle] at hj hwaits hbound
  by_cases heq : j = next
  · subst heq
    simp [hnew, hrest, hnext]
  simp only [List.mem_cons, heq, false_or] at hj hwaits hbound
  constructor
  · rintro (hmem | ⟨left, hleft, hpos, hle⟩)
    · obtain ⟨hmem, hzero⟩ := hj.1 hmem
      exact ⟨hmem, by omega⟩
    · split at hleft
      · cases hleft
        exact ⟨hwaits (by omega), by omega⟩
      · cases hleft
  · rintro ⟨hmem, hzero⟩
    by_cases hall : awaited es (before ++ next :: after) j = 0
    · exact .inl (hj.2 ⟨hmem, hall⟩)
    · exact .inr ⟨_, if_pos (hbound hmem), by omega, by omega⟩

/-- Taking an operator that is ready leaves the tables as they are to be for the others. -/
theorem Counted.take :
    Counted es n (before ++ after) (readers.foldl Frontier.release { s with ready := rest }) := by
  have hsorted : (next :: rest).Pairwise (· < ·) := hready ▸ h.ascending
  refine ⟨fun j hj => h.bounded j ((sublist_middle ..).subset hj), fun j => ?_,
    fun j => h.mem_ready_take hready hnew hreaders, ?_, ?_⟩
  · rw [Frontier.missing_foldl_release, h.missing, hreaders, awaited_middle hnew]
    split <;> simp
  · exact Frontier.pairwise_ready_foldl_release (List.pairwise_cons.1 hsorted).2
  · intro e he hwaits
    have hmem := h.behind e he ((sublist_middle ..).subset hwaits)
    rcases mem_middle.1 hmem with heq | hmem
    · have hnone := awaited_eq_zero.1 (h.awaited_next hready) e.1 ((sublist_middle ..).subset hwaits)
      exact (hnone (heq ▸ he)).elim
    · exact hmem

end Take

/-- No counter is asked for more than it holds: before each release an input is still to come. -/
theorem Counted.missing_pos {front back : List Nat} {reader : Nat}
    (h : Counted es n (before ++ next :: after) s) (hnew : next ∉ before ++ after)
    (hreaders : ∀ j, (front ++ reader :: back).count j = es.count (next, j)) :
    ∃ left, (front.foldl Frontier.release { s with ready := rest }).missing[reader]? = some (left + 1) := by
  have hcount := hreaders reader
  simp only [List.count_append, List.count_cons_self] at hcount
  have hsplit : awaited es (before ++ next :: after) reader =
      awaited es (before ++ after) reader + es.count (next, reader) := awaited_middle hnew
  have hreader : reader < n := h.bounded reader (h.mem_of_awaited (by omega))
  rw [Frontier.missing_foldl_release, h.missing, if_pos hreader]
  refine ⟨awaited es (before ++ next :: after) reader - front.count reader - 1, congrArg some ?_⟩
  dsimp only
  omega

end Awaited

/-- The tables fit operators when they hold every edge as often as it is there. -/
structure Tabled (ws : List Wiring) (es : List (Nat × Nat)) (readers : Array (List Nat)) : Prop where
  edge : ∀ i j, (i, j) ∈ es ↔ Feeds ws i j
  readers : ∀ i < ws.length, ∃ ks, readers[i]? = some ks ∧ ∀ j, ks.count j = es.count (i, j)

theorem Tabled.free_iff {es : List (Nat × Nat)} {readers : Array (List Nat)} {waiting : List Nat}
    (h : Tabled ws es readers) : Free ws waiting j ↔ awaited es waiting j = 0 := by
  rw [awaited_eq_zero]
  simp only [Free, h.edge]

section Turns

variable {es : List (Nat × Nat)} {readers : Array (List Nat)} {waiting rest : List Nat} {next : Nat}
  {s s' : Frontier}

/-- What the tables hold in a run: they fit the operators that wait. -/
structure Running (ws : List Wiring) (es : List (Nat × Nat)) (waiting : List Nat) (s : Frontier) : Prop where
  counted : Counted es ws.length waiting s
  sorted : waiting.Pairwise (· < ·)

/-- A turn takes the first operator that is free out of those that wait. -/
theorem Running.turn (h : Running ws es waiting s) (htabled : Tabled ws es readers)
    (hready : s.ready = next :: rest) :
    ∃ before after, waiting = before ++ next :: after ∧
      (∀ i ∈ before, ¬ Free ws waiting i) ∧ Free ws waiting next ∧
      Running ws es (before ++ after)
        ((readers[next]?.getD []).foldl Frontier.release { s with ready := rest }) := by
  obtain ⟨hwaits, hzero⟩ := (h.counted.ready next).1 (by simp [hready])
  obtain ⟨before, after, rfl⟩ := List.append_of_mem hwaits
  obtain ⟨ks, hks, hcount⟩ := htabled.readers next (h.counted.bounded next hwaits)
  refine ⟨before, after, rfl, ?_, htabled.free_iff.2 hzero, ?_, h.sorted.sublist (sublist_middle ..)⟩
  · -- What is ready is ascending, so nothing in front of the first one is.
    intro i hi hfree
    have hmem := (h.counted.ready i).2 ⟨List.mem_append_left _ hi, htabled.free_iff.1 hfree⟩
    have hlt : i < next := (List.pairwise_append.1 h.sorted).2.2 i hi next (List.mem_cons_self ..)
    have hascending := h.counted.ascending
    rw [hready] at hmem hascending
    rcases List.mem_cons.1 hmem with heq | hmem
    · omega
    · have := (List.pairwise_cons.1 hascending).1 i hmem
      omega
  · rw [hks, Option.getD_some]
    exact h.counted.take hready (not_mem_of_pairwise_middle h.sorted) hcount

/-- The counters take operators as they would be taken by looking at all that wait. -/
theorem Running.takes (h : Running ws es waiting s) (htabled : Tabled ws es readers) :
    ∃ rest, Takes ws waiting (takeAll readers s) rest := by
  fun_induction takeAll readers s generalizing waiting with
  | case1 s hready =>
    refine ⟨waiting, .stuck fun i hi hfree => ?_⟩
    have hmem := (h.counted.ready i).2 ⟨hi, htabled.free_iff.1 hfree⟩
    rw [hready] at hmem
    exact List.not_mem_nil hmem
  | case2 s next rest hready ih =>
    obtain ⟨before, after, rfl, hblocked, hfree, hnext⟩ := h.turn htabled hready
    obtain ⟨left, hothers⟩ := ih hnext
    exact ⟨left, .take hblocked hfree hothers⟩

/-- One turn of the loop. -/
inductive Turn (readers : Array (List Nat)) : Frontier → Frontier → Prop
  | take {s : Frontier} {next : Nat} {rest : List Nat} (ready : s.ready = next :: rest) :
    Turn readers s ((readers[next]?.getD []).foldl Frontier.release { s with ready := rest })

theorem Running.turns (h : Running ws es waiting s) (htabled : Tabled ws es readers)
    (hturns : Relation.ReflTransGen (Turn readers) s s') : ∃ waiting', Running ws es waiting' s' := by
  induction hturns with
  | refl => exact ⟨waiting, h⟩
  | tail _ hturn ih =>
    obtain ⟨between, hbetween⟩ := ih
    cases hturn with
    | take hready =>
      obtain ⟨before, after, -, -, -, hnext⟩ := hbetween.turn htabled hready
      exact ⟨before ++ after, hnext⟩

end Turns

section Start

variable (h : (ws.map (·.output)).Nodup)

include h

theorem tabled_link : Tabled ws (edges (entries ws) ws) (link (entries ws) ws).readers where
  edge _ _ := mem_edges h
  readers _ hi := readers_link hi

/-- Before the first turn all operators wait. -/
theorem running_start :
    Running ws (edges (entries ws) ws) (List.range ws.length) (.start (link (entries ws) ws) ws.length) := by
  have hall (e : Nat × Nat) (he : e ∈ edges (entries ws) ws) : e.1 < ws.length ∧ e.2 < ws.length :=
    ((mem_edges h).1 he).lt_length
  have hawaited (j : Nat) : awaited (edges (entries ws) ws) (List.range ws.length) j =
      (edges (entries ws) ws).countP (·.2 = j) := by
    refine List.countP_congr fun e he => ?_
    simp [(hall e he).1]
  refine ⟨⟨fun j hj => List.mem_range.1 hj, fun j => ?_, fun j => ?_, ?_, fun e he _ => ?_⟩,
    List.pairwise_lt_range⟩
  · rw [Frontier.start, hawaited, missing_link]
  · rw [Frontier.start, List.mem_filter, hawaited, missing_link]
    by_cases hj : j < ws.length <;> simp [hj]
  · exact List.pairwise_lt_range.filter _
  · exact List.mem_range.2 (hall e he).2

/-- In no turn does a counter fall below zero: whenever an operator is released, its counter holds an input. -/
theorem release_finds_input {s : Frontier} {next reader : Nat} {rest front back : List Nat}
    (hturns : Relation.ReflTransGen (Turn (link (entries ws) ws).readers)
      (.start (link (entries ws) ws) ws.length) s)
    (hready : s.ready = next :: rest)
    (hreaders : (link (entries ws) ws).readers[next]? = some (front ++ reader :: back)) :
    ∃ left, (front.foldl Frontier.release { s with ready := rest }).missing[reader]? = some (left + 1) := by
  obtain ⟨waiting, hrunning⟩ := (running_start h).turns (tabled_link h) hturns
  obtain ⟨before, after, rfl, -, -, -⟩ := hrunning.turn (tabled_link h) hready
  obtain ⟨ks, hks, hcount⟩ := readers_link (hrunning.counted.bounded next (by simp))
  rw [hreaders] at hks
  cases hks
  exact hrunning.counted.missing_pos (not_mem_of_pairwise_middle hrunning.sorted) hcount

end Start

end ForwardPass.Dataflow

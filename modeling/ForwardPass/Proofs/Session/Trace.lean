import ForwardPass.Proofs.Dataflow.Operator
import ForwardPass.Proofs.Exact
import ForwardPass.Proofs.Session.History
import ForwardPass.Proofs.Text.Quoted

/-!
# The trace is the record list

A trace is read back line by line, and what is read are the records of the session: after every call, whether
it gave a result or was stopped, none is missing and none is there twice. The invariant says that all records
are in the trace already; a record that is taken is written before the call ends.
-/

namespace ForwardPass

open Scan

/-! ## Lines -/

namespace Record

/-- A number, and behind it the given text. -/
def numberBefore (mark : String) : Scan Nat := do
  let digits ← takeWhile Char.isDigit
  text mark
  return numberOfDigits 10 digits

/-- A record as a trace has it. -/
def scan : Scan Record := do
  text "\x7b\"step\":"
  let step ← numberBefore ",\"action\":"
  let action ← Settings.Json.string
  text ",\"subject\":"
  let subject ← Settings.Json.string
  text "\x7d"
  return ⟨step, action, subject⟩

/-- The record on a line of a trace. -/
def ofLine? (line : List Char) : Option Record := whole? scan line

/-- The digits of a number are read as the number. -/
theorem numberOfDigits_toDigits (n : Nat) : numberOfDigits 10 (Nat.toDigits 10 n) = n := by
  have hdigits : ∀ c ∈ Nat.toDigits 10 n, c.isDigit = true := fun c hc =>
    Nat.isDigit_of_mem_toDigits (by decide) (by decide) hc
  have hread : numberOfDigits 10 (Nat.toDigits 10 n) = Nat.ofDigitChars 10 (Nat.toDigits 10 n) 0 := by
    unfold numberOfDigits Nat.ofDigitChars
    refine foldl_congr (fun c hc sum => ?_) 0
    rw [digitValue, if_pos (hdigits c hc)]
  rw [hread, Nat.ofDigitChars_toDigits (by decide) (by decide)]

/-- A text that does not go on with a digit ends the number. -/
theorem recognises_numberBefore (n : Nat) {mark : String} {c : Char} {cs : List Char}
    (hmark : mark.toList = c :: cs) (hc : c.isDigit = false) :
    (numberBefore mark).Recognises (Nat.toDigits 10 n ++ mark.toList) n := by
  intro rest
  have hdigits : ∀ c ∈ Nat.toDigits 10 n, c.isDigit = true := fun c hc =>
    Nat.isDigit_of_mem_toDigits (by decide) (by decide) hc
  have htake : (Nat.toDigits 10 n ++ (mark.toList ++ rest)).takeWhile Char.isDigit = Nat.toDigits 10 n := by
    rw [List.takeWhile_append_of_pos hdigits, hmark, List.cons_append,
      List.takeWhile_cons_of_neg (by simp [hc]), List.append_nil]
  have hdrop : (Nat.toDigits 10 n ++ (mark.toList ++ rest)).dropWhile Char.isDigit = mark.toList ++ rest := by
    rw [List.dropWhile_append_of_pos hdigits, hmark, List.cons_append,
      List.dropWhile_cons_of_neg (by simp [hc])]
  rw [List.append_assoc]
  change ((text mark ((Nat.toDigits 10 n ++ (mark.toList ++ rest)).dropWhile Char.isDigit)).bind
    fun (_, left) => some (numberOfDigits 10
      ((Nat.toDigits 10 n ++ (mark.toList ++ rest)).takeWhile Char.isDigit), left)) = some (n, rest)
  rw [htake, hdrop, recognises_text, numberOfDigits_toDigits]
  rfl

/-- The characters of a line. -/
theorem toList_traceLine (r : Record) :
    r.traceLine.toList = "\x7b\"step\":".toList ++ ((Nat.toDigits 10 r.step ++ ",\"action\":".toList) ++
      ((Quoted.data r.action).toList ++ (",\"subject\":".toList ++
        ((Quoted.data r.subject).toList ++ ("\x7d".toList ++ []))))) := by
  unfold traceLine
  simp only [String.toList_append, Nat.toString_eq_repr, Nat.toList_repr, List.append_assoc, List.append_nil]

/-- A line is read as the record that it was written for. -/
theorem ofLine?_traceLine (r : Record) : ofLine? r.traceLine.toList = some r := by
  have hscan : scan.Recognises r.traceLine.toList r := by
    rw [toList_traceLine]
    refine (recognises_text _).bind ((recognises_numberBefore r.step rfl rfl).bind ?_)
    refine (Quoted.recognises_data r.action).bind ((recognises_text _).bind ?_)
    refine (Quoted.recognises_data r.subject).bind ((recognises_text _).bind ?_)
    exact recognises_pure _
  have hread := hscan []
  rw [List.append_nil] at hread
  unfold ofLine? whole?
  rw [hread]

/-- A record takes one line. -/
theorem newline_not_mem_traceLine (r : Record) : '\n' ∉ r.traceLine.toList := by
  have hdigits : '\n' ∉ Nat.toDigits 10 r.step := fun hmem =>
    absurd (Nat.isDigit_of_mem_toDigits (by decide) (by decide) hmem) (by decide)
  rw [toList_traceLine]
  simp [hdigits, Quoted.newline_not_mem_data]

/-- The records in a text whose last line has an end like all others. -/
def ofText? (text : List Char) : Option (List Record) :=
  let lines := text.splitOn '\n'
  if lines.getLast? = some [] then lines.dropLast.mapM ofLine? else none

theorem mapM_ofLine?_traceLine (rs : List Record) :
    (rs.map fun r => r.traceLine.toList).mapM ofLine? = some rs := by
  induction rs with
  | nil => rfl
  | cons r rs ih =>
    rw [List.map_cons, List.mapM_cons, ofLine?_traceLine, ih]
    rfl

theorem splitOn_traceLines (rs : List Record) :
    (rs.flatMap fun r => (r.traceLine ++ "\n").toList).splitOn '\n' =
      (rs.map fun r => r.traceLine.toList) ++ [[]] := by
  induction rs with
  | nil => rfl
  | cons r rs ih =>
    have hline : (r.traceLine ++ "\n").toList = r.traceLine.toList ++ ['\n'] := String.toList_append
    rw [List.flatMap_cons, hline, List.append_assoc, List.singleton_append,
      List.splitOn_append_cons_self_of_not_mem r.newline_not_mem_traceLine, ih]
    rfl

/-- Lines of records, each with its end, are read as these records. -/
theorem ofText?_traceLines (rs : List Record) :
    ofText? (rs.flatMap fun r => (r.traceLine ++ "\n").toList) = some rs := by
  unfold ofText?
  rw [splitOn_traceLines]
  dsimp only
  rw [if_pos List.getLast?_concat, List.dropLast_concat, mapM_ofLine?_traceLine]

end Record

/-! ## The invariant -/

namespace Session

variable {α : Type}

/-- The text of the trace: each of its lines, and a line end behind it. -/
def traceText (s : Session α) : List Char := s.trace.toList.flatMap fun line => (line ++ "\n").toList

/-- The session keeps a trace, and all of its records are there. -/
structure Traced (s : Session α) : Prop where
  file : s.plan.traceFile.isSome = true
  traced : s.traced = s.records.size
  lines : s.trace = s.records.map Record.traceLine

/-- A session that keeps a trace appends the lines of the records that are new. -/
theorem trace_writeTrace {s : Session α} (hfile : s.plan.traceFile.isSome = true) :
    s.writeTrace.trace = s.trace ++ (s.records.extract s.traced s.records.size).map Record.traceLine := by
  change (s.write _).trace = _
  rw [trace_write, if_pos hfile, Array.filterMap_map]
  exact congrArg (s.trace ++ ·) (Array.filterMap_eq_map' rfl)

namespace Traced

variable {s s' : Session α}

theorem aside (h : Traced s) (ha : Aside s s') : Traced s' := by
  have htrace := ha.trace.trans h.lines
  rw [ha.eq] at htrace ⊢
  exact ⟨h.file, h.traced, htrace⟩

/-- A record that is taken and written at once leaves none behind. -/
theorem writeTrace_record (h : Traced s) (hfile : s'.plan = s.plan) (htraced : s'.traced = s.traced)
    (hconsole : s'.console = s.console) {r : Record} (hrecords : s'.records = s.records.push r) :
    Traced s'.writeTrace where
  file := by
    rw [plan_writeTrace, hfile]
    exact h.file
  traced := rfl
  lines := by
    have hfresh : (s.records.push r).extract s.records.size (s.records.push r).size = #[r] := by
      apply Array.ext'
      simp
    rw [trace_writeTrace (hfile ▸ h.file), trace, hconsole, records_writeTrace, hrecords, htraced, h.traced,
      hfresh, Array.map_push, List.map_toArray]
    exact congrArg (· ++ #[r.traceLine]) h.lines

variable [Scalar α]

theorem step (h : Traced s) : EndsFrom step s (fun _ => Traced) fun _ => Traced := by
  unfold EndsFrom
  cases hpass : Pass.step s.plan.blocks s.run with
  | error failure run =>
    rw [step_of_error hpass]
    exact ⟨h.file, h.traced, h.lines⟩
  | ok slot run =>
    obtain ⟨-, -, stage, hstage⟩ := Pass.step_eq_ok hpass
    rw [step_of_ok hstage hpass]
    exact h.writeTrace_record rfl rfl rfl rfl

omit [Scalar α] in
theorem finish (h : Traced s) : EndsFrom finish s (fun _ => Traced) fun _ => Traced := by
  unfold EndsFrom
  obtain ⟨slot, t, -, -, heq⟩ | ⟨failure, -, heq⟩ := finish_cases s
  · rw [heq]
    exact h.writeTrace_record rfl rfl rfl rfl
  · rw [heq]
    exact h

theorem runGraph (h : Traced s) : EndsFrom runGraph s (fun _ => Traced) fun _ => Traced := by
  unfold EndsFrom Session.runGraph
  dsimp only
  split
  · next hended =>
    split at hended
    · cases hended
    · next hrun =>
      -- The answer of the graph is in its store, so the record of the run is written.
      obtain ⟨t, ht⟩ := Graph.exists_get_of_run hrun
      rw [ht] at hended
      cases hended
      exact h.writeTrace_record rfl rfl rfl rfl
  · next hended =>
    split at hended
    · cases hended
      exact ⟨h.file, h.traced, h.lines⟩
    · next hrun =>
      obtain ⟨t, ht⟩ := Graph.exists_get_of_run hrun
      rw [ht] at hended
      cases hended

theorem carried : Carried (α := α) Traced Traced fun _ => Traced where
  aside := aside
  step h _ := h.step
  finish h _ := h.finish

theorem execute (h : Traced s) : EndsFrom execute s (fun _ => Traced) fun _ => Traced :=
  (carried.execute h (fun _ => h.runGraph) fun _ _ _ _ _ h => h).mono
    (fun _ _ h => h.elim id And.left) fun _ _ h => h

end Traced

/-! ## Calls -/

variable [Scalar α] {plan : RunPlan} {network : Network α} {input : Tensor α} {s₀ s : Session α} {done : Nat}

theorem Reached.traced (hs : Traced s₀) (h : Reached s₀ done s) : Traced s := by
  induction h with
  | start => exact hs
  | left lines reached call _ ih => exact (ih.aside (Aside.feed lines _)).execute.of_ok call
  | finished lines reached call _ ih => exact (ih.aside (Aside.feed lines _)).execute.of_ok call
  | stopped lines reached call ih => exact (ih.aside (Aside.feed lines _)).execute.of_error call

/-- After every call, in whatever mode and however it ended, the trace reads back as the records. -/
theorem Reached.trace_reads_back (hs : Session.start plan network input = .ok s₀)
    (hfile : plan.traceFile.isSome = true) (h : Reached s₀ done s) :
    Record.ofText? s.traceText = some s.records.toList := by
  have hstart : Traced s₀ := by
    obtain ⟨p, hload, hs⟩ := bind_eq_ok hs
    cases hs
    exact ⟨hfile, rfl, by simp [trace]⟩
  have htraced := h.traced hstart
  unfold traceText
  rw [htraced.lines, Array.toList_map, List.flatMap_map]
  exact Record.ofText?_traceLines s.records.toList

/-- One pooling layer, with a quote, a line end and a control character in its name. -/
def oddlyNamed : Network Int where
  name := "odd"
  images := 1
  stages := [⟨{
    name := "\"a\n\x07", kind := .pooling, inputs := ⟨2, 2, 1, 6⟩, outputs := ⟨1, 1, 1, 7⟩, weights := .nothing,
    fieldSize := 2, stride := 1, border := 0, activation := .identity, pooling := .max }, none⟩]
  stages_ne_nil := nofun

/-- A session that keeps a trace and asks its shell before each layer. -/
def watched : Session Int where
  plan := { stepping := true, traceFile := some "trace" }
  run := ⟨{
    network := oddlyNamed
    buffers := @DoubleBuffer.reset Int integers (@Pass.start Int integers oddlyNamed).buffers
      (@Tensor.zeros Int integers "input" ⟨2, 2, 1, 6⟩ 1).data
    next := 0
    result := none }, {}⟩
  input := @Tensor.zeros Int integers "input" ⟨2, 2, 1, 6⟩ 1

/-- It is told to run the layer, and then called once more. -/
def watchedTwice : Session Int := @after Int integers [] (@after Int integers [""] watched)

theorem trace_reads_back_oddlyNamed :
    @Session.start Int integers watched.plan oddlyNamed watched.input = .ok watched ∧
      @Reached Int integers watched 2 watchedTwice ∧
      Record.ofText? watchedTwice.traceText = some [⟨1, "layer", "\"a\n\x07 -> Result"⟩,
        ⟨1, "result", "Result"⟩, ⟨1, "result", "Result"⟩] := by
  have hs : @Session.start Int integers watched.plan oddlyNamed watched.input = .ok watched := rfl
  have honce : @Reached Int integers watched 1 (@after Int integers [""] watched) :=
    @Reached.finished Int integers _ _ _ _ [""] (@Reached.start Int integers _)
      (@execute_eq_after Int integers [""] watched (by decide +kernel)) (by decide +kernel)
  have htwice : @Reached Int integers watched 2 watchedTwice :=
    @Reached.finished Int integers _ _ _ _ [] honce
      (@execute_eq_after Int integers [] _ (by decide +kernel)) (by decide +kernel)
  refine ⟨hs, htwice, ?_⟩
  rw [@Reached.trace_reads_back Int integers _ _ _ _ _ _ hs rfl htwice]
  decide +kernel

end Session

end ForwardPass

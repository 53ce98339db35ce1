/-!
# Computations that give a result

That a computation can be stopped is part of its type. `Yields` says that it is not, and `Completes` says
so of a computation with a state. `Ends` and `EndsFrom` are for computations that may be stopped: they say
what holds of either ending. All four carry an invariant through a loop.
-/

namespace ForwardPass

/-! ## Computations that are not stopped -/

/-- The computation gives a result, and the result has the property. -/
def Yields {ε β : Type} (x : Except ε β) (P : β → Prop) : Prop := ∃ b, x = .ok b ∧ P b

namespace Yields

variable {ε β γ σ : Type} {x : Except ε β} {P : β → Prop}

theorem ok {b : β} (h : P b) : Yields (.ok b : Except ε β) P := ⟨b, rfl, h⟩

theorem of_eq {b : β} (hx : x = .ok b) (h : P b) : Yields x P := ⟨b, hx, h⟩

theorem bind {k : β → Except ε γ} {Q : γ → Prop} (hx : Yields x P) (hk : ∀ b, P b → Yields (k b) Q) :
    Yields (x >>= k) Q := by
  obtain ⟨b, rfl, hb⟩ := hx
  exact hk b hb

/-- A computation that is known to give `b` goes on from there. -/
theorem bind_of_eq {b : β} {k : β → Except ε γ} {Q : γ → Prop} (hx : x = .ok b) (hk : Yields (k b) Q) :
    Yields (x >>= k) Q := by
  subst hx
  exact hk

theorem mono {Q : β → Prop} (hx : Yields x P) (h : ∀ b, P b → Q b) : Yields x Q := by
  obtain ⟨b, hb, hP⟩ := hx
  exact ⟨b, hb, h b hP⟩

/-- A loop runs through when every pass keeps its invariant. -/
theorem foldlM {step : σ → β → Except ε σ} {I : List β → σ → Prop} {bs : List β}
    (hstep : ∀ b ∈ bs, ∀ done s, I done s → Yields (step s b) (I (done ++ [b]))) {done : List β} {s : σ}
    (hs : I done s) : Yields (bs.foldlM step s) (I (done ++ bs)) := by
  -- The invariant speaks of the passes made so far, so these grow along the induction.
  induction bs generalizing done s with
  | nil => exact of_eq rfl (by simpa using hs)
  | cons b bs ih =>
    rw [List.foldlM_cons]
    refine bind (hstep b (List.mem_cons_self ..) done s hs) fun s' hs' => ?_
    have hrest := ih (fun c hc => hstep c (List.mem_cons_of_mem b hc)) hs'
    rwa [List.append_assoc] at hrest

/-- A loop over the numbers below `n` runs through when every pass takes its invariant one on. -/
theorem foldlM_range {step : σ → Nat → Except ε σ} {I : Nat → σ → Prop} {n : Nat}
    (hstep : ∀ i < n, ∀ s, I i s → Yields (step s i) (I (i + 1))) {s : σ} (h0 : I 0 s) :
    Yields ((List.range n).foldlM step s) (I n) := by
  -- The range is taken apart at its end: the last pass starts from the invariant of all others.
  induction n with
  | zero => exact of_eq rfl h0
  | succ n ih =>
    rw [List.range_succ, List.foldlM_append]
    refine bind (ih fun i hi => hstep i (Nat.lt_succ_of_lt hi)) fun s' hs' => ?_
    rw [List.foldlM_cons]
    exact bind (hstep n (Nat.lt_succ_self n) s' hs') fun s'' hs'' => of_eq rfl hs''

end Yields

/-- A computation that gives a result was not stopped on the way. -/
theorem bind_eq_ok {ε β γ : Type} {x : Except ε β} {k : β → Except ε γ} {c : γ}
    (h : (x >>= k) = .ok c) : ∃ b, x = .ok b ∧ k b = .ok c := by
  cases x with
  | ok b => exact ⟨b, rfl, h⟩
  | error e => cases h

/-! ## Computations that may be stopped -/

/-- A result of the computation has the property `P`, and a failure the property `E`. -/
def Ends {ε β : Type} (x : Except ε β) (P : β → Prop) (E : ε → Prop) : Prop :=
  match x with
  | .ok b => P b
  | .error e => E e

namespace Ends

variable {ε β γ σ : Type} {x : Except ε β} {P : β → Prop} {E : ε → Prop}

theorem of_ok {b : β} (h : Ends x P E) (hx : x = .ok b) : P b := by
  subst hx
  exact h

theorem of_error {e : ε} (h : Ends x P E) (hx : x = .error e) : E e := by
  subst hx
  exact h

theorem bind {k : β → Except ε γ} {Q : γ → Prop} (hx : Ends x P E) (hk : ∀ b, P b → Ends (k b) Q E) :
    Ends (x >>= k) Q E := by
  cases x with
  | ok b => exact hk b hx
  | error e => exact hx

theorem mono {Q : β → Prop} (hx : Ends x P E) (h : ∀ b, P b → Q b) : Ends x Q E := by
  cases x with
  | ok b => exact h b hx
  | error e => exact hx

/-- A loop ends with its invariant, or as one of its passes that is stopped. -/
theorem foldlM {step : σ → β → Except ε σ} {I : σ → Prop} {bs : List β}
    (hstep : ∀ b ∈ bs, ∀ s, I s → Ends (step s b) I E) {s : σ} (hs : I s) :
    Ends (bs.foldlM step s) I E := by
  induction bs generalizing s with
  | nil => exact hs
  | cons b bs ih =>
    rw [List.foldlM_cons]
    refine (hstep b (List.mem_cons_self ..) s hs).bind fun s' hs' => ?_
    exact ih (fun c hc => hstep c (List.mem_cons_of_mem b hc)) hs'

end Ends

/-! ## Computations with a state -/

instance decidableEqResult {ε σ β : Type} [DecidableEq ε] [DecidableEq σ] [DecidableEq β] :
    DecidableEq (EStateM.Result ε σ β)
  | .ok b s, .ok b' s' => decidable_of_iff (b = b' ∧ s = s') (by rw [EStateM.Result.ok.injEq])
  | .error e s, .error e' s' => decidable_of_iff (e = e' ∧ s = s') (by rw [EStateM.Result.error.injEq])
  | .ok _ _, .error _ _ => .isFalse nofun
  | .error _ _, .ok _ _ => .isFalse nofun

/-- From this state the computation gives a result, and result and new state have the property. -/
def Completes {ε σ β : Type} (x : EStateM ε σ β) (s : σ) (P : β → σ → Prop) : Prop :=
  ∃ b s', x s = .ok b s' ∧ P b s'

section State

variable {ε σ β γ : Type} {x : EStateM ε σ β} {s s' : σ}

/-- That a computation gives a result is found out by running it. -/
instance decidableGivesResult (x : EStateM ε σ β) (s : σ) : Decidable (∃ b s', x s = .ok b s') :=
  match x s with
  | .ok b s' => .isTrue ⟨b, s', rfl⟩
  | .error _ _ => .isFalse nofun

theorem bind_of_ok {b : β} (h : x s = .ok b s') (k : β → EStateM ε σ γ) : (x >>= k) s = k b s' := by
  change EStateM.bind x k s = k b s'
  rw [EStateM.bind, h]

theorem bind_of_error {e : ε} (h : x s = .error e s') (k : β → EStateM ε σ γ) :
    (x >>= k) s = .error e s' := by
  change EStateM.bind x k s = .error e s'
  rw [EStateM.bind, h]

theorem bind_eq_ok_from {k : β → EStateM ε σ γ} {c : γ} (h : (x >>= k) s = .ok c s') :
    ∃ b between, x s = .ok b between ∧ k b between = .ok c s' := by
  cases hx : x s with
  | ok b between =>
    rw [bind_of_ok hx] at h
    exact ⟨b, between, rfl, h⟩
  | error e between =>
    rw [bind_of_error hx] at h
    cases h

theorem bind_get (k : σ → EStateM ε σ γ) (s : σ) : (get >>= k) s = k s s := rfl

theorem bind_modify (f : σ → σ) (k : Unit → EStateM ε σ γ) (s : σ) :
    (modify f >>= k) s = k () (f s) := rfl

/-- From this state the computation ends in a result and a state with the property `P`, or in a failure
and a state with the property `E`. -/
def EndsFrom (x : EStateM ε σ β) (s : σ) (P : β → σ → Prop) (E : ε → σ → Prop) : Prop :=
  match x s with
  | .ok b s' => P b s'
  | .error e s' => E e s'

theorem EndsFrom.of_ok {P : β → σ → Prop} {E : ε → σ → Prop} {b : β} (h : EndsFrom x s P E)
    (hx : x s = .ok b s') : P b s' := by
  unfold EndsFrom at h
  rwa [hx] at h

theorem EndsFrom.of_error {P : β → σ → Prop} {E : ε → σ → Prop} {e : ε} (h : EndsFrom x s P E)
    (hx : x s = .error e s') : E e s' := by
  unfold EndsFrom at h
  rwa [hx] at h

theorem EndsFrom.bind {P : β → σ → Prop} {Q : γ → σ → Prop} {E : ε → σ → Prop} {k : β → EStateM ε σ γ}
    (hx : EndsFrom x s P E) (hk : ∀ b s', P b s' → EndsFrom (k b) s' Q E) :
    EndsFrom (x >>= k) s Q E := by
  unfold EndsFrom
  cases h : x s with
  | ok b s' =>
    rw [bind_of_ok h]
    exact hk b s' (hx.of_ok h)
  | error e s' =>
    rw [bind_of_error h]
    exact hx.of_error h

theorem EndsFrom.mono {P Q : β → σ → Prop} {E F : ε → σ → Prop} (hx : EndsFrom x s P E)
    (hP : ∀ b s', P b s' → Q b s') (hE : ∀ e s', E e s' → F e s') : EndsFrom x s Q F := by
  unfold EndsFrom
  cases h : x s with
  | ok b s' => exact hP b s' (hx.of_ok h)
  | error e s' => exact hE e s' (hx.of_error h)

theorem EndsFrom.bind_get {P : β → σ → Prop} {E : ε → σ → Prop} {k : σ → EStateM ε σ β}
    (hk : EndsFrom (k s) s P E) : EndsFrom (get >>= k) s P E := hk

theorem EndsFrom.bind_modify {P : β → σ → Prop} {E : ε → σ → Prop} {f : σ → σ} {k : Unit → EStateM ε σ β}
    (hk : EndsFrom (k ()) (f s) P E) : EndsFrom (modify f >>= k) s P E := hk

/-- A loop with a state ends with its invariant, which may speak of the passes made so far, or as one of its
passes that is stopped. -/
theorem EndsFrom.foldlM_done {step : γ → β → EStateM ε σ γ} {I : List β → γ → σ → Prop} {E : ε → σ → Prop}
    {bs : List β}
    (hstep : ∀ b ∈ bs, ∀ done c s, I done c s → EndsFrom (step c b) s (I (done ++ [b])) E)
    {done : List β} {c : γ} (hs : I done c s) : EndsFrom (bs.foldlM step c) s (I (done ++ bs)) E := by
  induction bs generalizing done c s with
  | nil => rwa [List.append_nil]
  | cons b bs ih =>
    rw [List.foldlM_cons]
    refine (hstep b (List.mem_cons_self ..) done c s hs).bind fun c' s' hs' => ?_
    have hrest := ih (fun d hd => hstep d (List.mem_cons_of_mem b hd)) hs'
    rwa [List.append_assoc] at hrest

/-- A loop with a state ends with its invariant, or as one of its passes that is stopped. -/
theorem EndsFrom.foldlM {step : γ → β → EStateM ε σ γ} {I : γ → σ → Prop} {E : ε → σ → Prop}
    {bs : List β} (hstep : ∀ b ∈ bs, ∀ c s, I c s → EndsFrom (step c b) s I E) {c : γ} (hs : I c s) :
    EndsFrom (bs.foldlM step c) s I E :=
  @foldlM_done _ _ _ _ _ step (fun _ => I) E bs (fun b hb _ => hstep b hb) [] c hs

/-- A computation that gives a result ends in it. -/
theorem Completes.endsFrom {P : β → σ → Prop} {E : ε → σ → Prop} (h : Completes x s P) :
    EndsFrom x s P E := by
  obtain ⟨b, s', hb, hP⟩ := h
  unfold EndsFrom
  rw [hb]
  exact hP

/-- A computation that cannot fail gives a result. -/
theorem EndsFrom.completes {P : β → σ → Prop} (h : EndsFrom x s P fun _ _ => False) : Completes x s P := by
  cases hx : x s with
  | ok b s' => exact ⟨b, s', hx, h.of_ok hx⟩
  | error e s' => exact (h.of_error hx).elim

end State

/-! ## Lists -/

/-- What is left of a list behind its first `k` elements, one by one. -/
theorem getElem?_of_drop {β : Type} {bs : List β} {k : Nat} {b : β} {rest : List β}
    (h : bs.drop k = b :: rest) : bs[k]? = some b ∧ bs.drop (k + 1) = rest := by
  constructor
  · rw [← List.head?_drop, h]
    rfl
  · rw [← List.tail_drop, h]
    rfl

/-- Two folds over one list agree when their passes do. -/
theorem foldl_congr {β σ : Type} {f g : σ → β → σ} {bs : List β}
    (h : ∀ b ∈ bs, ∀ s, f s b = g s b) (s : σ) : bs.foldl f s = bs.foldl g s := by
  induction bs generalizing s with
  | nil => rfl
  | cons b bs ih =>
    rw [List.foldl_cons, List.foldl_cons, h b (List.mem_cons_self ..) s]
    exact ih (fun c hc => h c (List.mem_cons_of_mem b hc)) (g s b)

end ForwardPass

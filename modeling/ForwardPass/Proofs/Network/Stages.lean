import ForwardPass.Network
import ForwardPass.Proofs.Layer.Construction
import ForwardPass.Proofs.Layer.Meaning

/-!
# The stages of a network

What a network promises about its stages once it is put together, and what a run through them means:
batches are carried from stage to stage up to the first obstacle. Neither mentions a buffer.
-/

namespace ForwardPass

variable {α : Type}

namespace Network

/-! ## Construction -/

/-- Neighbouring layers of a chain that passes its check agree on shapes. -/
theorem checkChain_eq_ok {layers : List Layer} (h : checkChain layers = .ok ()) {k : Nat} {a b : Layer}
    (ha : layers[k]? = some a) (hb : layers[k + 1]? = some b) : a.outputs = b.inputs := by
  fun_induction checkChain layers generalizing k with
  | case1 first second rest hne => cases h
  | case2 first second rest heq ih =>
    cases k with
    | zero =>
      cases ha
      cases hb
      exact not_not.1 heq
    | succ k => exact ih h ha hb
  | case3 layers hshort =>
    match layers, hshort with
    | [], _ => cases ha
    | [first], _ => cases hb
    | first :: second :: rest, hshort => exact (hshort first second rest rfl).elim

theorem forM_eq_ok {β ε : Type} {check : β → Except ε Unit} {bs : List β} (h : bs.forM check = .ok ()) :
    ∀ b ∈ bs, check b = .ok () := by
  induction bs with
  | nil => exact fun b hb => nomatch hb
  | cons b bs ih =>
    intro c hc
    change (check b >>= fun _ => bs.forM check) = .ok () at h
    cases hb : check b with
    | error e => rw [hb] at h; cases h
    | ok u =>
      rw [hb] at h
      rcases List.mem_cons.1 hc with rfl | hc
      · exact hb
      · exact ih h c hc

/-- A network that was put together consists of the given layers and weights, and they passed the
checks. -/
theorem ofLayers_eq_ok {name : String} {images : Nat} {layers : List Layer}
    {weights : List (Option (Tensor α))} {n : Network α}
    (h : ofLayers name images layers weights = .ok n) :
    n.images = images ∧ n.stages = List.zipWith Stage.mk layers weights ∧ n.layers = layers ∧
      checkChain layers = .ok () ∧ ∀ s ∈ n.stages, checkWeights s = .ok () := by
  unfold ofLayers at h
  split at h
  · cases h
  · split at h
    · cases h
    · next hlength =>
      cases hchain : checkChain layers with
      | error e => rw [hchain] at h; cases h
      | ok u =>
        rw [hchain] at h
        cases hweights : (List.zipWith Stage.mk layers weights).forM checkWeights with
        | error e => simp [hweights, bind, Except.bind] at h
        | ok u =>
          simp only [hweights, bind, Except.bind, pure, Except.pure] at h
          split at h
          · cases h
            refine ⟨rfl, rfl, ?_, rfl, forM_eq_ok hweights⟩
            have hfirst : (List.zip layers weights).map Prod.fst = layers :=
              List.map_fst_zip (by omega)
            rw [List.zip, List.map_zipWith] at hfirst
            rw [Network.layers, List.map_zipWith]
            exact hfirst
          · cases h

/-- A chain passes its check when neighbouring layers agree on shapes. -/
theorem checkChain_of_agree {layers : List Layer}
    (h : ∀ {k : Nat} {a b : Layer}, layers[k]? = some a → layers[k + 1]? = some b →
      a.outputs = b.inputs) :
    checkChain layers = .ok () := by
  fun_induction checkChain layers with
  | case1 first second rest hne => exact absurd (h (k := 0) rfl rfl) hne
  | case2 first second rest heq ih =>
    apply ih
    intro k a b ha hb
    exact h (k := k + 1) ha hb
  | case3 layers hshort => rfl

theorem forM_of_ok {β ε : Type} {check : β → Except ε Unit} {bs : List β}
    (h : ∀ b ∈ bs, check b = .ok ()) : bs.forM check = .ok () := by
  induction bs with
  | nil => rfl
  | cons b bs ih =>
    change (check b >>= fun _ => bs.forM check) = .ok ()
    rw [h b (List.mem_cons_self ..)]
    exact ih fun c hc => h c (List.mem_cons_of_mem b hc)

/-- A network is put together from layers that agree on shapes and have their weights. -/
theorem ofLayers_of_agree (name : String) (images : Nat) {layers : List Layer}
    {weights : List (Option (Tensor α))} (hne : layers ≠ []) (hlength : weights.length = layers.length)
    (hchain : ∀ {k : Nat} {a b : Layer}, layers[k]? = some a → layers[k + 1]? = some b →
      a.outputs = b.inputs)
    (hweights : ∀ s ∈ List.zipWith Stage.mk layers weights, checkWeights s = .ok ()) :
    ∃ n, ofLayers name images layers weights = .ok n := by
  have hstages : List.zipWith Stage.mk layers weights ≠ [] := by
    rw [← List.length_pos_iff, List.length_zipWith, hlength, Nat.min_self, List.length_pos_iff]
    exact hne
  unfold ofLayers
  rw [if_neg hne, if_neg (not_not.2 hlength)]
  simp only [checkChain_of_agree hchain, forM_of_ok hweights, dif_pos hstages, bind, Except.bind]
  exact ⟨_, rfl⟩

/-- What the construction of a network promises: every layer is made by a constructor and has the weights
it needs, and neighbouring layers agree on shapes. -/
structure Sound (n : Network α) : Prop where
  consistent : ∀ s ∈ n.stages, s.layer.Consistent
  weights : ∀ s ∈ n.stages, s.weightData.size = s.layer.weightsSize
  chain : ∀ {k : Nat} {a b : Stage α}, n.stages[k]? = some a → n.stages[k + 1]? = some b →
    a.layer.outputs = b.layer.inputs

/-- Weights that pass the check are as many as the layer needs, also where it needs none. -/
theorem checkWeights_eq_ok {s : Stage α} (h : checkWeights s = .ok ()) :
    s.weightData.size = s.layer.weightsSize := by
  unfold checkWeights at h
  unfold Stage.weightData
  cases hs : s.weights with
  | none =>
    rw [hs] at h
    dsimp only at h ⊢
    split at h
    · cases h
    · next hhas =>
      have hkind : s.layer.kind = .pooling := by simpa [Layer.hasWeights] using hhas
      rw [Layer.weightsSize, hkind]
      rfl
  | some t =>
    rw [hs] at h
    dsimp only at h ⊢
    split at h
    · cases h
    · next hsize => exact not_not.1 hsize

/-- Every stage has the weights its layer needs. -/
def Weighted (n : Network α) : Prop := ∀ s ∈ n.stages, s.weightData.size = s.layer.weightsSize

/-- Whatever its layers hold, a network that was put together has their weights. -/
theorem weighted_of_ofLayers {name : String} {images : Nat} {layers : List Layer}
    {weights : List (Option (Tensor α))} {n : Network α}
    (h : ofLayers name images layers weights = .ok n) : n.Weighted :=
  fun s hs => checkWeights_eq_ok ((ofLayers_eq_ok h).2.2.2.2 s hs)

theorem sound_of_ofLayers {name : String} {images : Nat} {layers : List Layer}
    {weights : List (Option (Tensor α))} {n : Network α}
    (h : ofLayers name images layers weights = .ok n) (hlayers : ∀ l ∈ layers, l.Consistent) :
    n.Sound := by
  obtain ⟨-, -, hmap, hchain, -⟩ := ofLayers_eq_ok h
  refine ⟨fun s hs => ?_, weighted_of_ofLayers h, fun {k a b} ha hb => ?_⟩
  · exact hlayers _ (hmap ▸ List.mem_map_of_mem hs)
  · have hlayer (k : Nat) (s : Stage α) (hs : n.stages[k]? = some s) : layers[k]? = some s.layer := by
      rw [← hmap, Network.layers, List.getElem?_map, hs]
      rfl
    exact checkChain_eq_ok hchain (hlayer _ _ ha) (hlayer _ _ hb)

/-! ## Sizes and shapes -/

theorem length_stages (n : Network α) : n.stages.length = n.layers.length := (List.length_map _).symm

/-- A running maximum is at least what it started with and every value it met. -/
theorem le_foldl_max {β : Type} {f : β → Nat} {bs : List β} {b : β} {most : Nat}
    (h : b ∈ bs ∨ f b ≤ most) : f b ≤ bs.foldl (fun most b => max most (f b)) most := by
  induction bs generalizing most with
  | nil => exact h.resolve_left (List.not_mem_nil)
  | cons c bs ih =>
    refine ih ?_
    rcases h with hb | hb
    · rcases List.mem_cons.1 hb with rfl | hb
      · exact .inr (Nat.le_max_right ..)
      · exact .inl hb
    · exact .inr (Nat.le_trans hb (Nat.le_max_left ..))

/-- A running maximum is what it started with or one of the values it met. -/
theorem foldl_max_eq {β : Type} (f : β → Nat) (bs : List β) (most : Nat) :
    bs.foldl (fun most b => max most (f b)) most = most ∨
      ∃ b ∈ bs, bs.foldl (fun most b => max most (f b)) most = f b := by
  induction bs generalizing most with
  | nil => exact .inl rfl
  | cons c bs ih =>
    rw [List.foldl_cons]
    rcases ih (max most (f c)) with hmost | ⟨b, hb, hvalue⟩
    · rcases Nat.le_total (f c) most with hle | hle
      · exact .inl (hmost.trans (Nat.max_eq_left hle))
      · exact .inr ⟨c, List.mem_cons_self .., hmost.trans (Nat.max_eq_right hle)⟩
    · exact .inr ⟨b, List.mem_cons_of_mem c hb, hvalue⟩

/-- Both buffers are as large as the largest layer needs. -/
theorem exists_bufferSize_eq (n : Network α) :
    ∃ l ∈ n.layers, n.bufferSize = n.images * l.footprint ∧
      ∀ l' ∈ n.layers, l'.footprint ≤ l.footprint := by
  have hle (l' : Layer) (hl' : l' ∈ n.layers) :
      l'.footprint ≤ n.layers.foldl (fun most l => max most l.footprint) 0 := le_foldl_max (.inl hl')
  rcases foldl_max_eq Layer.footprint n.layers 0 with hzero | ⟨l, hl, hvalue⟩
  · -- Without a footprint anywhere the first layer has the largest.
    have hfirst := List.mem_map_of_mem (f := (·.layer)) (List.head_mem n.stages_ne_nil)
    have hempty := Nat.le_zero.1 (hzero ▸ hle _ hfirst)
    refine ⟨_, hfirst, ?_, fun l' hl' => ?_⟩
    · rw [bufferSize, hzero, hempty]
    · rw [hempty, ← hzero]
      exact hle l' hl'
  · refine ⟨l, hl, ?_, fun l' hl' => ?_⟩
    · rw [bufferSize, hvalue]
    · rw [← hvalue]
      exact hle l' hl'

/-- Both buffers have room for every layer. -/
theorem footprint_le {n : Network α} {s : Stage α} (hs : s ∈ n.stages) :
    n.images * s.layer.footprint ≤ n.bufferSize :=
  Nat.mul_le_mul_left _ (le_foldl_max (.inl (List.mem_map_of_mem hs)))

/-- The shape of the batch that stage `k` reads; behind the last stage it is the output. -/
def shapeAt (n : Network α) (k : Nat) : Shape :=
  match n.stages[k]? with
  | some s => s.layer.inputs
  | none => n.outputShape

theorem shapeAt_zero (n : Network α) : n.shapeAt 0 = n.inputShape := by
  rw [shapeAt, ← List.head?_eq_getElem?, List.head?_eq_some_head n.stages_ne_nil]
  rfl

theorem shapeAt_length (n : Network α) : n.shapeAt n.stages.length = n.outputShape := by
  rw [shapeAt, List.getElem?_eq_none (Nat.le_refl _)]

/-- The network takes what its first layer does. -/
theorem inputShape_eq {n : Network α} {l : Layer} (h : n.layers[0]? = some l) :
    n.inputShape = l.inputs := by
  rw [layers, List.getElem?_map, ← List.head?_eq_getElem?, List.head?_eq_some_head n.stages_ne_nil] at h
  cases h
  rfl

/-- What a stage produces is what the next one reads. -/
theorem Sound.shapeAt_succ {n : Network α} (h : n.Sound) {k : Nat} {s : Stage α}
    (hs : n.stages[k]? = some s) : n.shapeAt (k + 1) = s.layer.outputs := by
  rw [shapeAt]
  cases hnext : n.stages[k + 1]? with
  | some next => exact (h.chain hs hnext).symm
  | none =>
    -- Without a next stage this one is the last, and its output is the network's.
    have hlength : n.stages.length - 1 = k := by
      have hlt := (List.getElem?_eq_some_iff.1 hs).1
      have hge := List.getElem?_eq_none_iff.1 hnext
      omega
    have hlast := List.getLast?_eq_getElem? (l := n.stages)
    rw [hlength, hs, List.getLast?_eq_some_getLast n.stages_ne_nil, Option.some.injEq] at hlast
    rw [outputShape, hlast]

end Network

/-! ## Meaning -/

namespace Stage

/-- The batch a stage makes of its input. -/
def apply [Scalar α] (s : Stage α) (x : Batch α) : Batch α := s.layer.apply s.weightData x

/-- The batch that stages make, each of what the one before it made. -/
def applyAll [Scalar α] (stages : List (Stage α)) (x : Batch α) : Batch α :=
  stages.foldl (fun x s => s.apply x) x

/-- How many stages run before the first one with an obstacle, and the obstacle. -/
def obstacle? (images : Nat) : List (Stage α) → Option (Nat × EngineError)
  | [] => none
  | s :: rest =>
    match s.layer.obstacle? images with
    | some e => some (0, e)
    | none => (obstacle? images rest).map fun (before, e) => (before + 1, e)

/-- What a run through stages makes of the ledger, as far as it comes. -/
def accounts (blocks : Blocks) (images : Nat) : List (Stage α) → Ledger → Ledger
  | [], ledger => ledger
  | s :: rest, ledger =>
    match s.layer.obstacle? images with
    | some _ => s.layer.refusedAccount blocks images ledger
    | none => accounts blocks images rest (s.layer.account blocks images ledger)

/-- There is no obstacle when no stage has one. -/
theorem obstacle?_eq_none_iff {images : Nat} {stages : List (Stage α)} :
    obstacle? images stages = none ↔ ∀ s ∈ stages, s.layer.obstacle? images = none := by
  induction stages with
  | nil => simp [obstacle?]
  | cons s rest ih =>
    rw [obstacle?]
    cases hs : s.layer.obstacle? images with
    | some e => simp [hs]
    | none => simp [hs, ih]

/-- The first obstacle is that of a stage behind stages that have none. -/
theorem obstacle?_eq_some {images : Nat} {stages : List (Stage α)} {before : Nat} {e : EngineError}
    (h : obstacle? images stages = some (before, e)) :
    ∃ s, stages[before]? = some s ∧ s.layer.obstacle? images = some e ∧
      ∀ k < before, ∀ s, stages[k]? = some s → s.layer.obstacle? images = none := by
  induction stages generalizing before with
  | nil => cases h
  | cons s rest ih =>
    rw [obstacle?] at h
    cases hs : s.layer.obstacle? images with
    | some e' =>
      rw [hs] at h
      cases h
      exact ⟨s, rfl, hs, fun k hk => absurd hk (Nat.not_lt_zero k)⟩
    | none =>
      rw [hs] at h
      obtain ⟨⟨before, e'⟩, hrest, heq⟩ := Option.map_eq_some_iff.1 h
      cases heq
      obtain ⟨s', hs', he, hearlier⟩ := ih hrest
      refine ⟨s', hs', he, fun k hk t ht => ?_⟩
      cases k with
      | zero =>
        cases ht
        exact hs
      | succ k => exact hearlier k (Nat.lt_of_succ_lt_succ hk) t ht

end Stage

end ForwardPass

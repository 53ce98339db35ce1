import ForwardPass.Proofs.Layer.Meaning

/-!
# Growth of a ledger

The totals of a ledger grow with every layer that runs, by as much as its operands and its output, on
whichever blocks and in whichever ledger it runs. The growths of several layers add up.
-/

namespace ForwardPass

/-- Two ledgers grew by the same totals since they were as stated. -/
def GrewAlike (before before' after after' : Ledger) : Prop :=
  ∃ growth : Totals, after.totals = before.totals + growth ∧ after'.totals = before'.totals + growth

theorem GrewAlike.none (ledger ledger' : Ledger) : GrewAlike ledger ledger' ledger ledger' :=
  ⟨{}, rfl, rfl⟩

theorem GrewAlike.trans {l₁ l₁' l₂ l₂' l₃ l₃' : Ledger} (h : GrewAlike l₁ l₁' l₂ l₂')
    (h' : GrewAlike l₂ l₂' l₃ l₃') : GrewAlike l₁ l₁' l₃ l₃' := by
  obtain ⟨growth, hl, hl'⟩ := h
  obtain ⟨growth', hg, hg'⟩ := h'
  exact ⟨growth + growth', by rw [hg, hl, Totals.add_assoc], by rw [hg', hl', Totals.add_assoc]⟩

namespace Layer

/-- The totals of the operands of a launch. -/
def operandGrowth (l : Layer) (images : Nat) : Totals :=
  { transfersIn := 2
    bytesIn := l.weightsSize * elementBytes + images * l.operandSize * elementBytes
    launches := 1 }

theorem totals_launched (l : Layer) (blocks : Blocks) (images : Nat) (ledger : Ledger) :
    (l.launched blocks images ledger).totals = ledger.totals + l.operandGrowth images := by
  change Totals.mk .. = Totals.mk ..
  congr 1
  exact Nat.add_assoc ..

/-- The totals of a run of the layer. -/
def growth (l : Layer) (images : Nat) : Totals :=
  if l.hasWeights then
    l.operandGrowth images + { transfersOut := 1, bytesOut := images * l.outputs.size * elementBytes }
  else {}

theorem totals_account (l : Layer) (blocks : Blocks) (images : Nat) (ledger : Ledger) :
    (l.account blocks images ledger).totals = ledger.totals + l.growth images := by
  unfold account growth
  split
  · rw [← Totals.add_assoc, ← l.totals_launched blocks images ledger]
    rfl
  · rfl

/-- A layer accounts for the same totals on every block. -/
theorem account_grewAlike (l : Layer) (blocks blocks' : Blocks) (images : Nat) (ledger ledger' : Ledger) :
    GrewAlike ledger ledger' (l.account blocks images ledger) (l.account blocks' images ledger') :=
  ⟨l.growth images, l.totals_account blocks images ledger, l.totals_account blocks' images ledger'⟩

theorem refusedAccount_grewAlike (l : Layer) (blocks blocks' : Blocks) (images : Nat)
    (ledger ledger' : Ledger) :
    GrewAlike ledger ledger' (l.refusedAccount blocks images ledger)
      (l.refusedAccount blocks' images ledger') := by
  unfold refusedAccount
  split
  · exact ⟨_, l.totals_launched blocks images ledger, l.totals_launched blocks' images ledger'⟩
  · exact .none ledger ledger'

end Layer

end ForwardPass

import ForwardPass.Network

/-!
# Forward passes

A pass carries a batch of images through the layers of a network, one layer per step, in two buffers
that the layers take turns with. The pass and the ledger are the state of a step, so that a step that
fails leaves what it had done.
-/

namespace ForwardPass

structure Pass (α : Type) where
  network : Network α
  buffers : DoubleBuffer α
  /-- Index of the layer that runs next. -/
  next : Nat
  /-- Where the output is, once the last layer has run. -/
  result : Option Slot

/-- A pass together with the ledger its layers account to. -/
structure Run (α : Type) where
  pass : Pass α
  ledger : Ledger

namespace Pass

variable {α : Type} [Scalar α]

/-- The pass before any input is loaded. -/
def start (network : Network α) : Pass α :=
  { network, buffers := .zeros network.bufferSize, next := 0, result := none }

omit [Scalar α] in
/-- Whether every layer has run. -/
def isDone (p : Pass α) : Bool := p.next ≥ p.network.stages.length

/-- Load a batch of images and go back to the first layer. -/
def load (p : Pass α) (input : Tensor α) : Except EngineError (Pass α) :=
  if input.shape ≠ p.network.inputShape ∨ input.batch ≠ p.network.images then
    .error (.shapeMismatch p.network.name
      (.input input.batch input.shape p.network.images p.network.inputShape))
  else .ok { p with buffers := p.buffers.reset input.data, next := 0, result := none }

omit [Scalar α] in
/-- Take note of a layer that has run. -/
def advance (p : Pass α) (landing : Landing) : Pass α :=
  let buffers := p.buffers.commit landing
  let next := p.next + 1
  { p with
    buffers, next
    result := if next ≥ p.network.stages.length then some buffers.live else p.result }

omit [Scalar α] in
/-- Put back the two buffers a layer was handed. -/
def setBuffers (p : Pass α) (live other : Array α) : Pass α :=
  { p with buffers :=
      (p.buffers.setBuffer live p.buffers.live).setBuffer other p.buffers.live.other }

/-- Run the next layer; the result is the slot its output landed in. -/
def step (blocks : Blocks) : EStateM Failure (Run α) Slot := fun run =>
  let pass := run.pass
  match pass.network.stages[pass.next]? with
  | none => .error (.error (.shapeMismatch pass.network.name .passFinished)) run
  | some stage =>
    -- Whichever slot is live, the layer sees its input first and the other buffer second.
    let bench := ⟨run.ledger, pass.buffers.liveBuffer, pass.buffers.otherBuffer⟩
    match stage.layer.run blocks stage.weightData pass.network.images bench with
    | .ok landing bench =>
      let pass := (pass.setBuffers bench.activations bench.result).advance landing
      .ok pass.buffers.live ⟨pass, bench.ledger⟩
    | .error failure bench =>
      .error failure ⟨pass.setBuffers bench.activations bench.result, bench.ledger⟩

/-- Run `count` steps, or as many as there are layers left. -/
def steps (blocks : Blocks) : Nat → EStateM Failure (Run α) Unit
  | 0 => pure ()
  | count + 1 => do
    if (← get).pass.isDone then return
    let _ ← step blocks
    steps blocks count

/-- Run every layer that is left; the result is the slot that holds the output. -/
def finish (blocks : Blocks) : EStateM Failure (Run α) Slot := do
  let pass := (← get).pass
  steps blocks (pass.network.stages.length - pass.next)
  return (← get).pass.buffers.live

omit [Scalar α] in
/-- The output, once the last layer has run. -/
def output (p : Pass α) : Except Failure (Tensor α) :=
  match p.result with
  | none => .error (.error (.shapeMismatch p.network.name .passUnfinished))
  | some slot => do
    let shape := p.network.outputShape
    let data ← Buffer.slice (p.buffers.buffer slot) 0 (p.network.images * shape.size)
    (Tensor.ofPadded "output" shape p.network.images data).mapError Failure.error

/-- A whole pass over `input`: load it and run every layer. -/
def forward (blocks : Blocks) (input : Tensor α) : EStateM Failure (Run α) Slot := do
  match (← get).pass.load input with
  | .error e => throw (.error e)
  | .ok pass => modify fun run => { run with pass }
  finish blocks

end Pass

end ForwardPass

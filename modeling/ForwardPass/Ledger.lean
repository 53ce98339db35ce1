import ForwardPass.Failure

/-!
# The offload ledger

The accelerator's side of a run: which arrays are mapped for which hardware block, every transfer that
was made, and how often a kernel was launched. Buffers are shared with the host, so a transfer moves
nothing; it is checked against the buffer and the mapping, and either recorded whole or refused.
-/

namespace ForwardPass

/-- The hardware block that runs each kind of layer. -/
structure Blocks where
  convolution : BlockId := 1
  innerProduct : BlockId := 2
deriving DecidableEq, Repr, Inhabited

inductive Direction where
  | into
  | outOf
deriving DecidableEq, Repr, Inhabited

/-- Bytes of one element. -/
def elementBytes : Nat := 4

/-- One completed transfer. -/
structure Transfer where
  block : BlockId
  role : Role
  direction : Direction
  offset : Nat
  length : Nat
deriving DecidableEq, Repr

/-- Running totals of a ledger. -/
structure Totals where
  transfersIn : Nat := 0
  transfersOut : Nat := 0
  bytesIn : Nat := 0
  bytesOut : Nat := 0
  launches : Nat := 0
deriving DecidableEq, Repr, Inhabited

/-- Count one transfer. -/
def Totals.count (t : Totals) (direction : Direction) (length : Nat) : Totals :=
  match direction with
  | .into => { t with transfersIn := t.transfersIn + 1, bytesIn := t.bytesIn + length }
  | .outOf => { t with transfersOut := t.transfersOut + 1, bytesOut := t.bytesOut + length }

structure Ledger where
  /-- The latest mapping of each array, newest first. -/
  mapped : List ((BlockId × Role) × Nat) := []
  transfers : Array Transfer := #[]
  totals : Totals := {}
deriving DecidableEq, Repr, Inhabited

namespace Ledger

/-- The bytes last mapped for an array of a block. -/
def mappedBytes? (l : Ledger) (block : BlockId) (role : Role) : Option Nat :=
  l.mapped.lookup (block, role)

/-- Declare how many bytes an array of a block occupies. -/
def map (l : Ledger) (block : BlockId) (role : Role) (bytes : Nat) : Ledger :=
  { l with mapped := ((block, role), bytes) :: l.mapped.filter (·.1 ≠ (block, role)) }

/-- The bytes a transfer of an array may reach: those of its buffer, and no more than are mapped. -/
def available (l : Ledger) (block : BlockId) (role : Role) (elements : Nat) : Nat :=
  match l.mappedBytes? block role with
  | some bytes => min (elements * elementBytes) bytes
  | none => elements * elementBytes

/-- Transfer a range of a buffer of `elements` elements, all of it or nothing. -/
def transfer (l : Ledger) (elements : Nat) (t : Transfer) : Except EngineError Ledger :=
  let available := l.available t.block t.role elements
  if t.offset + t.length ≤ available then
    .ok { l with transfers := l.transfers.push t, totals := l.totals.count t.direction t.length }
  else .error (.transfer t.block t.offset t.length available)

/-- Announce that a kernel is launched on a block. -/
def launch (l : Ledger) : Ledger :=
  { l with totals := { l.totals with launches := l.totals.launches + 1 } }

end Ledger

end ForwardPass

/-
PyWebTransport.Common.Types — the shared vocabulary of the protocol core
(`common/types.rs`, `common/error.rs`).

Identifiers, error codes and counters are `u64` in the source. They are
natural numbers here; where the source saturates, the model says so at
the operation (`saturatingAdd`, `saturatingSub`). A byte buffer is a list
of bytes. A timestamp is the number of seconds on the reactor's monotonic
clock; the source uses `f64` and only ever subtracts and compares, so an
exact rational stands for it.
-/
import Mathlib.Algebra.Group.Nat.Defs
import Mathlib.Data.Rat.Defs
import Mathlib.Algebra.Order.Ring.Unbundled.Rat

namespace PyWebTransport

variable {a b : Nat}

abbrev Bytes := List UInt8
abbrev ConnectionHandle := Nat
abbrev ErrorCode := Nat
abbrev Headers := List (Bytes × Bytes)
abbrev RequestId := Nat
abbrev SessionId := Nat
abbrev StreamId := Nat
abbrev Timestamp := Rat

inductive ConnectionState where
  | closed
  | closing
  | connected
  | connecting
  | idle
deriving DecidableEq

inductive ErrorSource where
  | connection
  | datagram
  | session
  | stream
  | unspecified
deriving DecidableEq

inductive EventType where
  | connectionClosed
  | connectionEstablished
  | sessionClosed
  | sessionDataBlocked
  | sessionDraining
  | sessionMaxDataUpdated
  | sessionMaxStreamsBidiUpdated
  | sessionMaxStreamsUniUpdated
  | sessionPending
  | sessionReady
  | sessionRequestReceived
  | sessionStreamsBlocked
  | streamClosed
  | streamOpened
  | streamResetReceived
  | streamStopSendingReceived
deriving DecidableEq

inductive SessionState where
  | closed
  | closing
  | connected
  | connecting
  | draining
deriving DecidableEq

inductive StreamDirection where
  | bidirectional
  | receiveOnly
  | sendOnly
deriving DecidableEq

inductive StreamReceiveState where
  | dataRead
  | dataReceived
  | receive
  | resetRead
deriving DecidableEq

inductive StreamSendState where
  | dataReceived
  | dataSent
  | ready
  | resetSent
deriving DecidableEq

/-- `WebTransportError`: an error that closes the connection (`protocol`,
and the two the protocol core never builds) or one stream (`stream`). -/
inductive WebTransportError where
  | configuration (errorCode : Option ErrorCode) (reason : String)
  | protocol (errorCode : Option ErrorCode) (reason : String)
  | stream (streamId : StreamId) (errorCode : Option ErrorCode) (reason : String)
  | unknown (errorCode : Option ErrorCode) (reason : String)
deriving DecidableEq

/-! ## Machine integers -/

/-- The largest `u64`. -/
def u64Max : Nat := 2 ^ 64 - 1

/-- `u64::saturating_add`. -/
def saturatingAdd (a b : Nat) : Nat := min (a + b) u64Max

/-- `u64::saturating_sub`; subtraction of natural numbers already stops at zero. -/
def saturatingSub (a b : Nat) : Nat := a - b

@[simp] theorem saturatingSub_eq : saturatingSub a b = a - b := rfl

theorem saturatingAdd_le_add : saturatingAdd a b ≤ a + b :=
  Nat.min_le_left _ _

end PyWebTransport

/-
PyWebTransport.Protocol.Session.Capsules — how a session ends, what each
capsule of the peer does to it, and the replay of what was queued before it
was established (`Session::abort`, `recv_capsule`, `recv_datagram` and
`replay_pending_queues`).

`recv_capsule` is one `match` in the source. Its arms are separate
definitions here, each under the name of the capsule it handles; the two
MAX_STREAMS arms differ only in the counter they raise, and are one
definition with the direction as a parameter.
-/
import PyWebTransport.Protocol.Session.Basic

namespace PyWebTransport

open PyWebTransport.Lib

namespace Session

/-- The session event that reports the end of the session. -/
def closedEvent (s : Session) (errorCode : Option ErrorCode) (reason : Option String) : Effect :=
  .emitSessionEvent s.id .sessionClosed { errorCode := errorCode, reason := reason }

def abort (s : Session) (errorCode : ErrorCode) (reason : String) (now : Timestamp) :
    Session × List Effect :=
  if !s.isOpen then (s, [])
  else
    let torn := { s with
      closeCode := some errorCode
      closeReason := some reason
      closedAt := some now
      state := .closed }.tearDown
    (torn.1, torn.2 ++
      [.resetQuicStream s.id errorCode, s.closedEvent (some errorCode) (some reason)])

/-! ## Capsules -/

/-- The close capsule: a four-byte code and a reason of bounded size in UTF-8. -/
def recvCloseSession (s : Session) (capsuleValue : Bytes) (now : Timestamp) :
    Session × List Effect :=
  if capsuleValue.length < 4 then s.abort errH3MessageError "wt_capsule validate invalid" now
  else
    let errorCode := beValue (capsuleValue.take 4)
    let reason := capsuleValue.drop 4
    if reason.length > wtCloseReasonSizeLimit then
      s.abort errH3MessageError "wt_capsule validate exceeded" now
    else
      match utf8String? reason with
      | none => s.abort errH3MessageError "wt_capsule validate invalid" now
      | some reason =>
        let torn := { s with
          closeCode := some errorCode
          closeReason := some reason
          closedAt := some now
          state := .closed }.tearDown
        (torn.1, torn.2 ++
          [.sendQuicData s.id [] true, s.closedEvent (some errorCode) (some reason)])

def recvDataBlocked (s : Session) : Session × List Effect :=
  let credit := s.replenishDataCredit true
  (credit.1, [credit.2.getD (.emitSessionEvent s.id .sessionDataBlocked {})])

/-- Draining is entered from `Connected` only; elsewhere the capsule is ignored. -/
def recvDrainSession (s : Session) : Session × List Effect :=
  if s.state = .connected then
    ({ s with state := .draining }, [.emitSessionEvent s.id .sessionDraining {}])
  else (s, [])

def recvMaxData (s : Session) (capsuleValue : Bytes) (now : Timestamp) : Session × List Effect :=
  match readVarint capsuleValue with
  | .error _ => s.abort errH3GeneralProtocolError "varint decode invalid" now
  | .ok (peerMaxData, _) =>
    if peerMaxData > s.peerMaxData then
      let flushed := { s with peerMaxData := peerMaxData }.flushBlockedWrites
      (flushed.1,
        .emitSessionEvent s.id .sessionMaxDataUpdated { maxData := some peerMaxData } ::
          flushed.2)
    else s.abort errWtFlowControlError "wt_session validate failed" now

def recvMaxStreams (s : Session) ( isUnidirectional : Bool) (capsuleValue : Bytes)
    (now : Timestamp) : Session × List Effect :=
  match readVarint capsuleValue with
  | .error _ => s.abort errH3GeneralProtocolError "varint decode invalid" now
  | .ok (peerMaxStreams, _) =>
    if peerMaxStreams > wtStreamsLimit then
      s.abort errWtFlowControlError "wt_session validate exceeded" now
    else if peerMaxStreams > s.peerMaxStreams isUnidirectional then
      let flushed := (s.setPeerMaxStreams isUnidirectional peerMaxStreams)
        |>.flushBlockedStreamRequests isUnidirectional
      (flushed.1,
        .emitSessionEvent s.id
          (if isUnidirectional then .sessionMaxStreamsUniUpdated
            else .sessionMaxStreamsBidiUpdated)
          { maxStreams := some peerMaxStreams } :: flushed.2)
    else s.abort errWtFlowControlError "wt_session validate failed" now

def recvStreamsBlocked (s : Session) ( isUnidirectional : Bool) (capsuleValue : Bytes)
    (now : Timestamp) : Session × List Effect :=
  match readVarint capsuleValue with
  | .error _ => s.abort errH3GeneralProtocolError "varint decode invalid" now
  | .ok (peerReportedLimit, _) =>
    if peerReportedLimit > wtStreamsLimit then
      s.abort errWtFlowControlError "wt_session validate exceeded" now
    else
      let credit := s.replenishStreamsCredit isUnidirectional true
      (credit.1, [credit.2.getD (.emitSessionEvent s.id .sessionStreamsBlocked
        { isUnidirectional := some isUnidirectional })])

/-- The capsules a session without flow control ignores. -/
def isFlowControlCapsule (capsuleType : Nat) : Bool :=
  capsuleType = wtCapsuleTypeDataBlocked || capsuleType = wtCapsuleTypeMaxData ||
  capsuleType = wtCapsuleTypeMaxStreamsBidi || capsuleType = wtCapsuleTypeMaxStreamsUni ||
  capsuleType = wtCapsuleTypeStreamsBlockedBidi || capsuleType = wtCapsuleTypeStreamsBlockedUni

/-- The `match` of `recv_capsule`, for an established session. -/
def dispatchCapsule (s : Session) (capsuleType : Nat) (capsuleValue : Bytes) (now : Timestamp) :
    Session × List Effect :=
  if capsuleType = wtCapsuleTypeCloseSession then s.recvCloseSession capsuleValue now
  else if capsuleType = wtCapsuleTypeDataBlocked then s.recvDataBlocked
  else if capsuleType = wtCapsuleTypeDrainSession then s.recvDrainSession
  else if capsuleType = wtCapsuleTypeMaxData then s.recvMaxData capsuleValue now
  else if capsuleType = wtCapsuleTypeMaxStreamData ∨
      capsuleType = wtCapsuleTypeStreamDataBlocked then
    s.abort errH3FrameUnexpected "wt_session validate failed" now
  else if capsuleType = wtCapsuleTypeMaxStreamsBidi then s.recvMaxStreams false capsuleValue now
  else if capsuleType = wtCapsuleTypeMaxStreamsUni then s.recvMaxStreams true capsuleValue now
  else if capsuleType = wtCapsuleTypeStreamsBlockedBidi then
    s.recvStreamsBlocked false capsuleValue now
  else if capsuleType = wtCapsuleTypeStreamsBlockedUni then
    s.recvStreamsBlocked true capsuleValue now
  else (s, [])

def recvCapsule (s : Session) (capsuleType : Nat) (capsuleValue : Bytes) (now : Timestamp) :
    Session × List Effect :=
  match s.state with
  | .connecting =>
    if s.pendingCapsules.length ≥ s.maxPendingCapsules then
      s.abort errH3ExcessiveLoad "wt_session validate exceeded" now
    else
      ({ s with pendingCapsules := s.pendingCapsules ++ [(capsuleType, capsuleValue)] }, [])
  | .closing => (s, [])
  | .closed => (s, [.resetQuicStream s.id errH3MessageError])
  | .connected | .draining =>
    if !s.flowControlNegotiated && isFlowControlCapsule capsuleType then (s, [])
    else s.dispatchCapsule capsuleType capsuleValue now

/-! ## Datagrams -/

def recvDatagram (s : Session) (data : Bytes) : Session × List Effect :=
  if !s.isOpen then (s, [])
  else
    let buffered : Session × List Effect :=
      if s.pendingDatagrams.length ≥ s.maxPendingDatagrams then (s, [])
      else ({ s with pendingDatagrams := s.pendingDatagrams ++ [data] }, [])
    if s.state = .connecting then buffered
    else
      match s.pendingDatagramRequests with
      | [] => buffered
      | requestId :: rest =>
        ({ s with pendingDatagramRequests := rest },
          [.notifyRequestDone requestId (.datagram data)])

/-! ## Replay -/

/-- The first loop of `replay_pending_queues`. The flag says that a capsule
took the session out of `Connected`, where the source returns at once. -/
def replayCapsules (now : Timestamp) : Nat → Session → Session × List Effect × Bool
  | 0, s => (s, [], false)
  | fuel + 1, s =>
    match s.pendingCapsules with
    | [] => (s, [], false)
    | capsule :: rest =>
      let received := { s with pendingCapsules := rest }.recvCapsule capsule.1 capsule.2 now
      if received.1.state ≠ .connected then (received.1, received.2, true)
      else
        let others := replayCapsules now fuel received.1
        (others.1, received.2 ++ others.2.1, others.2.2)

/-- The second loop: queued datagrams go to the waiting reads. -/
def replayDatagrams : Nat → Session → Session × List Effect
  | 0, s => (s, [])
  | fuel + 1, s =>
    if s.pendingDatagramRequests.isEmpty then (s, [])
    else
      match s.pendingDatagrams with
      | [] => (s, [])
      | data :: rest =>
        let received := { s with pendingDatagrams := rest }.recvDatagram data
        let others := replayDatagrams fuel received.1
        (others.1, received.2 ++ others.2)

/-- The notification that a peer stream is open. -/
def openedEvent (s : Session) (streamId : StreamId) : Effect :=
  .emitStreamEvent streamId .streamOpened (some s.id)
    (some (streamDirectionFromId streamId s.isClient)) (some true) none

/-- The third loop: the queued streams that are still there are announced. -/
def replayStreams (s : Session) : Session × List Effect :=
  ({ s with pendingStreams := [] },
    (s.pendingStreams.filter s.hasStream).map s.openedEvent)

def replayPendingQueues (s : Session) (now : Timestamp) : Session × List Effect :=
  let capsules := replayCapsules now s.pendingCapsules.length s
  if capsules.2.2 then (capsules.1, capsules.2.1)
  else
    let datagrams := replayDatagrams capsules.1.pendingDatagrams.length capsules.1
    let streams := datagrams.1.replayStreams
    (streams.1, capsules.2.1 ++ datagrams.2 ++ streams.2)

end Session

end PyWebTransport

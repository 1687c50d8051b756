/-
PyWebTransport.Protocol.Session.Operations — the operations the connection
calls on a session (the `pub(super)` methods of `protocol/session.rs` other
than those of `Session.Capsules`), and `SessionOp`, the type of one such
call.

`SessionOp` and `Session.exec` make a run of a session a list of calls, so
that an invariant is proved by one case per operation.
-/
import PyWebTransport.Protocol.Session.Capsules

namespace PyWebTransport

open PyWebTransport.Lib

namespace Session

/-! ## Establishment -/

def acceptStatus : Bytes × Bytes :=
  (asciiBytes [':', 's', 't', 'a', 't', 'u', 's'], asciiBytes ['2', '0', '0'])

/-- A request of `accept` or `reject` that a check rules out. -/
def failRequest (requestId : RequestId) (reason : String) : Effect :=
  .notifyRequestFailed requestId .session none reason

/-- The protocol header `accept` adds, or the reason it cannot. -/
def acceptProtocolHeader (s : Session) : Option String → Except String Headers
  | none => .ok []
  | some protocol =>
    match encodeWtProtocolList [protocol] with
    | .error _ => .error "wt_protocol encode failed"
    | .ok encoded =>
      if s.wtAvailableProtocols.any (fun protocols => protocols.contains protocol) then
        .ok [(PyWebTransport.wtProtocol, encoded)]
      else .error "wt_protocol validate invalid"

def accept (s : Session) (requestId : RequestId) (headers : Headers) (wtProtocol : Option String)
    (now : Timestamp) : Session × List Effect :=
  if s.isClient then (s, [failRequest requestId "wt_session validate failed"])
  else if s.state ≠ .connecting then (s, [failState requestId])
  else if !isValidUserHeaders headers false then
    (s, [failRequest requestId "h3_headers validate invalid"])
  else
    match s.acceptProtocolHeader wtProtocol with
    | .error reason => (s, [failRequest requestId reason])
    | .ok protocolHeader =>
      let replayed := { s with
        readyAt := some now
        wtProtocol := wtProtocol
        state := .connected }.replayPendingQueues now
      (replayed.1,
        [.sendH3Headers s.id (acceptStatus :: headers ++ protocolHeader) false,
          .emitSessionEvent s.id .sessionReady { wtProtocol := wtProtocol, readyAt := some now },
          .notifyRequestDone requestId .none] ++ replayed.2)

def confirm (s : Session) (wtProtocol : Option String) (now : Timestamp) : Session × List Effect :=
  if s.state ≠ .connecting then (s, [])
  else
    let replayed := { s with
      readyAt := some now
      wtProtocol := wtProtocol
      state := .connected }.replayPendingQueues now
    (replayed.1,
      .emitSessionEvent s.id .sessionReady
        { path := some s.path
          headers := some s.headers
          wtProtocol := wtProtocol
          readyAt := some now } :: replayed.2)

def reject (s : Session) (requestId : RequestId) (headers : Headers) (statusCode : Nat)
    (now : Timestamp) : Session × List Effect :=
  if s.isClient then (s, [failRequest requestId "wt_session validate failed"])
  else if s.state ≠ .connecting then (s, [failState requestId])
  else if ¬(300 ≤ statusCode ∧ statusCode ≤ 599) then
    (s, [failRequest requestId "wt_session validate invalid"])
  else if !isValidUserHeaders headers false then
    (s, [failRequest requestId "h3_headers validate invalid"])
  else
    let torn := { s with
      closeReason := some "wt_session reject"
      closedAt := some now
      state := .closed }.tearDown
    (torn.1, torn.2 ++
      [.sendH3Headers s.id
          ((asciiBytes [':', 's', 't', 'a', 't', 'u', 's'], utf8Bytes (toString statusCode)) ::
            headers) true,
        .emitSessionEvent s.id .sessionClosed
          { statusCode := some statusCode, reason := some "wt_session reject" },
        .notifyRequestDone requestId .none])

/-! ## Ending -/

/-- The capsule of a close with a code or a reason; the reason is cut at a
character boundary. -/
def closeCapsuleValue (errorCode : ErrorCode) (reason : Option String) : Bytes :=
  let bytes := utf8Bytes (reason.getD "")
  beBytes 4 (if errorCode < 2 ^ 32 then errorCode else 2 ^ 32 - 1) ++
    bytes.take (floorCharBoundary bytes wtCloseReasonSizeLimit)

def close (s : Session) (requestId : RequestId) (errorCode : ErrorCode) (reason : Option String)
    (now : Timestamp) : Session × List Effect :=
  if !s.isOpen then (s, [.notifyRequestDone requestId .none])
  else
    let torn := { s with
      closeCode := some errorCode
      closeReason := reason
      closedAt := some now
      state := .closing }.tearDown
    let isCleanClose := decide (errorCode = errAppNoError) && (reason.getD "").isEmpty
    (torn.1, torn.2 ++
      [if isCleanClose then .sendQuicData s.id [] true
        else .sendH3Capsule s.id wtCapsuleTypeCloseSession
          (closeCapsuleValue errorCode reason) true,
        s.closedEvent (some errorCode) reason,
        .notifyRequestDone requestId .none])

def recvConnectClose (s : Session) (errorCode : ErrorCode) (reason : String) (now : Timestamp) :
    Session × List Effect :=
  match s.state with
  | .closed => (s, [])
  | .closing => ({ s with state := .closed }, [])
  | .connected | .connecting | .draining =>
    let torn := { s with
      closeCode := some errorCode
      closeReason := some reason
      closedAt := some now
      state := .closed }.tearDown
    (torn.1, torn.2 ++ [s.closedEvent (some errorCode) (some reason)])

def drain (s : Session) : Session × List Effect :=
  if s.state ≠ .connected then (s, [])
  else
    ({ s with state := .draining },
      [.sendH3Capsule s.id wtCapsuleTypeDrainSession [] false,
        .emitSessionEvent s.id .sessionDraining {}])

/-! ## Opening streams -/

def createStream (s : Session) (requestId : RequestId) ( isUnidirectional : Bool) :
    Session × List Effect :=
  if !s.isOpen then (s, [failState requestId])
  else if s.flowControlNegotiated &&
      s.localStreamsOpened isUnidirectional ≥ s.peerMaxStreams isUnidirectional then
    let blocked := (s.setBlockedStreamRequests isUnidirectional
      (s.blockedStreamRequests isUnidirectional ++ [requestId])).emitStreamsBlocked isUnidirectional
    (blocked.1, blocked.2.toList)
  else
    (s.setLocalStreamsOpened isUnidirectional (s.localStreamsOpened isUnidirectional + 1),
      [.createQuicStream requestId s.id isUnidirectional])

/-- The stream could not be opened yet: its slot is given back and the
request waits. Every deferral answers an earlier creation, which took a
slot, so the counter is positive here. -/
def deferStream (s : Session) (requestId : RequestId) ( isUnidirectional : Bool) :
    Session × List Effect :=
  if !s.isOpen then (s, [failState requestId])
  else
    ((s.setLocalStreamsOpened isUnidirectional (s.localStreamsOpened isUnidirectional - 1))
      |>.setBlockedStreamRequests isUnidirectional
        (s.blockedStreamRequests isUnidirectional ++ [requestId]), [])

def bindStream (s : Session) (streamId : StreamId) (requestId : RequestId)
    ( isUnidirectional : Bool) (now : Timestamp) : Session × List Effect :=
  let direction : StreamDirection := if isUnidirectional then .sendOnly else .bidirectional
  if !s.isOpen then
    (s, [.resetQuicStream streamId errWtSessionGone] ++
      (if direction = .bidirectional then [.stopQuicStream streamId errWtSessionGone] else []) ++
      [failState requestId])
  else
    let stream := Stream.new streamId s.id direction false ⟨s.maxWriteBufferSize⟩ now
    ({ s with streams := s.streams.insert streamId stream },
      [.emitStreamEvent streamId .streamOpened (some s.id) (some direction) (some false) none,
        .notifyRequestDone requestId (.streamId streamId)])

/-- Refuse a stream of the peer: both of its sides, or the receiving one. -/
def refuseStream (streamId : StreamId) (direction : StreamDirection) (errorCode : ErrorCode) :
    List Effect :=
  (if direction = .bidirectional then [.resetQuicStream streamId errorCode] else []) ++
    [.stopQuicStream streamId errorCode]

/-- A peer stream within the limit: it is queued until the session is
established, or announced at once. -/
def admitStream (s : Session) (streamId : StreamId) (direction : StreamDirection)
    (now : Timestamp) : Session × List Effect :=
  if s.state = .connecting && s.pendingStreams.length ≥ s.maxPendingStreams then
    let closed := s.closePeerStream (direction = .receiveOnly)
    (closed.1, refuseStream streamId direction errWtBufferedStreamRejected ++ closed.2)
  else
    let added : Session :=
      { s with
        pendingStreams :=
          if s.state = .connecting then s.pendingStreams ++ [streamId] else s.pendingStreams
        streams := s.streams.insert streamId
          (Stream.new streamId s.id direction true ⟨s.maxWriteBufferSize⟩ now) }
    (added,
      if s.state = .connecting then []
      else [.emitStreamEvent streamId .streamOpened (some s.id) (some direction) (some true) none])

def handleStreamOpened (s : Session) (streamId : StreamId) (now : Timestamp) :
    Session × List Effect :=
  let direction := streamDirectionFromId streamId s.isClient
  if !s.isOpen then (s, refuseStream streamId direction errWtSessionGone)
  else
    match direction with
    | .sendOnly => (s, [])
    | .bidirectional | .receiveOnly =>
      let isUnidirectional := decide (direction = .receiveOnly)
      if s.flowControlNegotiated &&
          s.peerStreamsOpened isUnidirectional ≥ s.localMaxStreams isUnidirectional then
        let aborted := s.abort errWtFlowControlError "wt_session validate exceeded" now
        (aborted.1, refuseStream streamId direction errWtSessionGone ++ aborted.2)
      else
        (s.setPeerStreamsOpened isUnidirectional (s.peerStreamsOpened isUnidirectional + 1))
          |>.admitStream streamId direction now

/-! ## Datagrams and keys -/

def readDatagram (s : Session) (requestId : RequestId) : Session × List Effect :=
  if !s.isOpen then (s, [failState requestId])
  else
    let waiting : Session × List Effect :=
      ({ s with pendingDatagramRequests := s.pendingDatagramRequests ++ [requestId] }, [])
    if s.state = .connecting then waiting
    else
      match s.pendingDatagrams with
      | [] => waiting
      | data :: rest =>
        ({ s with pendingDatagrams := rest }, [.notifyRequestDone requestId (.datagram data)])

def sendDatagram (s : Session) (requestId : RequestId) (data : Bytes)
    (peerMaxDatagramFrameSize : Nat) : Session × List Effect :=
  if !s.isOpen then (s, [failState requestId])
  else if data.length > saturatingSub peerMaxDatagramFrameSize (varintSize (s.id / 4)) then
    (s, [.notifyRequestFailed requestId .datagram none "wt_datagram validate exceeded"])
  else (s, [.sendH3Datagram s.id data, .notifyRequestDone requestId .none])

def exportKeyingMaterial (s : Session) (requestId : RequestId) (label : String) (context : Bytes)
    (length : Nat) : List Effect :=
  if s.state ≠ .connected ∧ s.state ≠ .draining then [failState requestId]
  else
    let label := utf8Bytes label
    if label.length > 255 ∨ context.length > 255 then
      [failRequest requestId "wt_session validate invalid"]
    else
      [.exportTlsKeyingMaterial requestId wtExporterLabel
        (beBytes 8 s.id ++ beBytes 1 label.length ++ label ++ beBytes 1 context.length ++ context)
        length]

/-! ## Operations on one stream -/

/-- Run a stream method that needs no credit, then drop the stream if that
closed it; `absent` answers a call for a stream the session does not have. -/
def onStream (s : Session) (streamId : StreamId) (absent : List Effect)
    (method : Stream → Stream × List Effect) : Session × List Effect :=
  match s.streams.get? streamId with
  | none => (s, absent)
  | some stream =>
    let result := method stream
    let closed := { s with streams := s.streams.insert streamId result.1 }.handleClosed streamId
    (closed.1, result.2 ++ closed.2)

/-- Run a writing method with the session's credit, charge what it sent, and
queue the stream if it waits for credit. -/
def onWriter (s : Session) (streamId : StreamId) (absent : List Effect)
    (method : Stream → Nat → Stream × List Effect × Nat) : Session × List Effect :=
  match s.streams.get? streamId with
  | none => (s, absent)
  | some stream =>
    let result := method stream s.sessionCredit
    let sent : Session :=
      { s with
        streams := s.streams.insert streamId result.1
        dataSent := s.dataSent + result.2.2 }
    let queued : Session :=
      if result.1.isBlocked && decide (streamId ∉ sent.blockedStreams) then
        { sent with
          blockedStreams := insert streamId sent.blockedStreams
          blockedStreamsQueue := sent.blockedStreamsQueue ++ [streamId] }
      else sent
    let blocked := queued.emitDataBlocked
    (blocked.1, result.2.1 ++ blocked.2.toList)

def completeStreamWrite (s : Session) (streamId : StreamId) : Session × List Effect :=
  s.onWriter streamId [] Stream.completeWrite

def writeStream (s : Session) (streamId : StreamId) (requestId : RequestId) (data : Bytes)
    (endStream : Bool) : Session × List Effect :=
  s.onWriter streamId
    [if data.isEmpty && endStream then .notifyRequestDone requestId .none
      else failResolve requestId]
    (fun stream credit => stream.write requestId data endStream credit)

def handleStreamDataAcknowledged (s : Session) (streamId : StreamId) : Session × List Effect :=
  s.onStream streamId [] (fun stream => (stream.handleDataAcknowledged, []))

def readStream (s : Session) (streamId : StreamId) (requestId : RequestId) (maxBytes : Nat) :
    Session × List Effect :=
  s.onStream streamId [failResolve requestId] (fun stream => stream.read requestId maxBytes)

def recvStopSending (s : Session) (streamId : StreamId) (errorCode : ErrorCode) :
    Session × List Effect :=
  s.onStream streamId [] fun stream =>
    let result := stream.recvStopSending errorCode
    (result.1, s.suppressPendingStreamEvents streamId result.2)

def recvStreamReset (s : Session) (streamId : StreamId) (errorCode : ErrorCode) :
    Session × List Effect :=
  s.onStream streamId [] fun stream =>
    let result := stream.recvReset errorCode
    (result.1, s.suppressPendingStreamEvents streamId result.2)

def resetStream (s : Session) (streamId : StreamId) (requestId : RequestId)
    (errorCode : ErrorCode) : Session × List Effect :=
  s.onStream streamId [.notifyRequestDone requestId .none]
    (fun stream => stream.reset requestId errorCode)

def stopStream (s : Session) (streamId : StreamId) (requestId : RequestId)
    (errorCode : ErrorCode) : Session × List Effect :=
  s.onStream streamId [.notifyRequestDone requestId .none]
    (fun stream => stream.stop requestId errorCode)

/-- Bytes of a stream: charged against the limit before the stream sees
them, and counted as consumed once it has. -/
def recvStreamData (s : Session) (streamId : StreamId) (data : Bytes) (endStream : Bool)
    (now : Timestamp) : Session × List Effect :=
  match s.streams.get? streamId with
  | none => (s, [])
  | some stream =>
    let charged : Session := { s with dataReceived := s.dataReceived + data.length }
    if charged.flowControlNegotiated && charged.dataReceived > charged.localMaxData then
      charged.abort errWtFlowControlError "wt_session validate exceeded" now
    else
      let result := stream.recvData data endStream
      let consumed : Session :=
        { charged with
          streams := charged.streams.insert streamId result.1
          dataConsumed := charged.dataConsumed + data.length }
      let credit := consumed.replenishDataCredit false
      let closed := credit.1.handleClosed streamId
      (closed.1, result.2 ++ credit.2.toList ++ closed.2)

/-! ## Diagnostics -/

def diagnosticsSnapshot (s : Session) : SessionDiagnostics where
  closeCode := s.closeCode
  closeReason := s.closeReason
  closedAt := s.closedAt
  createdAt := s.createdAt
  dataConsumed := s.dataConsumed
  dataReceived := s.dataReceived
  dataSent := s.dataSent
  flowControlNegotiated := s.flowControlNegotiated
  headers := s.headers
  isClient := s.isClient
  localMaxData := s.localMaxData
  localMaxStreamsBidi := s.localMaxStreamsBidi
  localMaxStreamsUni := s.localMaxStreamsUni
  localStreamsBidiOpened := s.localStreamsBidiOpened
  localStreamsUniOpened := s.localStreamsUniOpened
  path := s.path
  peerMaxData := s.peerMaxData
  peerMaxStreamsBidi := s.peerMaxStreamsBidi
  peerMaxStreamsUni := s.peerMaxStreamsUni
  peerStreamsBidiClosed := s.peerStreamsBidiClosed
  peerStreamsBidiOpened := s.peerStreamsBidiOpened
  peerStreamsUniClosed := s.peerStreamsUniClosed
  peerStreamsUniOpened := s.peerStreamsUniOpened
  readyAt := s.readyAt
  sessionId := s.id
  state := s.state
  wtAvailableProtocols := s.wtAvailableProtocols
  wtProtocol := s.wtProtocol

def diagnose (s : Session) (requestId : RequestId) : List Effect :=
  [.notifyRequestDone requestId (.sessionDiagnostics s.diagnosticsSnapshot)]

def diagnoseStream (s : Session) (streamId : StreamId) (requestId : RequestId) : List Effect :=
  match s.streams.get? streamId with
  | some stream => stream.diagnose requestId
  | none => [failResolve requestId]

end Session

/-! ## Runs -/

/-- One call of the connection on a session. -/
inductive SessionOp where
  | abort (errorCode : ErrorCode) (reason : String) (now : Timestamp)
  | accept (requestId : RequestId) (headers : Headers) (wtProtocol : Option String)
      (now : Timestamp)
  | bindStream (streamId : StreamId) (requestId : RequestId) ( isUnidirectional : Bool)
      (now : Timestamp)
  | close (requestId : RequestId) (errorCode : ErrorCode) (reason : Option String)
      (now : Timestamp)
  | completeStreamWrite (streamId : StreamId)
  | confirm (wtProtocol : Option String) (now : Timestamp)
  | createStream (requestId : RequestId) ( isUnidirectional : Bool)
  | deferStream (requestId : RequestId) ( isUnidirectional : Bool)
  | diagnose (requestId : RequestId)
  | diagnoseStream (streamId : StreamId) (requestId : RequestId)
  | drain
  | exportKeyingMaterial (requestId : RequestId) (label : String) (context : Bytes) (length : Nat)
  | flushBlockedStreamRequests ( isUnidirectional : Bool)
  | handleStreamDataAcknowledged (streamId : StreamId)
  | handleStreamOpened (streamId : StreamId) (now : Timestamp)
  | readDatagram (requestId : RequestId)
  | readStream (streamId : StreamId) (requestId : RequestId) (maxBytes : Nat)
  | recvCapsule (capsuleType : Nat) (capsuleValue : Bytes) (now : Timestamp)
  | recvConnectClose (errorCode : ErrorCode) (reason : String) (now : Timestamp)
  | recvDatagram (data : Bytes)
  | recvStopSending (streamId : StreamId) (errorCode : ErrorCode)
  | recvStreamData (streamId : StreamId) (data : Bytes) (endStream : Bool) (now : Timestamp)
  | recvStreamReset (streamId : StreamId) (errorCode : ErrorCode)
  | reject (requestId : RequestId) (headers : Headers) (statusCode : Nat) (now : Timestamp)
  | resetStream (streamId : StreamId) (requestId : RequestId) (errorCode : ErrorCode)
  | sendDatagram (requestId : RequestId) (data : Bytes) (peerMaxDatagramFrameSize : Nat)
  | stopStream (streamId : StreamId) (requestId : RequestId) (errorCode : ErrorCode)
  | writeStream (streamId : StreamId) (requestId : RequestId) (data : Bytes) (endStream : Bool)
deriving DecidableEq

/-- What a call does to a session. -/
def Session.exec (s : Session) : SessionOp → Session × List Effect
  | .abort errorCode reason now => s.abort errorCode reason now
  | .accept requestId headers wtProtocol now => s.accept requestId headers wtProtocol now
  | .bindStream streamId requestId isUnidirectional now =>
    s.bindStream streamId requestId isUnidirectional now
  | .close requestId errorCode reason now => s.close requestId errorCode reason now
  | .completeStreamWrite streamId => s.completeStreamWrite streamId
  | .confirm wtProtocol now => s.confirm wtProtocol now
  | .createStream requestId isUnidirectional => s.createStream requestId isUnidirectional
  | .deferStream requestId isUnidirectional => s.deferStream requestId isUnidirectional
  | .diagnose requestId => (s, s.diagnose requestId)
  | .diagnoseStream streamId requestId => (s, s.diagnoseStream streamId requestId)
  | .drain => s.drain
  | .exportKeyingMaterial requestId label context length =>
    (s, s.exportKeyingMaterial requestId label context length)
  | .flushBlockedStreamRequests isUnidirectional => s.flushBlockedStreamRequests isUnidirectional
  | .handleStreamDataAcknowledged streamId => s.handleStreamDataAcknowledged streamId
  | .handleStreamOpened streamId now => s.handleStreamOpened streamId now
  | .readDatagram requestId => s.readDatagram requestId
  | .readStream streamId requestId maxBytes => s.readStream streamId requestId maxBytes
  | .recvCapsule capsuleType capsuleValue now => s.recvCapsule capsuleType capsuleValue now
  | .recvConnectClose errorCode reason now => s.recvConnectClose errorCode reason now
  | .recvDatagram data => s.recvDatagram data
  | .recvStopSending streamId errorCode => s.recvStopSending streamId errorCode
  | .recvStreamData streamId data endStream now => s.recvStreamData streamId data endStream now
  | .recvStreamReset streamId errorCode => s.recvStreamReset streamId errorCode
  | .reject requestId headers statusCode now => s.reject requestId headers statusCode now
  | .resetStream streamId requestId errorCode => s.resetStream streamId requestId errorCode
  | .sendDatagram requestId data peerMaxDatagramFrameSize =>
    s.sendDatagram requestId data peerMaxDatagramFrameSize
  | .stopStream streamId requestId errorCode => s.stopStream streamId requestId errorCode
  | .writeStream streamId requestId data endStream =>
    s.writeStream streamId requestId data endStream

end PyWebTransport

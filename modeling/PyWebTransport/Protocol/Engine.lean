/-
PyWebTransport.Protocol.Engine — the protocol engine (`protocol/engine.rs`):
one connection, its HTTP/3 layer, and the user requests that wait for the
connection to be established.

`handle_event` keeps a queue. An event may raise further events, which go
to the FRONT of the queue, so they and everything they raise are finished
before the next one: the queue is processed depth first. `step` is one turn
of the loop, with the events it pushes; `handleEvent` processes an event
with all that it raises. The nesting is at most three deep — a transport
event raises HTTP/3 events, SETTINGS releases the waiting user requests, and
those raise nothing — and `queueLoop`, the loop as the source writes it,
gives the same result (`queueLoop_iff_handleEvent`).
-/
import PyWebTransport.Lib.DepthFirst
import PyWebTransport.Protocol.H3.Transport

namespace PyWebTransport

open PyWebTransport.Lib

structure EngineParameters where
  earlyEventTtl : Timestamp
  initialMaxData : Nat
  initialMaxStreamsBidi : Nat
  initialMaxStreamsUni : Nat
  maxCapsuleSize : Nat
  maxConnectionPendingEvents : Nat
  maxFieldSectionSize : Nat
  maxPendingCapsules : Nat
  maxPendingDatagrams : Nat
  maxPendingStreams : Nat
  maxSessionPendingEvents : Nat
  maxSessions : Nat
  maxWriteBufferSize : Nat
  sessionReceiveWindow : Nat
deriving DecidableEq

structure WebTransportEngine (Q : Qpack) where
  connection : Connection
  h3 : H3 Q
  pendingUserEvents : List ProtocolEvent

namespace WebTransportEngine

variable {Q : Qpack}

def new (handle : ConnectionHandle) (requestId : Option RequestId) ( isClient : Bool)
    (parameters : EngineParameters) : WebTransportEngine Q where
  connection := Connection.new handle requestId isClient
    { earlyEventTtl := parameters.earlyEventTtl
      initialMaxData := parameters.initialMaxData
      initialMaxStreamsBidi := parameters.initialMaxStreamsBidi
      initialMaxStreamsUni := parameters.initialMaxStreamsUni
      maxConnectionPendingEvents := parameters.maxConnectionPendingEvents
      maxPendingCapsules := parameters.maxPendingCapsules
      maxPendingDatagrams := parameters.maxPendingDatagrams
      maxPendingStreams := parameters.maxPendingStreams
      maxSessionPendingEvents := parameters.maxSessionPendingEvents
      maxSessions := parameters.maxSessions
      maxWriteBufferSize := parameters.maxWriteBufferSize
      sessionReceiveWindow := parameters.sessionReceiveWindow }
  h3 := H3.new isClient
    { initialMaxData := parameters.initialMaxData
      initialMaxStreamsBidi := parameters.initialMaxStreamsBidi
      initialMaxStreamsUni := parameters.initialMaxStreamsUni
      maxCapsuleSize := parameters.maxCapsuleSize
      maxFieldSectionSize := parameters.maxFieldSectionSize }
  pendingUserEvents := []

/-! ## Encoding for the reactor -/

/-- The chunks of a message as writes to one stream, the last of which may end it. -/
def sendChunks (streamId : StreamId) (endStream : Bool) : List Bytes → List Effect
  | [] => []
  | [chunk] => [.sendQuicData streamId chunk endStream]
  | chunk :: rest => .sendQuicData streamId chunk false :: sendChunks streamId endStream rest

def encodeCapsule (streamId : StreamId) (capsuleType : Nat) (capsuleValue : Bytes)
    (endStream : Bool) : Except WebTransportError (List Effect) :=
  (H3.encodeCapsule streamId capsuleType capsuleValue).map (sendChunks streamId endStream)

def encodeDatagram (sessionId : SessionId) (data : Bytes) :
    Except WebTransportError (List Effect) :=
  (H3.encodeDatagram sessionId data).map fun parts =>
    [.sendQuicDatagram (parts[0]?.getD []) (parts[1]?.getD [])]

def encodeGoaway (e : WebTransportEngine Q) (identifier : Nat) : List Effect :=
  match e.h3.localControlStreamId, H3.encodeGoaway identifier with
  | some streamId, .ok data => [.sendQuicData streamId data false]
  | _, _ => []

def encodeHeaders (e : WebTransportEngine Q) (streamId : StreamId) (headers : Headers)
    (endStream : Bool) : WebTransportEngine Q × Except WebTransportError (List Effect) :=
  let encoded := e.h3.encodeHeaders streamId headers endStream
  ({ e with h3 := encoded.1 }, encoded.2)

def encodeConnectRequest (e : WebTransportEngine Q) (streamId : StreamId)
    (authority path : String) (headers : Headers) :
    WebTransportEngine Q × Except WebTransportError (List Effect) :=
  let encoded := e.h3.encodeConnectRequest streamId authority path headers
  ({ e with h3 := encoded.1 }, encoded.2)

/-! ## One turn of the loop -/

/-- The engine after a turn, the effects of the turn, and the events it puts
at the front of the queue. -/
structure Turn (Q : Qpack) where
  engine : WebTransportEngine Q
  effects : List Effect
  raised : List ProtocolEvent

/-- A turn that only calls the connection. -/
def onConnection (e : WebTransportEngine Q) (result : Connection × List Effect) : Turn Q :=
  ⟨{ e with connection := result.1 }, result.2, []⟩

/-- The request of a user event that can wait for the connection. -/
def pendingRequestId : ProtocolEvent → Option RequestId
  | .userCreateSession requestId .. => some requestId
  | .userCreateSessionOptimistic requestId .. => some requestId
  | .userCreateStream requestId .. => some requestId
  | _ => none

def failPendingUserEvents (e : WebTransportEngine Q) (errorCode : Option ErrorCode)
    (reason : String) : WebTransportEngine Q × List Effect :=
  ({ e with pendingUserEvents := [] },
    (e.pendingUserEvents.filterMap pendingRequestId).map fun requestId =>
      .notifyRequestFailed requestId .connection errorCode reason)

/-- Close or end the connection and give up the requests that wait for it. -/
def endConnection (e : WebTransportEngine Q) (result : Connection × List Effect)
    (reason : String) : Turn Q :=
  let failed := { e with connection := result.1 }.failPendingUserEvents
    (some errLibConnectionStateError) reason
  ⟨failed.1, result.2 ++ failed.2, []⟩

/-- After an event that may have established the connection, a client's
waiting requests go to the front of the queue. -/
def replayPending (turn : Turn Q) : Turn Q :=
  if turn.engine.connection.isClient && turn.engine.connection.isConnected then
    ⟨{ turn.engine with pendingUserEvents := [] }, turn.effects, turn.engine.pendingUserEvents⟩
  else turn

/-- A request that a client keeps until it is connected. -/
def deferUntilConnected (e : WebTransportEngine Q) (event : ProtocolEvent)
    (result : Connection × List Effect) : Turn Q :=
  if e.connection.isClient && e.connection.isPreConnected then
    ⟨{ e with pendingUserEvents := e.pendingUserEvents ++ [event] }, [], []⟩
  else e.onConnection result

/-- An event HTTP/3 handles; what it finds is raised. -/
def onTransport (e : WebTransportEngine Q) (event : ProtocolEvent) : Option (Turn Q) :=
  (e.h3.handleTransportEvent event e.connection).map fun handled =>
    ⟨{ e with h3 := handled.1 }, handled.2.2, handled.2.1⟩

/-- A capsule; one that ended its session also ends the CONNECT stream. -/
def onCapsule (e : WebTransportEngine Q) (streamId : StreamId) (capsuleType : Nat)
    (capsuleValue : Bytes) (now : Timestamp) : Turn Q :=
  let received := e.connection.recvCapsule streamId capsuleType capsuleValue now
  if received.1.isSessionClosed streamId then
    let stopped := e.h3.stopRequestStream streamId
    ⟨{ e with connection := received.1, h3 := stopped.1 }, received.2 ++ stopped.2, []⟩
  else e.onConnection received

/-- Headers; the stream is read on if they made or found a session. -/
def onHeaders (e : WebTransportEngine Q) (streamId : StreamId) (headers : Headers)
    (now : Timestamp) : Turn Q :=
  let received := e.connection.recvHeaders streamId headers now
  if received.1.isSessionStream streamId then
    ⟨{ e with connection := received.1 }, received.2 ++ e.h3.resumeRequestStream streamId, []⟩
  else
    let cleaned := e.h3.cleanupStream streamId
    ⟨{ e with connection := received.1, h3 := cleaned.1 }, received.2 ++ cleaned.2, []⟩

def onReset (e : WebTransportEngine Q) (streamId : StreamId) (errorCode : ErrorCode)
    (now : Timestamp) : Option (Turn Q) :=
  if e.connection.hasStream streamId then
    some (e.onConnection (e.connection.recvStreamReset streamId errorCode now))
  else if e.connection.isSessionStream streamId then
    let cleaned := e.h3.cleanupStream streamId
    let reset := e.connection.recvStreamReset streamId errorCode now
    some ⟨{ e with connection := reset.1, h3 := cleaned.1 }, cleaned.2 ++ reset.2, []⟩
  else e.onTransport (.transportResetStreamReceived streamId errorCode)

def onStopSending (e : WebTransportEngine Q) (streamId : StreamId) (errorCode : ErrorCode)
    (now : Timestamp) : Option (Turn Q) :=
  if e.connection.hasStream streamId || e.connection.isSessionStream streamId then
    some (e.onConnection (e.connection.recvStopSending streamId errorCode now))
  else e.onTransport (.transportStopSendingReceived streamId errorCode)

def onStreamData (e : WebTransportEngine Q) (streamId : StreamId) (data : Bytes)
    (endStream : Bool) (now : Timestamp) : Option (Turn Q) :=
  if e.connection.hasStream streamId then
    some (e.onConnection (e.connection.recvStreamData streamId data endStream now))
  else e.onTransport (.transportStreamDataReceived streamId data endStream)

/-- The `match` of `handle_event`; `none` when HTTP/3 does not return. -/
def step (e : WebTransportEngine Q) (now : Timestamp) (event : ProtocolEvent) :
    Option (Turn Q) :=
  let c := e.connection
  match event with
  | .h3CapsuleReceived streamId capsuleType capsuleValue =>
    some (e.onCapsule streamId capsuleType capsuleValue now)
  | .h3ConnectStreamClosed streamId => some (e.onConnection (c.recvConnectClose streamId now))
  | .h3DatagramReceived sessionId data =>
    some (e.onConnection (c.recvDatagram sessionId data now))
  | .h3GoawayReceived => some (e.onConnection c.recvGoaway)
  | .h3HeadersReceived streamId headers => some (e.onHeaders streamId headers now)
  | .h3SettingsReceived settings =>
    some (replayPending (e.onConnection (c.recvSettings settings now)))
  | .h3WebTransportStreamOpened sessionId streamId =>
    some (e.onConnection (c.handleStreamOpened sessionId streamId now))
  | .internalBindH3ConnectStream requestId streamId =>
    let bound := c.bindSession streamId requestId
    let opened := e.h3.bindConnectStream streamId
    some ⟨{ e with connection := bound.1, h3 := opened.1 }, bound.2 ++ opened.2, []⟩
  | .internalBindH3LocalStreams controlStreamId encoderStreamId decoderStreamId =>
    let bound := e.h3.bindLocalStreams controlStreamId encoderStreamId decoderStreamId
    some ⟨{ e with h3 := bound.1 }, bound.2, []⟩
  | .internalBindQuicStream requestId streamId sessionId isUnidirectional =>
    some (e.onConnection (c.bindStream sessionId streamId requestId isUnidirectional now))
  | .internalCleanupEarlyEvents => some (e.onConnection (c.pruneEarlyEvents now))
  | .internalCleanupResources => some (e.onConnection (c.pruneResources, []))
  | .internalCloseConnection =>
    some (e.endConnection (c.close none errH3NoError none now) "wt_connection close")
  | .internalCompleteQuicData streamId => some (e.onConnection (c.completeStreamWrite streamId))
  | .internalDeferH3ConnectStream requestId => some (e.onConnection (c.deferSession requestId))
  | .internalDeferQuicStream requestId sessionId isUnidirectional =>
    some (e.onConnection (c.deferStream sessionId requestId isUnidirectional))
  | .internalFailH3ConnectStream requestId errorCode reason =>
    some (e.onConnection (c.failSession requestId errorCode reason))
  | .internalFailH3LocalStreams => some ⟨e, H3.failLocalStreams, []⟩
  | .transportConnectionTerminated errorCode reason =>
    some (e.endConnection (c.handleTerminated errorCode reason now) "wt_connection abort")
  | .transportHandshakeCompleted =>
    some (replayPending (e.onConnection (c.handleHandshakeCompleted now)))
  | .transportMaxStreamsReceived isUnidirectional =>
    some (e.onConnection (c.recvMaxStreams isUnidirectional))
  | .transportQuicParametersReceived peerMaxDatagramFrameSize =>
    some (e.onConnection (c.recvTransportParameters peerMaxDatagramFrameSize))
  | .transportResetStreamReceived streamId errorCode => e.onReset streamId errorCode now
  | .transportStopSendingReceived streamId errorCode => e.onStopSending streamId errorCode now
  | .transportStreamDataAcknowledged streamId =>
    some (e.onConnection (c.handleStreamDataAcknowledged streamId))
  | .transportStreamDataReceived streamId data endStream =>
    e.onStreamData streamId data endStream now
  | .transportDatagramReceived data => e.onTransport (.transportDatagramReceived data)
  | .transportStreamOpened streamId => e.onTransport (.transportStreamOpened streamId)
  | .userAcceptSession requestId sessionId headers wtProtocol =>
    some (e.onConnection (c.acceptSession sessionId requestId headers wtProtocol now))
  | .userCloseConnection requestId errorCode reason =>
    some (e.endConnection (c.close (some requestId) errorCode reason now) "wt_connection close")
  | .userCloseConnectionGracefully requestId => some (e.onConnection (c.closeGracefully requestId))
  | .userCloseSession requestId sessionId errorCode reason =>
    some (e.onConnection (c.closeSession sessionId requestId errorCode reason now))
  | .userCreateSession requestId authority path headers wtAvailableProtocols =>
    some (e.deferUntilConnected event (c.createSession requestId
      { authority, createdAt := now, headers, optimistic := false, path, wtAvailableProtocols }))
  | .userCreateSessionOptimistic requestId authority path headers wtAvailableProtocols =>
    some (e.deferUntilConnected event (c.createSession requestId
      { authority, createdAt := now, headers, optimistic := true, path, wtAvailableProtocols }))
  | .userCreateStream requestId sessionId isUnidirectional =>
    some (e.deferUntilConnected event (c.createStream sessionId requestId isUnidirectional))
  | .userDiagnoseConnection requestId => some (e.onConnection (c, c.diagnose requestId))
  | .userDiagnoseSession requestId sessionId =>
    some (e.onConnection (c.diagnoseSession sessionId requestId))
  | .userDiagnoseStream requestId streamId =>
    some (e.onConnection (c, c.diagnoseStream streamId requestId))
  | .userExportKeyingMaterial requestId sessionId label context length =>
    some (e.onConnection (c.exportKeyingMaterial sessionId requestId label context length))
  | .userReadDatagram requestId sessionId =>
    some (e.onConnection (c.readDatagram sessionId requestId))
  | .userReadStream requestId streamId maxSize =>
    some (e.onConnection (c.readStream streamId requestId maxSize))
  | .userRejectSession requestId sessionId headers statusCode =>
    some (e.onConnection (c.rejectSession sessionId requestId headers statusCode now))
  | .userResetStream requestId streamId errorCode =>
    some (e.onConnection (c.resetStream streamId requestId errorCode))
  | .userSendDatagram requestId sessionId data =>
    some (e.onConnection (c.sendDatagram sessionId requestId data))
  | .userStopSending requestId streamId errorCode =>
    some (e.onConnection (c.stopStream streamId requestId errorCode))
  | .userWriteStream requestId streamId data endStream =>
    some (e.onConnection (c.writeStream streamId requestId data endStream))

/-! ## The loop -/

/-- A turn as the queue sees it. -/
def turn (now : Timestamp) (e : WebTransportEngine Q) (event : ProtocolEvent) :
    Option (WebTransportEngine Q × List Effect × List ProtocolEvent) :=
  (e.step now event).map fun turn => (turn.engine, turn.effects, turn.raised)

def handleEvent (e : WebTransportEngine Q) (event : ProtocolEvent) (now : Timestamp) :
    Option (WebTransportEngine Q × List Effect) :=
  DepthFirst.run (turn now) 3 e event

/-- The loop of `handle_event` as the source writes it, on an explicit queue. -/
def queueLoop (now : Timestamp) : Nat → WebTransportEngine Q → List ProtocolEvent →
    Option (WebTransportEngine Q × List Effect) :=
  DepthFirst.loop (turn now)

end WebTransportEngine

end PyWebTransport

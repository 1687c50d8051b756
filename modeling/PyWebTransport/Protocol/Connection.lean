/-
PyWebTransport.Protocol.Connection — the state machine of one connection
(`protocol/connection.rs`): the table of sessions, the requests that wait
for one, the map from streams to their sessions, and the buffer of events
that arrived before their session.

Most methods look a session up, call one of its operations, and answer the
request themselves when there is no such session. `onSession` and
`onStream` are that look-up; each method is one of them applied to its own
operation and its own answer. A loop over the sorted session ids that calls
one operation on each session is `forEachSession`.
-/
import PyWebTransport.Protocol.Session.Operations
import Mathlib.Data.List.Sort

namespace PyWebTransport

open PyWebTransport.Lib

structure ConnectionParameters where
  earlyEventTtl : Timestamp
  initialMaxData : Nat
  initialMaxStreamsBidi : Nat
  initialMaxStreamsUni : Nat
  maxConnectionPendingEvents : Nat
  maxPendingCapsules : Nat
  maxPendingDatagrams : Nat
  maxPendingStreams : Nat
  maxSessionPendingEvents : Nat
  maxSessions : Nat
  maxWriteBufferSize : Nat
  sessionReceiveWindow : Nat
deriving DecidableEq

structure SessionRequest where
  authority : String
  createdAt : Timestamp
  headers : Headers
  optimistic : Bool
  path : String
  wtAvailableProtocols : Option (List String)
deriving DecidableEq

structure Connection where
  blockedSessionRequests : List RequestId
  closeCode : Option ErrorCode
  closeReason : Option String
  closedAt : Option Timestamp
  connectedAt : Option Timestamp
  earlyEventBuffer : OrderedMap SessionId (List (Timestamp × ProtocolEvent))
  earlyEventCount : Nat
  earlyEventTtl : Timestamp
  handle : ConnectionHandle
  handshakeCompleted : Bool
  initialMaxData : Nat
  initialMaxStreamsBidi : Nat
  initialMaxStreamsUni : Nat
  isClient : Bool
  localGoawaySent : Bool
  maxConnectionPendingEvents : Nat
  maxPendingCapsules : Nat
  maxPendingDatagrams : Nat
  maxPendingStreams : Nat
  maxSessionPendingEvents : Nat
  maxSessions : Nat
  maxWriteBufferSize : Nat
  peerGoawayReceived : Bool
  peerInitialMaxData : Nat
  peerInitialMaxStreamsBidi : Nat
  peerInitialMaxStreamsUni : Nat
  peerMaxDatagramFrameSize : Option Nat
  peerSettingsReceived : Bool
  pendingSessionRequests : OrderedMap StreamId RequestId
  requestId : Option RequestId
  sessionReceiveWindow : Nat
  sessionRequests : OrderedMap RequestId SessionRequest
  sessions : OrderedMap SessionId Session
  state : ConnectionState
  streamMap : OrderedMap StreamId SessionId

namespace Connection

def new (handle : ConnectionHandle) (requestId : Option RequestId) ( isClient : Bool)
    (parameters : ConnectionParameters) : Connection where
  blockedSessionRequests := []
  closeCode := none
  closeReason := none
  closedAt := none
  connectedAt := none
  earlyEventBuffer := ∅
  earlyEventCount := 0
  earlyEventTtl := parameters.earlyEventTtl
  handle := handle
  handshakeCompleted := false
  initialMaxData := parameters.initialMaxData
  initialMaxStreamsBidi := parameters.initialMaxStreamsBidi
  initialMaxStreamsUni := parameters.initialMaxStreamsUni
  isClient := isClient
  localGoawaySent := false
  maxConnectionPendingEvents := parameters.maxConnectionPendingEvents
  maxPendingCapsules := parameters.maxPendingCapsules
  maxPendingDatagrams := parameters.maxPendingDatagrams
  maxPendingStreams := parameters.maxPendingStreams
  maxSessionPendingEvents := parameters.maxSessionPendingEvents
  maxSessions := parameters.maxSessions
  maxWriteBufferSize := parameters.maxWriteBufferSize
  peerGoawayReceived := false
  peerInitialMaxData := 0
  peerInitialMaxStreamsBidi := 0
  peerInitialMaxStreamsUni := 0
  peerMaxDatagramFrameSize := none
  peerSettingsReceived := false
  pendingSessionRequests := ∅
  requestId := requestId
  sessionReceiveWindow := parameters.sessionReceiveWindow
  sessionRequests := ∅
  sessions := ∅
  state := .idle
  streamMap := ∅

/-! ## Observations -/

def hasStream (c : Connection) (streamId : StreamId) : Bool := c.streamMap.contains streamId

def isConnected (c : Connection) : Bool := c.state = .connected

def isPreConnected (c : Connection) : Bool := c.state = .connecting || c.state = .idle

def isSessionClosed (c : Connection) (sessionId : SessionId) : Bool :=
  (c.sessions.get? sessionId).any Session.isClosed

def isSessionStream (c : Connection) (streamId : StreamId) : Bool := c.sessions.contains streamId

/-- Both sides must have configured a limit for flow control to be on. -/
def hasFlowControl (c : Connection) : Bool :=
  let localIntent := c.initialMaxData > 0 || c.initialMaxStreamsBidi > 0 ||
    c.initialMaxStreamsUni > 0
  let peerIntent := c.peerInitialMaxData > 0 || c.peerInitialMaxStreamsBidi > 0 ||
    c.peerInitialMaxStreamsUni > 0
  localIntent && peerIntent

/-- The number of sessions the connection may have; zero is no limit. -/
def activeLimit (c : Connection) : Nat := if c.hasFlowControl then c.maxSessions else 1

/-- The parameters of a session created now. -/
def sessionParameters (c : Connection) : SessionParameters where
  flowControlNegotiated := c.hasFlowControl
  initialMaxData := c.initialMaxData
  initialMaxStreamsBidi := c.initialMaxStreamsBidi
  initialMaxStreamsUni := c.initialMaxStreamsUni
  maxPendingCapsules := c.maxPendingCapsules
  maxPendingDatagrams := c.maxPendingDatagrams
  maxPendingStreams := c.maxPendingStreams
  maxWriteBufferSize := c.maxWriteBufferSize
  peerMaxData := c.peerInitialMaxData
  peerMaxStreamsBidi := c.peerInitialMaxStreamsBidi
  peerMaxStreamsUni := c.peerInitialMaxStreamsUni
  receiveWindow := c.sessionReceiveWindow

/-! ## Look-ups -/

/-- Call an operation of a session; `absent` is the outcome when there is none. -/
def onSession (c : Connection) (sessionId : SessionId) (absent : Connection × List Effect)
    (method : Session → Session × List Effect) : Connection × List Effect :=
  match c.sessions.get? sessionId with
  | none => absent
  | some session =>
    let result := method session
    ({ c with sessions := c.sessions.insert sessionId result.1 }, result.2)

/-- Call an operation of the session a stream belongs to, and forget the
stream if the session has dropped it. -/
def onStream (c : Connection) (streamId : StreamId) (absent : Connection × List Effect)
    (method : Session → Session × List Effect) : Connection × List Effect :=
  match c.streamMap.get? streamId with
  | none => absent
  | some sessionId =>
    match c.sessions.get? sessionId with
    | none => absent
    | some session =>
      let result := method session
      ({ c with
          sessions := c.sessions.insert sessionId result.1
          streamMap :=
            if result.1.hasStream streamId then c.streamMap else c.streamMap.erase streamId },
        result.2)

/-- Record which session a stream belongs to, if the session took it. -/
def mapStream (c : Connection) (sessionId : SessionId) (streamId : StreamId) : Connection :=
  if (c.sessions.get? sessionId).any (fun session => session.hasStream streamId) then
    { c with streamMap := c.streamMap.insert streamId sessionId }
  else c

def forEachSession (c : Connection) (method : Session → Session × List Effect) :
    Connection × List Effect :=
  ({ c with sessions := c.sessions.map (fun session => (method session).1) },
    c.sessions.values.flatMap (fun session => (method session).2))

/-- A request that names no session of the connection. -/
def failResolveSession (requestId : RequestId) : Effect :=
  .notifyRequestFailed requestId .session (some errLibSessionStateError)
    "wt_session resolve failed"

/-- A request that names no stream of the connection. -/
def failResolveStream (requestId : RequestId) : Effect :=
  .notifyRequestFailed requestId .stream (some errLibStreamStateError) "wt_stream resolve failed"

/-- A request the connection's state rules out. -/
def failConnection (requestId : RequestId) (errorCode : Option ErrorCode) (reason : String) :
    Effect :=
  .notifyRequestFailed requestId .connection errorCode reason

/-! ## Calls on one session -/

def acceptSession (c : Connection) (sessionId : SessionId) (requestId : RequestId)
    (headers : Headers) (wtProtocol : Option String) (now : Timestamp) :
    Connection × List Effect :=
  c.onSession sessionId (c, [failResolveSession requestId])
    (fun session => session.accept requestId headers wtProtocol now)

def bindStream (c : Connection) (sessionId : SessionId) (streamId : StreamId)
    (requestId : RequestId) ( isUnidirectional : Bool) (now : Timestamp) :
    Connection × List Effect :=
  let bound := c.onSession sessionId (c, [failResolveSession requestId])
    (fun session => session.bindStream streamId requestId isUnidirectional now)
  (bound.1.mapStream sessionId streamId, bound.2)

def closeSession (c : Connection) (sessionId : SessionId) (requestId : RequestId)
    (errorCode : ErrorCode) (reason : Option String) (now : Timestamp) : Connection × List Effect :=
  c.onSession sessionId (c, [.notifyRequestDone requestId .none])
    (fun session => session.close requestId errorCode reason now)

def createStream (c : Connection) (sessionId : SessionId) (requestId : RequestId)
    ( isUnidirectional : Bool) : Connection × List Effect :=
  c.onSession sessionId (c, [failResolveSession requestId])
    (fun session => session.createStream requestId isUnidirectional)

def deferStream (c : Connection) (sessionId : SessionId) (requestId : RequestId)
    ( isUnidirectional : Bool) : Connection × List Effect :=
  c.onSession sessionId (c, [failResolveSession requestId])
    (fun session => session.deferStream requestId isUnidirectional)

def diagnoseSession (c : Connection) (sessionId : SessionId) (requestId : RequestId) :
    Connection × List Effect :=
  c.onSession sessionId (c, [failResolveSession requestId])
    (fun session => (session, session.diagnose requestId))

def exportKeyingMaterial (c : Connection) (sessionId : SessionId) (requestId : RequestId)
    (label : String) (context : Bytes) (length : Nat) : Connection × List Effect :=
  c.onSession sessionId (c, [failResolveSession requestId])
    (fun session => (session, session.exportKeyingMaterial requestId label context length))

def readDatagram (c : Connection) (sessionId : SessionId) (requestId : RequestId) :
    Connection × List Effect :=
  c.onSession sessionId (c, [failResolveSession requestId])
    (fun session => session.readDatagram requestId)

def recvCapsule (c : Connection) (sessionId : SessionId) (capsuleType : Nat)
    (capsuleValue : Bytes) (now : Timestamp) : Connection × List Effect :=
  c.onSession sessionId (c, []) (fun session => session.recvCapsule capsuleType capsuleValue now)

def recvConnectClose (c : Connection) (sessionId : SessionId) (now : Timestamp) :
    Connection × List Effect :=
  c.onSession sessionId (c, []) (fun session => session.recvConnectClose errAppNoError "" now)

def rejectSession (c : Connection) (sessionId : SessionId) (requestId : RequestId)
    (headers : Headers) (statusCode : Nat) (now : Timestamp) : Connection × List Effect :=
  c.onSession sessionId (c, [failResolveSession requestId])
    (fun session => session.reject requestId headers statusCode now)

def sendDatagram (c : Connection) (sessionId : SessionId) (requestId : RequestId) (data : Bytes) :
    Connection × List Effect :=
  c.onSession sessionId (c, [failResolveSession requestId])
    (fun session => session.sendDatagram requestId data (c.peerMaxDatagramFrameSize.getD 0))

/-! ## Calls on the session of a stream -/

def completeStreamWrite (c : Connection) (streamId : StreamId) : Connection × List Effect :=
  c.onStream streamId (c, []) (fun session => session.completeStreamWrite streamId)

def diagnoseStream (c : Connection) (streamId : StreamId) (requestId : RequestId) :
    List Effect :=
  match (c.streamMap.get? streamId).bind c.sessions.get? with
  | some session => session.diagnoseStream streamId requestId
  | none => [failResolveStream requestId]

def handleStreamDataAcknowledged (c : Connection) (streamId : StreamId) :
    Connection × List Effect :=
  c.onStream streamId (c, []) (fun session => session.handleStreamDataAcknowledged streamId)

def readStream (c : Connection) (streamId : StreamId) (requestId : RequestId) (maxSize : Nat) :
    Connection × List Effect :=
  c.onStream streamId (c, [failResolveStream requestId])
    (fun session => session.readStream streamId requestId maxSize)

/-- A peer that stops or resets a CONNECT stream ends its session. -/
def abortSessionStream (c : Connection) (streamId : StreamId) (errorCode : ErrorCode)
    (now : Timestamp) : Connection × List Effect :=
  c.onSession streamId (c, []) (fun session => session.abort errorCode "wt_session abort" now)

def recvStopSending (c : Connection) (streamId : StreamId) (errorCode : ErrorCode)
    (now : Timestamp) : Connection × List Effect :=
  c.onStream streamId (c.abortSessionStream streamId errorCode now)
    (fun session => session.recvStopSending streamId errorCode)

def recvStreamData (c : Connection) (streamId : StreamId) (data : Bytes) (fin : Bool)
    (now : Timestamp) : Connection × List Effect :=
  c.onStream streamId (c, []) (fun session => session.recvStreamData streamId data fin now)

def recvStreamReset (c : Connection) (streamId : StreamId) (errorCode : ErrorCode)
    (now : Timestamp) : Connection × List Effect :=
  c.onStream streamId (c.abortSessionStream streamId errorCode now)
    (fun session => session.recvStreamReset streamId errorCode)

def resetStream (c : Connection) (streamId : StreamId) (requestId : RequestId)
    (errorCode : ErrorCode) : Connection × List Effect :=
  c.onStream streamId (c, [.notifyRequestDone requestId .none])
    (fun session => session.resetStream streamId requestId errorCode)

def stopStream (c : Connection) (streamId : StreamId) (requestId : RequestId)
    (errorCode : ErrorCode) : Connection × List Effect :=
  c.onStream streamId (c, [.notifyRequestDone requestId .none])
    (fun session => session.stopStream streamId requestId errorCode)

def writeStream (c : Connection) (streamId : StreamId) (requestId : RequestId) (data : Bytes)
    (endStream : Bool) : Connection × List Effect :=
  c.onStream streamId
    (c, [if data.isEmpty && endStream then .notifyRequestDone requestId .none
      else failResolveStream requestId])
    (fun session => session.writeStream streamId requestId data endStream)

/-! ## Events ahead of their session -/

def bufferEarlyEvent (c : Connection) (sessionId : SessionId) (event : ProtocolEvent)
    (now : Timestamp) : Connection × Bool :=
  if c.earlyEventCount ≥ c.maxConnectionPendingEvents then (c, false)
  else
    -- `entry(..).or_default()` leaves an empty buffer behind even when it is refused
    let sessionBuffer := (c.earlyEventBuffer.get? sessionId).getD []
    if sessionBuffer.length ≥ c.maxSessionPendingEvents then
      ({ c with earlyEventBuffer := c.earlyEventBuffer.insert sessionId sessionBuffer }, false)
    else
      ({ c with
          earlyEventBuffer :=
            c.earlyEventBuffer.insert sessionId (sessionBuffer ++ [(now, event)])
          earlyEventCount := c.earlyEventCount + 1 }, true)

/-- Refuse a stream whose session never came. -/
def rejectBufferedStream (streamId : StreamId) : List Effect :=
  if isUnidirectionalStream streamId then [.stopQuicStream streamId errWtBufferedStreamRejected]
  else [.resetQuicStream streamId errWtBufferedStreamRejected,
    .stopQuicStream streamId errWtBufferedStreamRejected]

def handleStreamOpened (c : Connection) (sessionId : SessionId) (streamId : StreamId)
    (now : Timestamp) : Connection × List Effect :=
  if c.sessions.contains sessionId then
    let opened := c.onSession sessionId (c, [])
      (fun session => session.handleStreamOpened streamId now)
    (opened.1.mapStream sessionId streamId, opened.2)
  else
    let buffered := c.bufferEarlyEvent sessionId (.h3WebTransportStreamOpened sessionId streamId) now
    (buffered.1, if buffered.2 then [] else rejectBufferedStream streamId)

def recvDatagram (c : Connection) (sessionId : SessionId) (data : Bytes) (now : Timestamp) :
    Connection × List Effect :=
  c.onSession sessionId
    ((c.bufferEarlyEvent sessionId (.h3DatagramReceived sessionId data) now).1, [])
    (fun session => session.recvDatagram data)

/-- What is owed to an early event that is dropped. -/
def dropEarlyEvent : ProtocolEvent → List Effect
  | .h3WebTransportStreamOpened _ streamId => rejectBufferedStream streamId
  | _ => []

def pruneEarlyEvents (c : Connection) (now : Timestamp) : Connection × List Effect :=
  let isValid := fun (entry : Timestamp × ProtocolEvent) =>
    decide (now - entry.1 < c.earlyEventTtl)
  let expired := c.earlyEventBuffer.values.flatMap
    (fun events => events.filter (fun entry => !isValid entry))
  ({ c with
      earlyEventBuffer :=
        (c.earlyEventBuffer.map (fun events => events.filter isValid)).filter
          (fun _ events => !events.isEmpty)
      earlyEventCount := c.earlyEventCount - expired.length },
    expired.flatMap (fun entry => dropEarlyEvent entry.2))

def replayEarlyEvent (c : Connection) ( isSessionPresent : Bool) (event : ProtocolEvent)
    (now : Timestamp) : Connection × List Effect :=
  if isSessionPresent then
    match event with
    | .h3DatagramReceived sessionId data => c.recvDatagram sessionId data now
    | .h3WebTransportStreamOpened sessionId streamId => c.handleStreamOpened sessionId streamId now
    | _ => (c, [])
  else (c, dropEarlyEvent event)

def replayEarlyEventsLoop ( isSessionPresent : Bool) (now : Timestamp) :
    List (Timestamp × ProtocolEvent) → Connection → Connection × List Effect
  | [], c => (c, [])
  | entry :: rest, c =>
    let replayed := c.replayEarlyEvent isSessionPresent entry.2 now
    let others := replayEarlyEventsLoop isSessionPresent now rest replayed.1
    (others.1, replayed.2 ++ others.2)

def replayEarlyEvents (c : Connection) (sessionId : SessionId) (now : Timestamp) :
    Connection × List Effect :=
  match c.earlyEventBuffer.get? sessionId with
  | none => (c, [])
  | some events =>
    replayEarlyEventsLoop (c.sessions.contains sessionId) now events
      { c with
        earlyEventBuffer := c.earlyEventBuffer.erase sessionId
        earlyEventCount := c.earlyEventCount - events.length }

/-! ## Creating sessions -/

/-- Keep a request that passed its checks and ask for its CONNECT stream. -/
def submitSession (c : Connection) (requestId : RequestId) (sessionRequest : SessionRequest) :
    Connection × List Effect :=
  ({ c with sessionRequests := c.sessionRequests.insert requestId sessionRequest },
    [.createH3ConnectStream requestId sessionRequest.authority sessionRequest.path
      sessionRequest.headers])

def createSession (c : Connection) (requestId : RequestId) (sessionRequest : SessionRequest) :
    Connection × List Effect :=
  if !c.isClient then (c, [failConnection requestId none "wt_connection validate failed"])
  else if c.state ≠ .connected then
    (c, [failConnection requestId (some errLibConnectionStateError)
      "wt_connection validate failed"])
  else if c.peerGoawayReceived then
    (c, [failConnection requestId (some errLibConnectionStateError)
      "wt_connection validate failed"])
  else if c.activeLimit > 0 ∧ c.sessions.size + c.sessionRequests.size ≥ c.activeLimit then
    (c, [failConnection requestId (some errLibConnectionStateError) "wt_session validate exceeded"])
  else if !isValidUserHeaders sessionRequest.headers true then
    (c, [failConnection requestId none "h3_headers validate invalid"])
  else
    match sessionRequest.wtAvailableProtocols with
    | none => c.submitSession requestId sessionRequest
    | some protocols =>
      match encodeWtProtocolList protocols with
      | .error _ => (c, [failConnection requestId none "wt_available_protocols encode failed"])
      | .ok encoded =>
        c.submitSession requestId
          { sessionRequest with
            headers := sessionRequest.headers ++ [(wtAvailableProtocols, encoded)] }

/-- The CONNECT stream is open. An optimistic request has its session at once. -/
def bindSession (c : Connection) (streamId : StreamId) (requestId : RequestId) :
    Connection × List Effect :=
  let pending : Connection :=
    { c with pendingSessionRequests := c.pendingSessionRequests.insert streamId requestId }
  match c.sessionRequests.get? requestId with
  | none => (pending, [])
  | some sessionRequest =>
    if sessionRequest.optimistic then
      let session := Session.new streamId sessionRequest.path sessionRequest.headers
        sessionRequest.wtAvailableProtocols c.isClient c.sessionParameters
        sessionRequest.createdAt
      ({ pending with
          sessionRequests := c.sessionRequests.erase requestId
          sessions := c.sessions.insert streamId session },
        [.emitSessionEvent streamId .sessionPending
            { path := some sessionRequest.path, headers := some sessionRequest.headers },
          .notifyRequestDone requestId (.sessionId streamId)])
    else (pending, [])

def deferSession (c : Connection) (requestId : RequestId) : Connection × List Effect :=
  ({ c with blockedSessionRequests := c.blockedSessionRequests ++ [requestId] }, [])

def failSession (c : Connection) (requestId : RequestId) (errorCode : Option ErrorCode)
    (reason : String) : Connection × List Effect :=
  ({ c with sessionRequests := c.sessionRequests.erase requestId },
    [.notifyRequestFailed requestId .session errorCode reason])

/-- Refuse a response the client cannot use: with its session if it has one
already, else by failing the request and giving up the stream. -/
def refuseResponse (c : Connection) (streamId : StreamId) (requestId : RequestId)
    (errorCode : ErrorCode) (reason : String) (now : Timestamp) : Connection × List Effect :=
  c.onSession streamId
    ({ c with sessionRequests := c.sessionRequests.erase requestId },
      [.notifyRequestFailed requestId .session (some errorCode) reason,
        .stopQuicStream streamId errorCode, .resetQuicStream streamId errorCode])
    (fun session => session.abort errorCode reason now)

/-- A successful response: confirm the optimistic session, or create one. -/
def establishSession (c : Connection) (streamId : StreamId) (requestId : RequestId)
    (wtProtocol : Option String) (now : Timestamp) : Connection × List Effect :=
  if c.sessions.contains streamId then
    c.onSession streamId (c, []) (fun session => session.confirm wtProtocol now)
  else
    match c.sessionRequests.get? requestId with
    | none => (c, [])
    | some sessionRequest =>
      let session := (Session.new streamId sessionRequest.path sessionRequest.headers
        sessionRequest.wtAvailableProtocols c.isClient c.sessionParameters
        sessionRequest.createdAt).confirm wtProtocol now
      ({ c with
          sessionRequests := c.sessionRequests.erase requestId
          sessions := c.sessions.insert streamId session.1 },
        session.2 ++ [.notifyRequestDone requestId (.sessionId streamId)])

/-- The response to the request of `streamId`, which is no longer pending. -/
def recvResponse (c : Connection) (streamId : StreamId) (requestId : RequestId)
    (available : Option (List String)) (headers : Headers) (now : Timestamp) :
    Connection × List Effect :=
  let status := findHeader headers (asciiBytes [':', 's', 't', 'a', 't', 'u', 's'])
  if status = some (asciiBytes ['2', '0', '0']) then
    let protocol := (combineHeader headers wtProtocol).bind parseWtProtocolString
    if available.all (fun protocols => protocol.any (fun name => protocols.contains name)) then
      let established := c.establishSession streamId requestId protocol now
      let replayed := established.1.replayEarlyEvents streamId now
      (replayed.1, established.2 ++ replayed.2)
    else c.refuseResponse streamId requestId errWtAlpnError "wt_protocol validate invalid" now
  else
    let refused := { c with sessionRequests := c.sessionRequests.erase requestId }.refuseResponse
      streamId requestId errH3RequestRejected "wt_session abort" now
    let replayed := refused.1.replayEarlyEvents streamId now
    (replayed.1, refused.2 ++ replayed.2)

def recvHeadersClient (c : Connection) (streamId : StreamId) (headers : Headers)
    (now : Timestamp) : Connection × List Effect :=
  match c.pendingSessionRequests.get? streamId with
  | none => (c, [])
  | some requestId =>
    let c := { c with pendingSessionRequests := c.pendingSessionRequests.erase streamId }
    match c.sessions.get? streamId, c.sessionRequests.get? requestId with
    | some session, _ =>
      c.recvResponse streamId requestId session.wtAvailableProtocols headers now
    | none, some sessionRequest =>
      c.recvResponse streamId requestId sessionRequest.wtAvailableProtocols headers now
    | none, none =>
      (c, [.notifyRequestFailed requestId .unspecified (some errLibInternalError)
        "wt_session resolve failed"])

/-- Answer a request with an error status and stop reading it. -/
def refuseRequest (streamId : StreamId) (status : List Char) : List Effect :=
  [.sendH3Headers streamId
      [(asciiBytes [':', 's', 't', 'a', 't', 'u', 's'], asciiBytes status)] true,
    .stopQuicStream streamId errH3RequestRejected]

def recvHeadersServer (c : Connection) (streamId : StreamId) (headers : Headers)
    (now : Timestamp) : Connection × List Effect :=
  if c.sessions.contains streamId then (c, [])
  else if c.state ≠ .connected then (c, refuseRequest streamId ['4', '2', '9'])
  else if c.localGoawaySent then (c, refuseRequest streamId ['4', '2', '9'])
  else if c.activeLimit > 0 ∧ c.sessions.size ≥ c.activeLimit then
    (c, refuseRequest streamId ['4', '2', '9'])
  else if findHeader headers (asciiBytes [':', 'm', 'e', 't', 'h', 'o', 'd']) ≠
        some (asciiBytes ['C', 'O', 'N', 'N', 'E', 'C', 'T']) ∨
      findHeader headers (asciiBytes [':', 'p', 'r', 'o', 't', 'o', 'c', 'o', 'l']) ≠
        some wtUpgradeToken then
    (c, refuseRequest streamId ['4', '0', '0'])
  else
    let path := ((findHeader headers (asciiBytes [':', 'p', 'a', 't', 'h'])).bind
      utf8String?).getD "/"
    let available := (combineHeader headers wtAvailableProtocols).bind parseWtProtocolList
    let session := Session.new streamId path headers available c.isClient c.sessionParameters now
    let replayed := { c with sessions := c.sessions.insert streamId session }.replayEarlyEvents
      streamId now
    (replayed.1,
      .emitSessionEvent streamId .sessionRequestReceived
        { path := some path, headers := some headers, wtAvailableProtocols := available } ::
        replayed.2)

def recvHeaders (c : Connection) (streamId : StreamId) (headers : Headers) (now : Timestamp) :
    Connection × List Effect :=
  if c.isClient then c.recvHeadersClient streamId headers now
  else c.recvHeadersServer streamId headers now

/-! ## The connection as a whole -/

def close (c : Connection) (requestId : Option RequestId) (errorCode : ErrorCode)
    (reason : Option String) (now : Timestamp) : Connection × List Effect :=
  let done := requestId.toList.map (fun requestId => Effect.notifyRequestDone requestId .none)
  if c.state = .closed ∨ c.state = .closing then (c, done)
  else
    ({ c with
        closeCode := some errorCode
        closeReason := reason
        closedAt := some now
        state := .closing },
      .closeQuicConnection errorCode reason :: done)

/-- The first session id the peer may not use any more. -/
def goawayIdentifier (c : Connection) : Nat :=
  if c.isClient then 0
  else min ((c.sessions.keys.max?.map (fun id => saturatingAdd id quicStreamTypeCount)).getD 0)
    quicVarintLimit

def closeGracefully (c : Connection) (requestId : RequestId) : Connection × List Effect :=
  if c.state ≠ .connected then (c, [.notifyRequestDone requestId .none])
  else
    let goaway : List Effect := if c.localGoawaySent then [] else [.sendH3Goaway c.goawayIdentifier]
    let drained := { c with localGoawaySent := true }.forEachSession Session.drain
    (drained.1, goaway ++ drained.2 ++ [.notifyRequestDone requestId .none])

/-- The connection is usable: tell the application and the connect request. -/
def «open» (c : Connection) (now : Timestamp) : Connection × List Effect :=
  ({ c with connectedAt := some now, state := .connected, requestId := none },
    .emitConnectionEvent c.handle .connectionEstablished none none ::
      c.requestId.toList.map (fun requestId =>
        .notifyRequestDone requestId (.connectionHandle c.handle)))

def handleHandshakeCompleted (c : Connection) (now : Timestamp) : Connection × List Effect :=
  let c := if c.state = .idle then { c with state := .connecting } else c
  if c.state ≠ .connecting then (c, [])
  else
    let c := { c with handshakeCompleted := true }
    -- a server does not wait for the settings of its peer
    if !c.isClient || c.peerSettingsReceived then
      let opened := c.open now
      (opened.1, .createH3LocalStreams :: opened.2)
    else (c, [.createH3LocalStreams])

def recvSettings (c : Connection) (settings : H3Settings) (now : Timestamp) :
    Connection × List Effect :=
  let c : Connection :=
    { c with
      peerSettingsReceived := true
      peerInitialMaxData := settings.wtInitialMaxData.getD c.peerInitialMaxData
      peerInitialMaxStreamsBidi := settings.wtInitialMaxStreamsBidi.getD c.peerInitialMaxStreamsBidi
      peerInitialMaxStreamsUni := settings.wtInitialMaxStreamsUni.getD c.peerInitialMaxStreamsUni }
  if c.state = .connecting ∧ c.handshakeCompleted then c.open now else (c, [])

def recvTransportParameters (c : Connection) (peerMaxDatagramFrameSize : Nat) :
    Connection × List Effect :=
  ({ c with peerMaxDatagramFrameSize := some peerMaxDatagramFrameSize }, [])

def recvGoaway (c : Connection) : Connection × List Effect :=
  let blocked := c.blockedSessionRequests
  let drained := { c with
      peerGoawayReceived := true
      blockedSessionRequests := []
      sessionRequests := blocked.foldl (fun requests id => requests.erase id) c.sessionRequests
    }.forEachSession Session.drain
  (drained.1,
    blocked.map (fun requestId => failConnection requestId (some errLibConnectionStateError)
      "wt_connection validate failed") ++ drained.2)

def recvMaxStreams (c : Connection) ( isUnidirectional : Bool) : Connection × List Effect :=
  let retried : List Effect :=
    if isUnidirectional then []
    else c.blockedSessionRequests.filterMap fun requestId =>
      (c.sessionRequests.get? requestId).map fun sessionRequest =>
        .createH3ConnectStream requestId sessionRequest.authority sessionRequest.path
          sessionRequest.headers
  let flushed := { c with
      blockedSessionRequests := if isUnidirectional then c.blockedSessionRequests else []
    }.forEachSession (fun session => session.flushBlockedStreamRequests isUnidirectional)
  (flushed.1, retried ++ flushed.2)

def handleTerminated (c : Connection) (errorCode : ErrorCode) (reason : String)
    (now : Timestamp) : Connection × List Effect :=
  if c.state = .closed then (c, [])
  else
    let failureReason :=
      if c.state = .closing then "wt_connection close" else "wt_connection abort"
    let requestIds := (c.sessionRequests.keys ++ c.requestId.toList).insertionSort (· ≤ ·)
    let closed : Connection :=
      if c.state = .closing then { c with state := .closed }
      else
        { c with
          closeCode := some errorCode
          closeReason := some reason
          closedAt := some now
          state := .closed }
    let ended := { closed with
        sessionRequests := ∅
        requestId := none
        blockedSessionRequests := []
        pendingSessionRequests := ∅
      }.forEachSession (fun session => session.recvConnectClose errorCode reason now)
    (ended.1, ended.2 ++
      [.emitConnectionEvent c.handle .connectionClosed (some errorCode) (some reason)] ++
      requestIds.map (fun requestId =>
        failConnection requestId (some errLibConnectionStateError) failureReason))

def pruneResources (c : Connection) : Connection :=
  { c with
    sessions := c.sessions.filter (fun _ session => !session.isClosed)
    streamMap := c.streamMap.filter (fun _ sessionId => !c.isSessionClosed sessionId) }

def diagnosticsSnapshot (c : Connection) : ConnectionDiagnostics where
  closeCode := c.closeCode
  closeReason := c.closeReason
  closedAt := c.closedAt
  connectedAt := c.connectedAt
  connectionHandle := c.handle
  handshakeCompleted := c.handshakeCompleted
  isClient := c.isClient
  localGoawaySent := c.localGoawaySent
  peerGoawayReceived := c.peerGoawayReceived
  peerInitialMaxData := c.peerInitialMaxData
  peerInitialMaxStreamsBidi := c.peerInitialMaxStreamsBidi
  peerInitialMaxStreamsUni := c.peerInitialMaxStreamsUni
  peerMaxDatagramFrameSize := c.peerMaxDatagramFrameSize
  peerSettingsReceived := c.peerSettingsReceived
  state := c.state

def diagnose (c : Connection) (requestId : RequestId) : List Effect :=
  [.notifyRequestDone requestId (.connectionDiagnostics c.diagnosticsSnapshot)]

end Connection

end PyWebTransport

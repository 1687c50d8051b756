/-
PyWebTransport.Protocol.Events — what the protocol core consumes and
produces (`protocol/events.rs`).

A `ProtocolEvent` is everything the engine can be told: events of the QUIC
transport, answers of the reactor to earlier effects, user requests, and
the HTTP/3 events the engine raises for itself. An `Effect` is everything
it can ask for. The diagnostics snapshots a request can be answered with
are declared here, with the records of the modules they describe.

`EmitSessionEvent` carries a dozen optional fields of which most are
absent in any one event. They form the record `SessionEventData`, whose
fields default to absent, so a use names only what it sets.
-/
import PyWebTransport.Common.Types

namespace PyWebTransport

variable {a b : List Effect} {requestId : RequestId}

/-! ## Settings and diagnostics -/

/-- The HTTP/3 settings of one endpoint; unknown identifiers are kept. -/
structure H3Settings where
  enableConnectProtocol : Option Nat := none
  h3Datagram : Option Nat := none
  maxFieldSectionSize : Option Nat := none
  qpackBlockedStreams : Option Nat := none
  qpackMaxTableCapacity : Option Nat := none
  unknown : List (Nat × Nat) := []
  wtEnabled : Option Nat := none
  wtInitialMaxData : Option Nat := none
  wtInitialMaxStreamsBidi : Option Nat := none
  wtInitialMaxStreamsUni : Option Nat := none
deriving DecidableEq

structure StreamDiagnostics where
  createdAt : Timestamp
  direction : StreamDirection
  isPeerInitiated : Bool
  receiveErrorCode : Option ErrorCode
  receiveState : Option StreamReceiveState
  sendErrorCode : Option ErrorCode
  sendState : Option StreamSendState
  sessionId : SessionId
  streamId : StreamId
deriving DecidableEq

structure SessionDiagnostics where
  closeCode : Option ErrorCode
  closeReason : Option String
  closedAt : Option Timestamp
  createdAt : Timestamp
  dataConsumed : Nat
  dataReceived : Nat
  dataSent : Nat
  flowControlNegotiated : Bool
  headers : Headers
  isClient : Bool
  localMaxData : Nat
  localMaxStreamsBidi : Nat
  localMaxStreamsUni : Nat
  localStreamsBidiOpened : Nat
  localStreamsUniOpened : Nat
  path : String
  peerMaxData : Nat
  peerMaxStreamsBidi : Nat
  peerMaxStreamsUni : Nat
  peerStreamsBidiClosed : Nat
  peerStreamsBidiOpened : Nat
  peerStreamsUniClosed : Nat
  peerStreamsUniOpened : Nat
  readyAt : Option Timestamp
  sessionId : SessionId
  state : SessionState
  wtAvailableProtocols : Option (List String)
  wtProtocol : Option String
deriving DecidableEq

structure ConnectionDiagnostics where
  closeCode : Option ErrorCode
  closeReason : Option String
  closedAt : Option Timestamp
  connectedAt : Option Timestamp
  connectionHandle : ConnectionHandle
  handshakeCompleted : Bool
  isClient : Bool
  localGoawaySent : Bool
  peerGoawayReceived : Bool
  peerInitialMaxData : Nat
  peerInitialMaxStreamsBidi : Nat
  peerInitialMaxStreamsUni : Nat
  peerMaxDatagramFrameSize : Option Nat
  peerSettingsReceived : Bool
  state : ConnectionState
deriving DecidableEq

/-! ## Effects -/

/-- What a completed request is answered with. -/
inductive RequestResult where
  | connectionDiagnostics (diagnostics : ConnectionDiagnostics)
  | connectionHandle (handle : ConnectionHandle)
  | datagram (data : Bytes)
  | keyingMaterial (data : Bytes)
  | none
  | readData (data : Bytes)
  | sessionDiagnostics (diagnostics : SessionDiagnostics)
  | sessionId (id : SessionId)
  | streamDiagnostics (diagnostics : StreamDiagnostics)
  | streamId (id : StreamId)
deriving DecidableEq

/-- The optional fields of `EmitSessionEvent`. -/
structure SessionEventData where
  path : Option String := none
  headers : Option Headers := none
  wtAvailableProtocols : Option (List String) := none
  wtProtocol : Option String := none
  data : Option Bytes := none
  isUnidirectional : Option Bool := none
  maxData : Option Nat := none
  maxStreams : Option Nat := none
  readyAt : Option Timestamp := none
  statusCode : Option Nat := none
  errorCode : Option ErrorCode := none
  reason : Option String := none
deriving DecidableEq

inductive Effect where
  | closeQuicConnection (errorCode : ErrorCode) (reason : Option String)
  | createH3ConnectStream (requestId : RequestId) (authority path : String) (headers : Headers)
  | createH3LocalStreams
  | createQuicStream (requestId : RequestId) (sessionId : SessionId) ( isUnidirectional : Bool)
  | emitConnectionEvent (connectionHandle : ConnectionHandle) (eventType : EventType)
      (errorCode : Option ErrorCode) (reason : Option String)
  | emitSessionEvent (sessionId : SessionId) (eventType : EventType) (data : SessionEventData)
  | emitStreamEvent (streamId : StreamId) (eventType : EventType) (sessionId : Option SessionId)
      (direction : Option StreamDirection) ( isPeerInitiated : Option Bool)
      (errorCode : Option ErrorCode)
  | exportTlsKeyingMaterial (requestId : RequestId) (label : String) (context : Bytes)
      (length : Nat)
  | notifyRequestDone (requestId : RequestId) (result : RequestResult)
  | notifyRequestFailed (requestId : RequestId) (source : ErrorSource)
      (errorCode : Option ErrorCode) (reason : String)
  | receiveQuicData (streamId : StreamId) (maxSize : Nat)
  | resetQuicStream (streamId : StreamId) (errorCode : ErrorCode)
  | sendH3Capsule (streamId : StreamId) (capsuleType : Nat) (capsuleValue : Bytes)
      (endStream : Bool)
  | sendH3Datagram (sessionId : SessionId) (data : Bytes)
  | sendH3Goaway (identifier : Nat)
  | sendH3Headers (streamId : StreamId) (headers : Headers) (endStream : Bool)
  | sendQuicData (streamId : StreamId) (data : Bytes) (endStream : Bool)
  | sendQuicDatagram (header payload : Bytes)
  | stopQuicStream (streamId : StreamId) (errorCode : ErrorCode)
deriving DecidableEq

/-! ## Events -/

inductive ProtocolEvent where
  | h3CapsuleReceived (streamId : StreamId) (capsuleType : Nat) (capsuleValue : Bytes)
  | h3ConnectStreamClosed (streamId : StreamId)
  | h3DatagramReceived (sessionId : SessionId) (data : Bytes)
  | h3GoawayReceived
  | h3HeadersReceived (streamId : StreamId) (headers : Headers)
  | h3SettingsReceived (settings : H3Settings)
  | h3WebTransportStreamOpened (sessionId : SessionId) (streamId : StreamId)
  | internalBindH3ConnectStream (requestId : RequestId) (streamId : StreamId)
  | internalBindH3LocalStreams (controlStreamId encoderStreamId decoderStreamId : StreamId)
  | internalBindQuicStream (requestId : RequestId) (streamId : StreamId) (sessionId : SessionId)
      ( isUnidirectional : Bool)
  | internalCleanupEarlyEvents
  | internalCleanupResources
  | internalCloseConnection
  | internalCompleteQuicData (streamId : StreamId)
  | internalDeferH3ConnectStream (requestId : RequestId)
  | internalDeferQuicStream (requestId : RequestId) (sessionId : SessionId)
      ( isUnidirectional : Bool)
  | internalFailH3ConnectStream (requestId : RequestId) (errorCode : Option ErrorCode)
      (reason : String)
  | internalFailH3LocalStreams
  | transportConnectionTerminated (errorCode : ErrorCode) (reason : String)
  | transportDatagramReceived (data : Bytes)
  | transportHandshakeCompleted
  | transportMaxStreamsReceived ( isUnidirectional : Bool)
  | transportQuicParametersReceived (peerMaxDatagramFrameSize : Nat)
  | transportResetStreamReceived (streamId : StreamId) (errorCode : ErrorCode)
  | transportStopSendingReceived (streamId : StreamId) (errorCode : ErrorCode)
  | transportStreamDataAcknowledged (streamId : StreamId)
  | transportStreamDataReceived (streamId : StreamId) (data : Bytes) (endStream : Bool)
  | transportStreamOpened (streamId : StreamId)
  | userAcceptSession (requestId : RequestId) (sessionId : SessionId) (headers : Headers)
      (wtProtocol : Option String)
  | userCloseConnection (requestId : RequestId) (errorCode : ErrorCode) (reason : Option String)
  | userCloseConnectionGracefully (requestId : RequestId)
  | userCloseSession (requestId : RequestId) (sessionId : SessionId) (errorCode : ErrorCode)
      (reason : Option String)
  | userCreateSession (requestId : RequestId) (authority path : String) (headers : Headers)
      (wtAvailableProtocols : Option (List String))
  | userCreateSessionOptimistic (requestId : RequestId) (authority path : String)
      (headers : Headers) (wtAvailableProtocols : Option (List String))
  | userCreateStream (requestId : RequestId) (sessionId : SessionId) ( isUnidirectional : Bool)
  | userDiagnoseConnection (requestId : RequestId)
  | userDiagnoseSession (requestId : RequestId) (sessionId : SessionId)
  | userDiagnoseStream (requestId : RequestId) (streamId : StreamId)
  | userExportKeyingMaterial (requestId : RequestId) (sessionId : SessionId) (label : String)
      (context : Bytes) (length : Nat)
  | userReadDatagram (requestId : RequestId) (sessionId : SessionId)
  | userReadStream (requestId : RequestId) (streamId : StreamId) (maxSize : Nat)
  | userRejectSession (requestId : RequestId) (sessionId : SessionId) (headers : Headers)
      (statusCode : Nat)
  | userResetStream (requestId : RequestId) (streamId : StreamId) (errorCode : ErrorCode)
  | userSendDatagram (requestId : RequestId) (sessionId : SessionId) (data : Bytes)
  | userStopSending (requestId : RequestId) (streamId : StreamId) (errorCode : ErrorCode)
  | userWriteStream (requestId : RequestId) (streamId : StreamId) (data : Bytes)
      (endStream : Bool)
deriving DecidableEq

/-! ## Requests that leave through effects

A request given to a session comes out again in one of two ways: it is
completed, or the reactor is asked to open a stream for it. (The request for
keying material is the exception: the TLS layer answers it, and the session
never holds it.) -/

/-- The request an effect completes, if it completes one. -/
def Effect.completes : Effect → Option RequestId
  | .notifyRequestDone requestId _ => some requestId
  | .notifyRequestFailed requestId _ _ _ => some requestId
  | _ => none

/-- The stream an effect asks the reactor to open: its request and direction. -/
def Effect.creates : Effect → Option (RequestId × Bool)
  | .createQuicStream requestId _ isUnidirectional => some (requestId, isUnidirectional)
  | _ => none

/-- The request that leaves with an effect, in either way. -/
def Effect.subject (effect : Effect) : Option RequestId :=
  effect.completes <|> effect.creates.map Prod.fst

def completed (effects : List Effect) : List RequestId := effects.filterMap Effect.completes

def created (effects : List Effect) : List (RequestId × Bool) := effects.filterMap Effect.creates

def subjects (effects : List Effect) : List RequestId := effects.filterMap Effect.subject

@[simp] theorem completed_append : completed (a ++ b) = completed a ++ completed b :=
  List.filterMap_append

@[simp] theorem created_append : created (a ++ b) = created a ++ created b :=
  List.filterMap_append

@[simp] theorem subjects_nil : subjects [] = [] := rfl

@[simp] theorem subjects_append : subjects (a ++ b) = subjects a ++ subjects b :=
  List.filterMap_append

@[simp] theorem subjects_cons {e : Effect} {es : List Effect} :
    subjects (e :: es) = e.subject.toList ++ subjects es := by
  cases h : e.subject <;> simp [subjects, h]

@[simp] theorem subject_done {result : RequestResult} :
    (Effect.notifyRequestDone requestId result).subject = some requestId := rfl

@[simp] theorem subject_failed {source : ErrorSource} {errorCode : Option ErrorCode}
    {reason : String} :
    (Effect.notifyRequestFailed requestId source errorCode reason).subject = some requestId := rfl

@[simp] theorem subject_createQuicStream {sessionId : SessionId} {uni : Bool} :
    (Effect.createQuicStream requestId sessionId uni).subject = some requestId := rfl

/-- Each request that leaves does so in exactly one of the two ways. -/
theorem count_subjects (r : RequestId) (effects : List Effect) :
    (subjects effects).count r =
      (completed effects).count r + ((created effects).map Prod.fst).count r := by
  induction effects with
  | nil => rfl
  | cons e rest ih =>
    simp only [completed, created, subjects] at ih
    cases e <;>
      simp [completed, created, subjects, Effect.subject, Effect.completes, Effect.creates,
        List.filterMap_cons, List.count_cons] <;> omega

end PyWebTransport

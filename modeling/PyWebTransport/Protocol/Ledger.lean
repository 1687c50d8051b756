/-
PyWebTransport.Protocol.Ledger — histories of a connection, and what becomes
of the streams that come to it.

`ConnectionOp` is one call of the engine on its connection, and `execAll` a
history of such calls, each at its own time. A `Ledger` is a connection with
a record of the streams that came to it: the streams of the peer that
arrived, those of them that are in hand during a call, that were refused or
handed to their session, the streams that were bound to a session, and the
requests a server accepted. `Move` is all that can happen to a ledger, step
by step. A subtraction from the count of early events comes with the proof
that it does not go below zero; `Accounted` is what makes these proofs
possible, and no move breaks it.
-/
import PyWebTransport.Protocol.Calls
import PyWebTransport.Protocol.Session.Lives

namespace PyWebTransport

open PyWebTransport.Lib

/-! ## Calls -/

/-- One call of the engine on its connection. -/
inductive ConnectionOp where
  | acceptSession (sessionId : SessionId) (requestId : RequestId) (headers : Headers)
      (wtProtocol : Option String)
  | bindSession (streamId : StreamId) (requestId : RequestId)
  | bindStream (sessionId : SessionId) (streamId : StreamId) (requestId : RequestId)
      ( isUnidirectional : Bool)
  | close (requestId : Option RequestId) (errorCode : ErrorCode) (reason : Option String)
  | closeGracefully (requestId : RequestId)
  | closeSession (sessionId : SessionId) (requestId : RequestId) (errorCode : ErrorCode)
      (reason : Option String)
  | completeStreamWrite (streamId : StreamId)
  | createSession (requestId : RequestId) (sessionRequest : SessionRequest)
  | createStream (sessionId : SessionId) (requestId : RequestId) ( isUnidirectional : Bool)
  | deferSession (requestId : RequestId)
  | deferStream (sessionId : SessionId) (requestId : RequestId) ( isUnidirectional : Bool)
  | diagnose (requestId : RequestId)
  | diagnoseSession (sessionId : SessionId) (requestId : RequestId)
  | diagnoseStream (streamId : StreamId) (requestId : RequestId)
  | exportKeyingMaterial (sessionId : SessionId) (requestId : RequestId) (label : String)
      (context : Bytes) (length : Nat)
  | failSession (requestId : RequestId) (errorCode : Option ErrorCode) (reason : String)
  | handleHandshakeCompleted
  | handleStreamDataAcknowledged (streamId : StreamId)
  | handleStreamOpened (sessionId : SessionId) (streamId : StreamId)
  | handleTerminated (errorCode : ErrorCode) (reason : String)
  | pruneEarlyEvents
  | pruneResources
  | readDatagram (sessionId : SessionId) (requestId : RequestId)
  | readStream (streamId : StreamId) (requestId : RequestId) (maxSize : Nat)
  | recvCapsule (sessionId : SessionId) (capsuleType : Nat) (capsuleValue : Bytes)
  | recvConnectClose (sessionId : SessionId)
  | recvDatagram (sessionId : SessionId) (data : Bytes)
  | recvGoaway
  | recvHeaders (streamId : StreamId) (headers : Headers)
  | recvMaxStreams ( isUnidirectional : Bool)
  | recvSettings (settings : H3Settings)
  | recvStopSending (streamId : StreamId) (errorCode : ErrorCode)
  | recvStreamData (streamId : StreamId) (data : Bytes) (fin : Bool)
  | recvStreamReset (streamId : StreamId) (errorCode : ErrorCode)
  | recvTransportParameters (peerMaxDatagramFrameSize : Nat)
  | rejectSession (sessionId : SessionId) (requestId : RequestId) (headers : Headers)
      (statusCode : Nat)
  | resetStream (streamId : StreamId) (requestId : RequestId) (errorCode : ErrorCode)
  | sendDatagram (sessionId : SessionId) (requestId : RequestId) (data : Bytes)
  | stopStream (streamId : StreamId) (requestId : RequestId) (errorCode : ErrorCode)
  | writeStream (streamId : StreamId) (requestId : RequestId) (data : Bytes) (endStream : Bool)

namespace ConnectionOp

variable {op : ConnectionOp}

/-- The stream of the peer a call brings, with the session it names. -/
def arrives : ConnectionOp → List (SessionId × StreamId)
  | .handleStreamOpened sessionId streamId => [(sessionId, streamId)]
  | _ => []

/-- The stream of the application a call brings, with its session. -/
def binds : ConnectionOp → List (SessionId × StreamId)
  | .bindStream sessionId streamId _ _ => [(sessionId, streamId)]
  | _ => []

theorem reverse_arrives : op.arrives.reverse = op.arrives := by
  cases op <;> rfl

theorem reverse_binds : op.binds.reverse = op.binds := by
  cases op <;> rfl

end ConnectionOp

namespace Connection

def exec (c : Connection) (now : Timestamp) : ConnectionOp → Connection × List Effect
  | .acceptSession sessionId requestId headers wtProtocol =>
    c.acceptSession sessionId requestId headers wtProtocol now
  | .bindSession streamId requestId => c.bindSession streamId requestId
  | .bindStream sessionId streamId requestId isUnidirectional =>
    c.bindStream sessionId streamId requestId isUnidirectional now
  | .close requestId errorCode reason => c.close requestId errorCode reason now
  | .closeGracefully requestId => c.closeGracefully requestId
  | .closeSession sessionId requestId errorCode reason =>
    c.closeSession sessionId requestId errorCode reason now
  | .completeStreamWrite streamId => c.completeStreamWrite streamId
  | .createSession requestId sessionRequest => c.createSession requestId sessionRequest
  | .createStream sessionId requestId isUnidirectional =>
    c.createStream sessionId requestId isUnidirectional
  | .deferSession requestId => c.deferSession requestId
  | .deferStream sessionId requestId isUnidirectional =>
    c.deferStream sessionId requestId isUnidirectional
  | .diagnose requestId => (c, c.diagnose requestId)
  | .diagnoseSession sessionId requestId => c.diagnoseSession sessionId requestId
  | .diagnoseStream streamId requestId => (c, c.diagnoseStream streamId requestId)
  | .exportKeyingMaterial sessionId requestId label context length =>
    c.exportKeyingMaterial sessionId requestId label context length
  | .failSession requestId errorCode reason => c.failSession requestId errorCode reason
  | .handleHandshakeCompleted => c.handleHandshakeCompleted now
  | .handleStreamDataAcknowledged streamId => c.handleStreamDataAcknowledged streamId
  | .handleStreamOpened sessionId streamId => c.handleStreamOpened sessionId streamId now
  | .handleTerminated errorCode reason => c.handleTerminated errorCode reason now
  | .pruneEarlyEvents => c.pruneEarlyEvents now
  | .pruneResources => (c.pruneResources, [])
  | .readDatagram sessionId requestId => c.readDatagram sessionId requestId
  | .readStream streamId requestId maxSize => c.readStream streamId requestId maxSize
  | .recvCapsule sessionId capsuleType capsuleValue =>
    c.recvCapsule sessionId capsuleType capsuleValue now
  | .recvConnectClose sessionId => c.recvConnectClose sessionId now
  | .recvDatagram sessionId data => c.recvDatagram sessionId data now
  | .recvGoaway => c.recvGoaway
  | .recvHeaders streamId headers => c.recvHeaders streamId headers now
  | .recvMaxStreams isUnidirectional => c.recvMaxStreams isUnidirectional
  | .recvSettings settings => c.recvSettings settings now
  | .recvStopSending streamId errorCode => c.recvStopSending streamId errorCode now
  | .recvStreamData streamId data fin => c.recvStreamData streamId data fin now
  | .recvStreamReset streamId errorCode => c.recvStreamReset streamId errorCode now
  | .recvTransportParameters peerMaxDatagramFrameSize =>
    c.recvTransportParameters peerMaxDatagramFrameSize
  | .rejectSession sessionId requestId headers statusCode =>
    c.rejectSession sessionId requestId headers statusCode now
  | .resetStream streamId requestId errorCode => c.resetStream streamId requestId errorCode
  | .sendDatagram sessionId requestId data => c.sendDatagram sessionId requestId data
  | .stopStream streamId requestId errorCode => c.stopStream streamId requestId errorCode
  | .writeStream streamId requestId data endStream =>
    c.writeStream streamId requestId data endStream

/-- A history of calls, each at its time. -/
def execAll (c : Connection) : List (Timestamp × ConnectionOp) → Connection × List Effect
  | [] => (c, [])
  | (now, op) :: rest =>
    let called := c.exec now op
    let others := called.1.execAll rest
    (others.1, called.2 ++ others.2)

/-- The request of a stream for which a server has just created a session. -/
def accepts (c : Connection) (now : Timestamp) : ConnectionOp → List SessionId
  | .recvHeaders streamId headers =>
    if !c.isClient && !c.sessions.contains streamId &&
        (c.recvHeaders streamId headers now).1.sessions.contains streamId then [streamId]
    else []
  | _ => []

/-- All requests for which a server created a session, the last one first. -/
def accepted (c : Connection) : List (Timestamp × ConnectionOp) → List SessionId
  | [] => []
  | (now, op) :: rest => (c.exec now op).1.accepted rest ++ c.accepts now op

end Connection

/-! ## Early events -/

namespace ProtocolEvent

/-- The session an early event waits for. -/
def earlySession : ProtocolEvent → Option SessionId
  | .h3DatagramReceived sessionId _ => some sessionId
  | .h3WebTransportStreamOpened sessionId _ => some sessionId
  | _ => none

/-- The stream an early event brings, with the session it names. -/
def earlyStream : ProtocolEvent → List (SessionId × StreamId)
  | .h3WebTransportStreamOpened sessionId streamId => [(sessionId, streamId)]
  | _ => []

end ProtocolEvent

/-- The streams some early events bring. -/
def earlyStreamsOf (events : List (Timestamp × ProtocolEvent)) : List (SessionId × StreamId) :=
  events.flatMap fun entry => entry.2.earlyStream

@[simp] theorem earlyStreamsOf_nil : earlyStreamsOf [] = [] := rfl

@[simp] theorem earlyStreamsOf_cons (entry : Timestamp × ProtocolEvent)
    (events : List (Timestamp × ProtocolEvent)) :
    earlyStreamsOf (entry :: events) = entry.2.earlyStream ++ earlyStreamsOf events := rfl

namespace Connection

/-- All events that wait for their session. -/
def earlyEvents (c : Connection) : List (Timestamp × ProtocolEvent) :=
  c.earlyEventBuffer.values.flatten

/-- The streams that wait for their session. -/
def earlyStreams (c : Connection) : List (SessionId × StreamId) := earlyStreamsOf c.earlyEvents

/-- The events that have waited too long. -/
def expiredEvents (c : Connection) (now : Timestamp) : List (Timestamp × ProtocolEvent) :=
  c.earlyEvents.filter fun entry => !decide (now - entry.1 < c.earlyEventTtl)

/-- The buffer of early events is in order: the count is right, the limits
are kept, and every event is filed under the session it waits for. -/
structure Accounted (c : Connection) : Prop where
  count : c.earlyEventCount = c.earlyEvents.length
  limit : c.earlyEventCount ≤ c.maxConnectionPendingEvents
  sessionLimit : ∀ sessionId events, c.earlyEventBuffer.get? sessionId = some events →
    events.length ≤ c.maxSessionPendingEvents
  filed : ∀ sessionId events, c.earlyEventBuffer.get? sessionId = some events →
    ∀ entry ∈ events, entry.2.earlySession = some sessionId

/-! ## The ledger -/

/-- A connection and what became of the streams that came to it. -/
structure Ledger where
  connection : Connection
  hand : List (SessionId × StreamId)
  arrived : List (SessionId × StreamId)
  refused : List (SessionId × StreamId)
  handed : List (SessionId × StreamId)
  bound : List (SessionId × StreamId)
  accepted : List SessionId

def Ledger.start (c : Connection) : Ledger := ⟨c, [], [], [], [], [], []⟩

/-- The tables and limits are the same, and no request was added. -/
structure SameTables (c c' : Connection) : Prop where
  sessions : c'.sessions = c.sessions
  streamMap : c'.streamMap = c.streamMap
  earlyEventBuffer : c'.earlyEventBuffer = c.earlyEventBuffer
  earlyEventCount : c'.earlyEventCount = c.earlyEventCount
  maxConnectionPendingEvents : c'.maxConnectionPendingEvents = c.maxConnectionPendingEvents
  maxSessionPendingEvents : c'.maxSessionPendingEvents = c.maxSessionPendingEvents
  maxSessions : c'.maxSessions = c.maxSessions
  isClient : c'.isClient = c.isClient
  requests : c'.sessionRequests.size ≤ c.sessionRequests.size

theorem SameTables.refl (c : Connection) : SameTables c c :=
  ⟨rfl, rfl, rfl, rfl, rfl, rfl, rfl, rfl, Nat.le_refl _⟩

end Connection

/-- A call that brings no stream. -/
def Call.isPlain : Call → Bool
  | .session _ op => op.adds.isEmpty
  | .stream _ op => op.adds.isEmpty
  | .adopt .. => false
  | .each op => op.adds.isEmpty

namespace Connection

variable {c c' : Connection} {sessionId : SessionId} {events : List (Timestamp × ProtocolEvent)}
  {l l' : Ledger} {effects : List Effect}

variable {now : Timestamp}

/-- What can happen to a ledger, and the effects it has. -/
inductive Move : Ledger → List Effect → Ledger → Prop where
  /-- Nothing the ledger or the tables show. -/
  | settle {l : Ledger} {c : Connection} (effects : List Effect)
      (same : SameTables l.connection c) : Move l effects { l with connection := c }
  /-- A call on sessions that brings no stream. -/
  | call {l : Ledger} (call : Call) (plain : call.isPlain = true) :
      Move l (l.connection.perform call).2 { l with connection := (l.connection.perform call).1 }
  /-- A stream of the application is bound to its session. -/
  | bind {l : Ledger} (sessionId : SessionId) (streamId : StreamId) (requestId : RequestId)
      ( isUnidirectional : Bool) (now : Timestamp) :
      Move l
        (l.connection.perform
          (.adopt sessionId streamId (.bindStream streamId requestId isUnidirectional now))).2
        { l with
          connection := (l.connection.perform
            (.adopt sessionId streamId (.bindStream streamId requestId isUnidirectional now))).1
          bound := (sessionId, streamId) :: l.bound }
  /-- A stream of the peer arrives and is in hand. -/
  | arrive {l : Ledger} (sessionId : SessionId) (streamId : StreamId) :
      Move l []
        { l with
          hand := (sessionId, streamId) :: l.hand
          arrived := (sessionId, streamId) :: l.arrived }
  /-- A stream in hand goes to its session, by the session's own
  `handle_stream_opened`. -/
  | handOver {l : Ledger} {sessionId : SessionId} {streamId : StreamId}
      {rest : List (SessionId × StreamId)} (now : Timestamp)
      (present : l.connection.sessions.contains sessionId = true)
      (inHand : l.hand = (sessionId, streamId) :: rest) :
      Move l
        (l.connection.perform (.adopt sessionId streamId (.handleStreamOpened streamId now))).2
        { l with
          connection := (l.connection.perform
            (.adopt sessionId streamId (.handleStreamOpened streamId now))).1
          hand := rest
          handed := (sessionId, streamId) :: l.handed }
  /-- A stream in hand is refused. -/
  | refuse {l : Ledger} {sessionId : SessionId} {streamId : StreamId}
      {rest : List (SessionId × StreamId)}
      (absent : l.connection.sessions.contains sessionId = false)
      (inHand : l.hand = (sessionId, streamId) :: rest) :
      Move l (rejectBufferedStream streamId)
        { l with hand := rest, refused := (sessionId, streamId) :: l.refused }
  /-- An event is filed under the session it waits for. -/
  | store {l : Ledger} {sessionId : SessionId} {rest : List (SessionId × StreamId)}
      (event : ProtocolEvent) (now : Timestamp) (filed : event.earlySession = some sessionId)
      (inHand : l.hand = event.earlyStream ++ rest)
      (room : l.connection.earlyEventCount < l.connection.maxConnectionPendingEvents)
      (sessionRoom : ((l.connection.earlyEventBuffer.get? sessionId).getD []).length <
        l.connection.maxSessionPendingEvents) :
      Move l []
        { l with
          connection := { l.connection with
            earlyEventBuffer := l.connection.earlyEventBuffer.insert sessionId
              ((l.connection.earlyEventBuffer.get? sessionId).getD [] ++ [(now, event)])
            earlyEventCount := l.connection.earlyEventCount + 1 }
          hand := rest }
  /-- A buffer is touched, and created if there was none. -/
  | touch {l : Ledger} (sessionId : SessionId) :
      Move l []
        { l with connection := { l.connection with
            earlyEventBuffer := l.connection.earlyEventBuffer.insert sessionId
              ((l.connection.earlyEventBuffer.get? sessionId).getD []) } }
  /-- What has waited too long goes; its streams are refused. -/
  | expire {l : Ledger} (now : Timestamp)
      (enough : (l.connection.expiredEvents now).length ≤ l.connection.earlyEventCount) :
      Move l
        ((earlyStreamsOf (l.connection.expiredEvents now)).flatMap fun entry =>
          rejectBufferedStream entry.2)
        { l with
          connection := (l.connection.pruneEarlyEvents now).1
          refused := earlyStreamsOf (l.connection.expiredEvents now) ++ l.refused }
  /-- The events of a session are taken out of the buffer. -/
  | take {l : Ledger} {sessionId : SessionId} {events : List (Timestamp × ProtocolEvent)}
      (stored : l.connection.earlyEventBuffer.get? sessionId = some events)
      (enough : events.length ≤ l.connection.earlyEventCount) :
      Move l []
        { l with
          connection := { l.connection with
            earlyEventBuffer := l.connection.earlyEventBuffer.erase sessionId
            earlyEventCount := l.connection.earlyEventCount - events.length }
          hand := earlyStreamsOf events ++ l.hand }
  /-- A client keeps a request that passed its checks. -/
  | submit {l : Ledger} (requestId : RequestId) (sessionRequest : SessionRequest)
      (client : l.connection.isClient = true)
      (room : l.connection.activeLimit > 0 →
        l.connection.sessions.size + l.connection.sessionRequests.size <
          l.connection.activeLimit) :
      Move l []
        { l with connection := { l.connection with
            sessionRequests := l.connection.sessionRequests.insert requestId sessionRequest } }
  /-- The session of a request takes its place. -/
  | opened {l : Ledger} {sessionRequest : SessionRequest} (streamId : StreamId)
      (requestId : RequestId)
      (requested : l.connection.sessionRequests.get? requestId = some sessionRequest) :
      Move l []
        { l with connection := { l.connection with
            sessionRequests := l.connection.sessionRequests.erase requestId
            sessions := l.connection.sessions.insert streamId
              (Session.new streamId sessionRequest.path sessionRequest.headers
                sessionRequest.wtAvailableProtocols l.connection.isClient
                l.connection.sessionParameters sessionRequest.createdAt) } }
  /-- A server accepts a request. -/
  | accepted {l : Ledger} (streamId : StreamId) (path : String) (headers : Headers)
      (available : Option (List String)) (now : Timestamp)
      (server : l.connection.isClient = false)
      (absent : l.connection.sessions.contains streamId = false)
      (room : l.connection.activeLimit > 0 →
        l.connection.sessions.size < l.connection.activeLimit) :
      Move l []
        { l with
          connection := { l.connection with
            sessions := l.connection.sessions.insert streamId
              (Session.new streamId path headers available l.connection.isClient
                l.connection.sessionParameters now) }
          accepted := streamId :: l.accepted }
  /-- Closed sessions are removed. -/
  | prune {l : Ledger} : Move l [] { l with connection := l.connection.pruneResources }

/-! ## The buffer stays in order -/

/-- The buffer of early events and its limits are the same. -/
structure SameEarly (c c' : Connection) : Prop where
  earlyEventBuffer : c'.earlyEventBuffer = c.earlyEventBuffer
  earlyEventCount : c'.earlyEventCount = c.earlyEventCount
  maxConnectionPendingEvents : c'.maxConnectionPendingEvents = c.maxConnectionPendingEvents
  maxSessionPendingEvents : c'.maxSessionPendingEvents = c.maxSessionPendingEvents

theorem SameTables.early (h : SameTables c c') : SameEarly c c' :=
  ⟨h.earlyEventBuffer, h.earlyEventCount, h.maxConnectionPendingEvents, h.maxSessionPendingEvents⟩

theorem SameEarly.earlyEvents (h : SameEarly c c') : c'.earlyEvents = c.earlyEvents := by
  rw [Connection.earlyEvents, Connection.earlyEvents, h.earlyEventBuffer]

theorem Accounted.same (hc : c.Accounted) (h : SameEarly c c') : c'.Accounted where
  count := by rw [h.earlyEventCount, h.earlyEvents, hc.count]
  limit := by
    rw [h.earlyEventCount, h.maxConnectionPendingEvents]
    exact hc.limit
  sessionLimit sessionId events hget := by
    rw [h.earlyEventBuffer] at hget
    rw [h.maxSessionPendingEvents]
    exact hc.sessionLimit sessionId events hget
  filed sessionId events hget := hc.filed sessionId events (h.earlyEventBuffer ▸ hget)

theorem sameEarly_onSession (c : Connection) (sessionId : SessionId)
    (method : Session → Session × List Effect) :
    SameEarly c (c.onSession sessionId (c, []) method).1 := by
  unfold onSession
  split <;> exact ⟨rfl, rfl, rfl, rfl⟩

theorem sameEarly_perform (c : Connection) (call : Call) : SameEarly c (c.perform call).1 := by
  cases call with
  | session sessionId op => exact c.sameEarly_onSession sessionId _
  | stream streamId op =>
    simp only [perform, onStream]
    split
    · exact ⟨rfl, rfl, rfl, rfl⟩
    · split <;> exact ⟨rfl, rfl, rfl, rfl⟩
  | adopt sessionId streamId op =>
    have h := c.sameEarly_onSession sessionId fun session => session.exec op
    simp only [perform, mapStream]
    split <;> exact ⟨h.1, h.2, h.3, h.4⟩
  | each op => exact ⟨rfl, rfl, rfl, rfl⟩

/-- Every event of a session that is in the buffer is counted. -/
theorem Accounted.length_le (hc : c.Accounted)
    (hget : c.earlyEventBuffer.get? sessionId = some events) :
    events.length ≤ c.earlyEventCount := by
  rw [hc.count, earlyEvents, (c.earlyEventBuffer.flatten_values_erase hget).length_eq,
    List.length_append]
  exact Nat.le_add_right _ _

theorem Accounted.expired_le (hc : c.Accounted) (now : Timestamp) :
    (c.expiredEvents now).length ≤ c.earlyEventCount := by
  rw [hc.count]
  exact List.length_filter_le _ _

/-- The events that stay when the others have waited too long. -/
theorem earlyEvents_pruneEarlyEvents :
    (c.pruneEarlyEvents now).1.earlyEvents =
      c.earlyEvents.filter fun entry => decide (now - entry.1 < c.earlyEventTtl) := by
  show (OrderedMap.values _).flatten = _
  rw [pruneEarlyEvents, OrderedMap.flatten_values_filter_map, earlyEvents, List.filter_flatten]

theorem expiredEvents_eq :
    c.earlyEventBuffer.values.flatMap (fun events => events.filter fun entry =>
      !decide (now - entry.1 < c.earlyEventTtl)) = c.expiredEvents now := by
  rw [expiredEvents, earlyEvents, List.filter_flatten, List.flatMap_def]

theorem Accounted.store {c : Connection} (hc : c.Accounted) {sessionId : SessionId}
    {event : ProtocolEvent} (now : Timestamp) (hfiled : event.earlySession = some sessionId)
    (hroom : c.earlyEventCount < c.maxConnectionPendingEvents)
    (hsession : ((c.earlyEventBuffer.get? sessionId).getD []).length <
      c.maxSessionPendingEvents) :
    Accounted { c with
      earlyEventBuffer := c.earlyEventBuffer.insert sessionId
        ((c.earlyEventBuffer.get? sessionId).getD [] ++ [(now, event)])
      earlyEventCount := c.earlyEventCount + 1 } where
  count := by
    show c.earlyEventCount + 1 = List.length (OrderedMap.values _).flatten
    rw [(c.earlyEventBuffer.flatten_values_insert sessionId [(now, event)]).length_eq,
      List.length_append, hc.count]
    rfl
  limit := hroom
  sessionLimit id events hget := by
    rcases OrderedMap.get?_insert_some hget with ⟨-, rfl⟩ | ⟨-, hget⟩
    · rw [List.length_append]
      exact hsession
    · exact hc.sessionLimit id events hget
  filed id events hget entry hentry := by
    rcases OrderedMap.get?_insert_some hget with ⟨rfl, rfl⟩ | ⟨-, hget⟩
    · rcases List.mem_append.mp hentry with hold | hnew
      · cases hstored : c.earlyEventBuffer.get? id with
        | none => simp [hstored] at hold
        | some stored =>
          rw [hstored] at hold
          exact hc.filed id stored hstored entry hold
      · rw [List.mem_singleton.mp hnew]
        exact hfiled
    · exact hc.filed id events hget entry hentry

theorem Accounted.touch (hc : c.Accounted) (sessionId : SessionId) :
    Accounted { c with
      earlyEventBuffer := c.earlyEventBuffer.insert sessionId
        ((c.earlyEventBuffer.get? sessionId).getD []) } := by
  have hperm := c.earlyEventBuffer.flatten_values_insert sessionId []
  rw [List.append_nil, List.append_nil] at hperm
  -- the list that is written is the one that was there, or an empty one
  have hlist : ∀ {id events}, (c.earlyEventBuffer.insert sessionId
      ((c.earlyEventBuffer.get? sessionId).getD [])).get? id = some events →
      c.earlyEventBuffer.get? id = some events ∨ events = [] := by
    intro id events hget
    rcases OrderedMap.get?_insert_some hget with ⟨rfl, rfl⟩ | ⟨-, hget⟩
    · cases hstored : c.earlyEventBuffer.get? id with
      | none => exact Or.inr rfl
      | some stored => exact Or.inl rfl
    · exact Or.inl hget
  refine ⟨?_, hc.limit, fun id events hget => ?_, fun id events hget entry hentry => ?_⟩
  · show c.earlyEventCount = List.length (OrderedMap.values _).flatten
    rw [hperm.length_eq, hc.count]
    rfl
  · rcases hlist hget with hold | rfl
    · exact hc.sessionLimit id events hold
    · exact Nat.zero_le _
  · rcases hlist hget with hold | rfl
    · exact hc.filed id events hold entry hentry
    · cases hentry

theorem Accounted.expire (hc : c.Accounted) (now : Timestamp) :
    (c.pruneEarlyEvents now).1.Accounted := by
  have hsplit := List.length_eq_length_filter_add (l := c.earlyEvents)
    fun entry => decide (now - entry.1 < c.earlyEventTtl)
  have hcount : (c.pruneEarlyEvents now).1.earlyEventCount =
      c.earlyEventCount - (c.expiredEvents now).length := by
    rw [← expiredEvents_eq]
    rfl
  -- what is left of a session's list is a part of it
  have hlist : ∀ {id events}, (c.pruneEarlyEvents now).1.earlyEventBuffer.get? id = some events →
      ∃ stored, c.earlyEventBuffer.get? id = some stored ∧ events.Sublist stored := by
    intro id events hget
    simp only [pruneEarlyEvents, OrderedMap.get?_filter, OrderedMap.get?_map,
      Option.filter_eq_some_iff, Option.map_eq_some_iff] at hget
    obtain ⟨⟨stored, hstored, rfl⟩, -⟩ := hget
    exact ⟨stored, hstored, List.filter_sublist⟩
  refine ⟨?_, ?_, fun id events hget => ?_, fun id events hget entry hentry => ?_⟩
  · rw [hcount, earlyEvents_pruneEarlyEvents, hc.count, expiredEvents]
    omega
  · rw [hcount]
    exact (Nat.sub_le _ _).trans hc.limit
  · obtain ⟨stored, hstored, hsub⟩ := hlist hget
    exact hsub.length_le.trans (hc.sessionLimit id stored hstored)
  · obtain ⟨stored, hstored, hsub⟩ := hlist hget
    exact hc.filed id stored hstored entry (hsub.subset hentry)

theorem Accounted.take (hc : c.Accounted) (hget : c.earlyEventBuffer.get? sessionId = some events) :
    Accounted { c with
      earlyEventBuffer := c.earlyEventBuffer.erase sessionId
      earlyEventCount := c.earlyEventCount - events.length } where
  count := by
    show c.earlyEventCount - events.length = List.length (OrderedMap.values _).flatten
    rw [hc.count, earlyEvents, (c.earlyEventBuffer.flatten_values_erase hget).length_eq,
      List.length_append, Nat.add_sub_cancel_left]
  limit := (Nat.sub_le _ _).trans hc.limit
  sessionLimit id stored h := hc.sessionLimit id stored (OrderedMap.get?_erase_some h).2
  filed id stored h := hc.filed id stored (OrderedMap.get?_erase_some h).2

/-- No move brings the buffer into disorder. -/
theorem Accounted.move (hl : l.connection.Accounted) (h : Move l effects l') :
    l'.connection.Accounted := by
  cases h with
  | settle _ same => exact hl.same same.early
  | call call _ => exact hl.same (sameEarly_perform _ call)
  | bind => exact hl.same (sameEarly_perform _ _)
  | arrive => exact hl
  | handOver => exact hl.same (sameEarly_perform _ _)
  | refuse => exact hl
  | store event now filed _ room sessionRoom => exact hl.store now filed room sessionRoom
  | touch sessionId => exact hl.touch sessionId
  | expire now _ => exact hl.expire now
  | take stored _ => exact hl.take stored
  | submit | opened | accepted | prune => exact hl.same ⟨rfl, rfl, rfl, rfl⟩

theorem Accounted.moves (hl : l.connection.Accounted) (h : Chain Move l effects l') :
    l'.connection.Accounted :=
  h.keeps (P := fun l => l.connection.Accounted) (fun _ _ _ hmove hc => hc.move hmove) hl

end Connection

end PyWebTransport

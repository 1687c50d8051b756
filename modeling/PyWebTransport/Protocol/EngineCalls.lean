/-
PyWebTransport.Protocol.EngineCalls — a turn of the engine as one call on its
connection.

`callOf` is the call an event makes, if it makes one. `step_turns` says that
this call is all that a turn does to the connection: the rest of its effects
moves bytes on streams or gives up requests that wait for the connection, and
what it raises comes from HTTP/3 or from the queue of such requests. What one
call on a connection preserves, every turn of an engine therefore preserves.
-/
import PyWebTransport.Protocol.H3.Outcomes
import PyWebTransport.Protocol.ConnectionRuns

namespace PyWebTransport

open PyWebTransport.Lib

/-- A call, or none. -/
def Connection.execOption (c : Connection) (now : Timestamp) :
    Option ConnectionOp → Connection × List Effect
  | none => (c, [])
  | some op => c.exec now op

/-- The calls that may open the connection. -/
def ConnectionOp.opens : ConnectionOp → Bool
  | .handleHandshakeCompleted | .recvSettings _ => true
  | _ => false

namespace WebTransportEngine

variable {Q : Qpack} {e : WebTransportEngine Q} {now : Timestamp} {event : ProtocolEvent}
  {op : ConnectionOp} {streamId : StreamId} {turn : Turn Q} {errorCode : ErrorCode}

/-- A request that a client keeps until it is connected makes no call yet. -/
def callOnceConnected (e : WebTransportEngine Q) (op : ConnectionOp) : Option ConnectionOp :=
  if e.connection.isClient && e.connection.isPreConnected then none else some op

/-- The call an event makes on the connection. -/
def callOf (e : WebTransportEngine Q) (now : Timestamp) : ProtocolEvent → Option ConnectionOp
  | .h3CapsuleReceived streamId capsuleType capsuleValue =>
    some (.recvCapsule streamId capsuleType capsuleValue)
  | .h3ConnectStreamClosed streamId => some (.recvConnectClose streamId)
  | .h3DatagramReceived sessionId data => some (.recvDatagram sessionId data)
  | .h3GoawayReceived => some .recvGoaway
  | .h3HeadersReceived streamId headers => some (.recvHeaders streamId headers)
  | .h3SettingsReceived settings => some (.recvSettings settings)
  | .h3WebTransportStreamOpened sessionId streamId => some (.handleStreamOpened sessionId streamId)
  | .internalBindH3ConnectStream requestId streamId => some (.bindSession streamId requestId)
  | .internalBindH3LocalStreams .. => none
  | .internalBindQuicStream requestId streamId sessionId isUnidirectional =>
    some (.bindStream sessionId streamId requestId isUnidirectional)
  | .internalCleanupEarlyEvents => some .pruneEarlyEvents
  | .internalCleanupResources => some .pruneResources
  | .internalCloseConnection => some (.close none errH3NoError none)
  | .internalCompleteQuicData streamId => some (.completeStreamWrite streamId)
  | .internalDeferH3ConnectStream requestId => some (.deferSession requestId)
  | .internalDeferQuicStream requestId sessionId isUnidirectional =>
    some (.deferStream sessionId requestId isUnidirectional)
  | .internalFailH3ConnectStream requestId errorCode reason =>
    some (.failSession requestId errorCode reason)
  | .internalFailH3LocalStreams => none
  | .transportConnectionTerminated errorCode reason => some (.handleTerminated errorCode reason)
  | .transportHandshakeCompleted => some .handleHandshakeCompleted
  | .transportMaxStreamsReceived isUnidirectional => some (.recvMaxStreams isUnidirectional)
  | .transportQuicParametersReceived peerMaxDatagramFrameSize =>
    some (.recvTransportParameters peerMaxDatagramFrameSize)
  | .transportResetStreamReceived streamId errorCode =>
    if e.connection.hasStream streamId || e.connection.isSessionStream streamId then
      some (.recvStreamReset streamId errorCode)
    else none
  | .transportStopSendingReceived streamId errorCode =>
    if e.connection.hasStream streamId || e.connection.isSessionStream streamId then
      some (.recvStopSending streamId errorCode)
    else none
  | .transportStreamDataAcknowledged streamId => some (.handleStreamDataAcknowledged streamId)
  | .transportStreamDataReceived streamId data endStream =>
    if e.connection.hasStream streamId then some (.recvStreamData streamId data endStream)
    else none
  | .transportDatagramReceived _ => none
  | .transportStreamOpened _ => none
  | .userAcceptSession requestId sessionId headers wtProtocol =>
    some (.acceptSession sessionId requestId headers wtProtocol)
  | .userCloseConnection requestId errorCode reason =>
    some (.close (some requestId) errorCode reason)
  | .userCloseConnectionGracefully requestId => some (.closeGracefully requestId)
  | .userCloseSession requestId sessionId errorCode reason =>
    some (.closeSession sessionId requestId errorCode reason)
  | .userCreateSession requestId authority path headers wtAvailableProtocols =>
    e.callOnceConnected (.createSession requestId
      { authority, createdAt := now, headers, optimistic := false, path, wtAvailableProtocols })
  | .userCreateSessionOptimistic requestId authority path headers wtAvailableProtocols =>
    e.callOnceConnected (.createSession requestId
      { authority, createdAt := now, headers, optimistic := true, path, wtAvailableProtocols })
  | .userCreateStream requestId sessionId isUnidirectional =>
    e.callOnceConnected (.createStream sessionId requestId isUnidirectional)
  | .userDiagnoseConnection requestId => some (.diagnose requestId)
  | .userDiagnoseSession requestId sessionId => some (.diagnoseSession sessionId requestId)
  | .userDiagnoseStream requestId streamId => some (.diagnoseStream streamId requestId)
  | .userExportKeyingMaterial requestId sessionId label context length =>
    some (.exportKeyingMaterial sessionId requestId label context length)
  | .userReadDatagram requestId sessionId => some (.readDatagram sessionId requestId)
  | .userReadStream requestId streamId maxSize => some (.readStream streamId requestId maxSize)
  | .userRejectSession requestId sessionId headers statusCode =>
    some (.rejectSession sessionId requestId headers statusCode)
  | .userResetStream requestId streamId errorCode =>
    some (.resetStream streamId requestId errorCode)
  | .userSendDatagram requestId sessionId data => some (.sendDatagram sessionId requestId data)
  | .userStopSending requestId streamId errorCode =>
    some (.stopStream streamId requestId errorCode)
  | .userWriteStream requestId streamId data endStream =>
    some (.writeStream streamId requestId data endStream)

/-- The effects that give up requests which wait for the connection. -/
def givenUp (e : WebTransportEngine Q) (event : ProtocolEvent) : List Effect :=
  match event with
  | .internalCloseConnection | .userCloseConnection .. =>
    (e.failPendingUserEvents (some errLibConnectionStateError) "wt_connection close").2
  | .transportConnectionTerminated .. =>
    (e.failPendingUserEvents (some errLibConnectionStateError) "wt_connection abort").2
  | _ => []

/-- What a turn does: one call, and what HTTP/3 hands on. -/
structure Turns (e : WebTransportEngine Q) (now : Timestamp) (event : ProtocolEvent)
    (turn : Turn Q) : Prop where
  connection : turn.engine.connection = (e.connection.execOption now (e.callOf now event)).1
  effects : ∃ before after,
    turn.effects = before ++ (e.connection.execOption now (e.callOf now event)).2 ++ after ++
      e.givenUp event ∧
    (∀ effect ∈ before, effect.isTransport = true) ∧
    ∀ effect ∈ after, effect.isTransport = true
  raised : ∀ raised ∈ turn.raised, raised.isH3 = true ∨ raised ∈ e.pendingUserEvents
  pending : ∀ waiting ∈ turn.engine.pendingUserEvents,
    waiting ∈ e.pendingUserEvents ∨ waiting = event ∧ (pendingRequestId event).isSome = true
  calm : turn.raised = [] ∨ ∀ op, e.callOf now event = some op → op.opens = true

/-- A turn that is one call, and the effects of HTTP/3 around it. -/
theorem turns_around {before after : List Effect} (hcall : e.callOf now event = some op)
    (hgiven : e.givenUp event = []) (hbefore : ∀ effect ∈ before, effect.isTransport = true)
    (hafter : ∀ effect ∈ after, effect.isTransport = true)
    (hconnection : turn.engine.connection = (e.connection.exec now op).1)
    (heffects : turn.effects = before ++ (e.connection.exec now op).2 ++ after)
    (hraised : turn.raised = []) (hpending : turn.engine.pendingUserEvents = e.pendingUserEvents) :
    Turns e now event turn where
  connection := by rw [hcall, hconnection]; rfl
  effects := ⟨before, after, by rw [hgiven, List.append_nil, hcall, heffects]; rfl, hbefore, hafter⟩
  raised raised h := by rw [hraised] at h; cases h
  pending waiting h := Or.inl (hpending ▸ h)
  calm := Or.inl hraised

theorem turns_onConnection (hcall : e.callOf now event = some op) (hgiven : e.givenUp event = [])
    (hturn : turn = e.onConnection (e.connection.exec now op)) : Turns e now event turn := by
  subst hturn
  have hnone : ∀ effect ∈ ([] : List Effect), effect.isTransport = true := fun _ h => nomatch h
  exact turns_around hcall hgiven hnone hnone rfl (List.append_nil _).symm rfl rfl

theorem turns_onTransport (hcall : e.callOf now event = none) (hgiven : e.givenUp event = [])
    (h : e.onTransport event = some turn) : Turns e now event turn := by
  obtain ⟨⟨h3, outcome⟩, hhandled, rfl⟩ := Option.map_eq_some_iff.mp h
  have hhands := H3.handleTransportEvent_handsOn hhandled
  exact {
    connection := by rw [hcall]; rfl
    effects := ⟨[], outcome.2, by simp [hcall, hgiven, Connection.execOption],
      (fun _ h => nomatch h), hhands.effects⟩
    raised := fun raised hraised => Or.inl (hhands.events raised hraised)
    pending := fun _ h => Or.inl h
    calm := Or.inr fun op hop => by rw [hcall] at hop; cases hop }

/-- An event that only HTTP/3 sees. -/
theorem turns_h3 {h3 : H3 Q} {effects : List Effect} (hcall : e.callOf now event = none)
    (hgiven : e.givenUp event = []) (heffects : ∀ effect ∈ effects, effect.isTransport = true) :
    Turns e now event ⟨{ e with h3 := h3 }, effects, []⟩ where
  connection := by rw [hcall]; rfl
  effects := ⟨[], effects, by simp [hcall, hgiven, Connection.execOption],
    (fun _ h => nomatch h), heffects⟩
  raised _ h := nomatch h
  pending _ h := Or.inl h
  calm := Or.inl rfl

theorem turns_endConnection {reason : String} (hcall : e.callOf now event = some op)
    (hgiven : e.givenUp event =
      (e.failPendingUserEvents (some errLibConnectionStateError) reason).2)
    (hturn : turn = e.endConnection (e.connection.exec now op) reason) :
    Turns e now event turn := by
  subst hturn
  exact {
    connection := by rw [hcall]; rfl
    effects := ⟨[], [], by simp [hcall, hgiven, endConnection, Connection.execOption,
      failPendingUserEvents], (fun _ h => nomatch h), (fun _ h => nomatch h)⟩
    raised := fun _ h => nomatch h
    pending := fun _ h => nomatch h
    calm := Or.inl rfl }

theorem Turns.replayPending (h : Turns e now event turn) (hcall : e.callOf now event = some op)
    (hopens : op.opens = true) (hsame : turn.engine.pendingUserEvents = e.pendingUserEvents) :
    Turns e now event (replayPending turn) := by
  unfold WebTransportEngine.replayPending
  split
  · exact
      { connection := h.connection
        effects := h.effects
        raised := fun raised hraised => Or.inr (hsame ▸ hraised)
        pending := fun _ hwaiting => nomatch hwaiting
        calm := Or.inr fun found hfound => by
          rw [hcall] at hfound
          cases hfound
          exact hopens }
  · exact h

theorem turns_deferUntilConnected (hcall : e.callOf now event = e.callOnceConnected op)
    (hgiven : e.givenUp event = []) (hpending : (pendingRequestId event).isSome = true)
    (hturn : turn = e.deferUntilConnected event (e.connection.exec now op)) :
    Turns e now event turn := by
  subst hturn
  unfold deferUntilConnected
  unfold callOnceConnected at hcall
  split
  · rename_i hwaits
    rw [if_pos hwaits] at hcall
    refine ⟨by rw [hcall]; rfl, ⟨[], [], by simp [hcall, hgiven, Connection.execOption],
      (fun _ h => nomatch h), (fun _ h => nomatch h)⟩, (fun _ h => nomatch h), ?_, Or.inl rfl⟩
    intro waiting hwaiting
    rcases List.mem_append.mp hwaiting with hold | hnew
    · exact Or.inl hold
    · exact Or.inr ⟨List.mem_singleton.mp hnew, hpending⟩
  · rename_i hwaits
    rw [if_neg hwaits] at hcall
    exact turns_onConnection hcall hgiven rfl

theorem turns_onCapsule {capsuleType : Nat} {capsuleValue : Bytes} :
    Turns e now (.h3CapsuleReceived streamId capsuleType capsuleValue)
      (e.onCapsule streamId capsuleType capsuleValue now) := by
  unfold onCapsule
  simp only
  split
  · have hnone : ∀ effect ∈ ([] : List Effect), effect.isTransport = true := fun _ h => nomatch h
    exact turns_around rfl rfl hnone e.h3.isTransport_stopRequestStream rfl rfl rfl rfl
  · exact turns_onConnection rfl rfl rfl

theorem turns_onHeaders {headers : Headers} :
    Turns e now (.h3HeadersReceived streamId headers) (e.onHeaders streamId headers now) := by
  have hnone : ∀ effect ∈ ([] : List Effect), effect.isTransport = true := fun _ h => nomatch h
  unfold onHeaders
  simp only
  split
  · exact turns_around rfl rfl hnone e.h3.isTransport_resumeRequestStream rfl rfl rfl rfl
  · exact turns_around rfl rfl hnone e.h3.isTransport_cleanupStream rfl rfl rfl rfl

theorem turns_onReset (h : e.onReset streamId errorCode now = some turn) :
    Turns e now (.transportResetStreamReceived streamId errorCode) turn := by
  unfold onReset at h
  cases hstream : e.connection.hasStream streamId with
  | true =>
    rw [hstream, if_pos rfl] at h
    cases h
    exact turns_onConnection (by simp [callOf, hstream]; rfl) rfl rfl
  | false =>
    rw [hstream, if_neg (by decide)] at h
    cases hsession : e.connection.isSessionStream streamId with
    | true =>
      rw [hsession, if_pos rfl] at h
      cases h
      have hcall : e.callOf now (.transportResetStreamReceived streamId errorCode) =
          some (.recvStreamReset streamId errorCode) := by
        simp [callOf, hsession]
      have hnone : ∀ effect ∈ ([] : List Effect), effect.isTransport = true :=
        fun _ h => nomatch h
      exact turns_around hcall rfl e.h3.isTransport_cleanupStream hnone rfl
        (List.append_nil _).symm rfl rfl
    | false =>
      rw [hsession, if_neg (by decide)] at h
      exact turns_onTransport (by simp [callOf, hstream, hsession]) rfl h

theorem turns_onStopSending (h : e.onStopSending streamId errorCode now = some turn) :
    Turns e now (.transportStopSendingReceived streamId errorCode) turn := by
  unfold onStopSending at h
  split at h
  · rename_i hknown
    cases h
    exact turns_onConnection (by rw [callOf, if_pos hknown]) rfl rfl
  · rename_i hknown
    exact turns_onTransport (by rw [callOf, if_neg hknown]) rfl h

theorem turns_onStreamData {data : Bytes} {endStream : Bool}
    (h : e.onStreamData streamId data endStream now = some turn) :
    Turns e now (.transportStreamDataReceived streamId data endStream) turn := by
  unfold onStreamData at h
  split at h
  · rename_i hknown
    cases h
    exact turns_onConnection (by rw [callOf, if_pos hknown]) rfl rfl
  · rename_i hknown
    exact turns_onTransport (by rw [callOf, if_neg hknown]) rfl h

/-- Every turn is one call, with what HTTP/3 hands on. -/
theorem step_turns (h : e.step now event = some turn) : Turns e now event turn := by
  have hnone : ∀ effect ∈ ([] : List Effect), effect.isTransport = true := fun _ h => nomatch h
  cases event with
  | h3CapsuleReceived streamId capsuleType capsuleValue =>
    cases h
    exact turns_onCapsule
  | h3HeadersReceived streamId headers =>
    cases h
    exact turns_onHeaders
  | h3SettingsReceived settings =>
    cases h
    have hcall : e.callOf now (.h3SettingsReceived settings) = some (.recvSettings settings) := rfl
    exact (turns_onConnection hcall rfl rfl).replayPending hcall rfl rfl
  | internalBindH3ConnectStream requestId streamId =>
    cases h
    have hreceive : ∀ effect ∈ (e.h3.bindConnectStream streamId).2,
        effect.isTransport = true := by
      simp [H3.bindConnectStream, Effect.isTransport]
    exact turns_around rfl rfl hnone hreceive rfl rfl rfl rfl
  | internalBindH3LocalStreams controlStreamId encoderStreamId decoderStreamId =>
    cases h
    exact turns_h3 rfl rfl e.h3.isTransport_bindLocalStreams
  | internalCloseConnection =>
    cases h
    exact turns_endConnection rfl rfl rfl
  | internalFailH3LocalStreams =>
    cases h
    exact turns_h3 rfl rfl (by simp [H3.failLocalStreams, Effect.isTransport])
  | transportConnectionTerminated errorCode reason =>
    cases h
    exact turns_endConnection rfl rfl rfl
  | transportHandshakeCompleted =>
    cases h
    have hcall : e.callOf now (.transportHandshakeCompleted) = some (.handleHandshakeCompleted) := rfl
    exact (turns_onConnection hcall rfl rfl).replayPending hcall rfl rfl
  | transportResetStreamReceived streamId errorCode => exact turns_onReset h
  | transportStopSendingReceived streamId errorCode => exact turns_onStopSending h
  | transportStreamDataReceived streamId data endStream => exact turns_onStreamData h
  | transportDatagramReceived data | transportStreamOpened streamId =>
    exact turns_onTransport rfl rfl h
  | userCloseConnection requestId errorCode reason =>
    cases h
    exact turns_endConnection rfl rfl rfl
  | userCreateSession requestId authority path headers wtAvailableProtocols
  | userCreateSessionOptimistic requestId authority path headers wtAvailableProtocols
  | userCreateStream requestId sessionId isUnidirectional =>
    cases h
    exact turns_deferUntilConnected rfl rfl rfl rfl
  | _ =>
    cases h
    exact turns_onConnection rfl rfl rfl

/-- The requests that wait for the connection are requests for sessions and
streams. -/
def Waits (e : WebTransportEngine Q) : Prop :=
  ∀ event ∈ e.pendingUserEvents, (pendingRequestId event).isSome = true

theorem Turns.waits {e : WebTransportEngine Q} {now : Timestamp} {event : ProtocolEvent}
    {turn : Turn Q} (h : Turns e now event turn) (he : e.Waits) : turn.engine.Waits := by
  intro waiting hwaiting
  rcases h.pending waiting hwaiting with hold | ⟨rfl, hsome⟩
  · exact he waiting hold
  · exact hsome

theorem Turns.raises (h : Turns e now event turn) (he : e.Waits) :
    ∀ raised ∈ turn.raised, raised.isH3 = true ∨ (pendingRequestId raised).isSome = true :=
  fun raised hraised => (h.raised raised hraised).imp_right (he raised)

end WebTransportEngine

end PyWebTransport

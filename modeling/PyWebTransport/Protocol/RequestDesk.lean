/-
PyWebTransport.Protocol.RequestDesk — the calls that leave the requests of a
connection alone.

A connection keeps three tables of requests for sessions: those it has
submitted, those whose CONNECT stream is open, and those that wait for credit
to open one. Most calls only reach a session. `exec_aside` says that such a
call changes none of the tables, and that its effects are never the
connection's own (`Effect.ofConnection`): a session does not ask for a CONNECT
stream, and does not close the connection.
-/
import PyWebTransport.Protocol.Registry
import PyWebTransport.Protocol.EngineRuns

namespace PyWebTransport

open PyWebTransport.Lib

/-! ## Effects of sessions -/

/-- Effects that a connection has and its sessions never have. -/
def Effect.ofConnection : Effect → Bool
  | .closeQuicConnection .. | .createH3ConnectStream .. | .createH3LocalStreams
  | .emitConnectionEvent .. | .sendH3Goaway _ => true
  | _ => false

/-- No effect is the connection's own. -/
def Modest (effects : List Effect) : Prop := ∀ e ∈ effects, e.ofConnection = false

namespace Modest

variable {effects : List Effect} {streamId : StreamId}

theorem nil : Modest [] := fun _ h => nomatch h

theorem cons {e : Effect} {effects : List Effect} (he : e.ofConnection = false)
    (h : Modest effects) : Modest (e :: effects) := by
  intro x hx
  rcases List.mem_cons.mp hx with rfl | hx
  · exact he
  · exact h x hx

theorem single {e : Effect} (he : e.ofConnection = false) : Modest [e] := cons he nil

theorem append {first second : List Effect} (h₁ : Modest first) (h₂ : Modest second) :
    Modest (first ++ second) := by
  exact List.forall_mem_append.mpr ⟨h₁, h₂⟩

theorem mono {more : List Effect} (h : Modest more) (hsub : ∀ e ∈ effects, e ∈ more) :
    Modest effects :=
  fun e he => h e (hsub e he)

theorem of_isQuiet (h : ∀ e ∈ effects, e.isQuiet = true) : Modest effects := by
  intro e he
  have hquiet := h e he
  cases e <;> first | rfl | cases hquiet

theorem of_isOwn (h : ∀ e ∈ effects, e.isOwn streamId = true) : Modest effects := by
  intro e he
  have hown := h e he
  cases e <;> first | rfl | cases hown

theorem of_refuses (h : ∀ e ∈ effects, e.refuses streamId = true) : Modest effects := by
  intro e he
  have hrefuses := h e he
  cases e <;> first | rfl | cases hrefuses

/-- Modest effects ask for no CONNECT stream. -/
theorem asksConnect_eq_nil (h : Modest effects) : asksConnect effects = [] := by
  refine List.filterMap_eq_nil_iff.mpr fun e he => ?_
  have hmodest := h e he
  cases e <;> first | rfl | cases hmodest

end Modest

namespace Session

variable {op : SessionOp} {s t : Session} {effects : List Effect}

theorem modest_rounds (h : Chain Round s effects t) : Modest effects := by
  induction h with
  | refl s => exact .nil
  | head round _ ih =>
    refine Modest.append ?_ ih
    cases round with
    | putBack | stale => exact .nil
    | flush queue credit present =>
      rw [effects_flushBlockedStream]
      exact .of_isOwn fun e he => (Stream.silent_flushWrites _ _ e he).1

theorem Move.modest (h : Move op s effects t) : Modest effects := by
  cases h with
  | calm core quiet => exact .of_isQuiet quiet
  | refuse streamId named refusal => exact .of_refuses refusal
  | notice | grantData | grantStreams | dataBlocked | streamsBlocked => exact .single rfl
  | accepted => exact .cons rfl (.cons rfl (.single rfl))
  | confirmed => exact .single rfl
  | drained capsules established capsule =>
    refine Modest.append ?_ (.single rfl)
    rcases capsule with rfl | rfl
    · exact .nil
    · exact .single rfl
  | closed => exact .nil
  | @method streamId stream call present plain =>
    exact (Modest.of_isOwn stream.receive_own).mono s.suppress_subset
  | @dropped streamId stream present gone =>
    have hclosed : Modest [.emitStreamEvent streamId .streamClosed none none none none] :=
      .single rfl
    exact hclosed.mono s.suppress_subset
  | @written streamId stream result present named method =>
    rcases method with rfl | ⟨requestId, data, endStream, rfl⟩
    · exact .of_isOwn fun e he => (stream.silent_completeWrite e he).1
    · exact .of_isOwn fun e he => (stream.silent_write e he).1
  | maxDataRaised limit => exact modest_rounds (s.rounds_maxDataRaised limit)
  | announced =>
    intro e he
    obtain ⟨k, -, rfl⟩ := List.mem_map.mp he
    rfl
  | cleared gone empty core quiet => exact .of_isQuiet quiet

theorem Opening.modest (h : Opening op s effects t) : Modest effects := by
  cases h with
  | bound => exact .cons rfl (.single rfl)
  | admitted =>
    split
    · exact .nil
    · exact .single rfl
  | turnedAway _ _ _ _ _ refusal => exact .of_refuses refusal

theorem Farewell.modest {last : List Effect} (h : Farewell op s last) : Modest last := by
  cases h with
  | silent => exact .nil
  | reset | finish => exact .single rfl
  | close named last => rcases last with rfl | ⟨_, rfl⟩ <;> exact .single rfl
  | reject => exact .single rfl

/-- A session never has the effects of a connection. -/
theorem modest_exec (hs : s.Settled) (op : SessionOp) : Modest (s.exec op).2 := by
  refine (s.exec_outcome hs op).carries (P := fun _ told => Modest told) [] ?_ ?_ ?_ ?_ ?_ .nil
  · exact fun _ _ _ _ move told => told.append move.modest
  · exact fun _ _ first => first.modest
  · exact fun _ _ _ _ _ _ _ _ told => told
  · exact fun _ _ _ _ _ _ farewell quiet told =>
      told.append (farewell.modest.append (.cons rfl (.of_isQuiet quiet)))
  · exact .single rfl

end Session

/-! ## Calls that only reach a session -/

open Connection in
/-- The call on sessions that a call on the connection is, with the effects
when there is nothing to call. -/
def ConnectionOp.calls (c : Connection) (now : Timestamp) :
    ConnectionOp → Option (Call × List Effect)
  | .acceptSession sessionId requestId headers wtProtocol =>
    some (.session sessionId (.accept requestId headers wtProtocol now),
      [failResolveSession requestId])
  | .bindStream sessionId streamId requestId isUnidirectional =>
    some (.adopt sessionId streamId (.bindStream streamId requestId isUnidirectional now),
      [failResolveSession requestId])
  | .closeSession sessionId requestId errorCode reason =>
    some (.session sessionId (.close requestId errorCode reason now),
      [.notifyRequestDone requestId .none])
  | .completeStreamWrite streamId => some (.stream streamId (.completeStreamWrite streamId), [])
  | .createStream sessionId requestId isUnidirectional =>
    some (.session sessionId (.createStream requestId isUnidirectional),
      [failResolveSession requestId])
  | .deferStream sessionId requestId isUnidirectional =>
    some (.session sessionId (.deferStream requestId isUnidirectional),
      [failResolveSession requestId])
  | .diagnoseSession sessionId requestId =>
    some (.session sessionId (.diagnose requestId), [failResolveSession requestId])
  | .exportKeyingMaterial sessionId requestId label context length =>
    some (.session sessionId (.exportKeyingMaterial requestId label context length),
      [failResolveSession requestId])
  | .handleStreamDataAcknowledged streamId =>
    some (.stream streamId (.handleStreamDataAcknowledged streamId), [])
  | .readDatagram sessionId requestId =>
    some (.session sessionId (.readDatagram requestId), [failResolveSession requestId])
  | .readStream streamId requestId maxSize =>
    some (.stream streamId (.readStream streamId requestId maxSize),
      [failResolveStream requestId])
  | .recvCapsule sessionId capsuleType capsuleValue =>
    some (.session sessionId (.recvCapsule capsuleType capsuleValue now), [])
  | .recvConnectClose sessionId =>
    some (.session sessionId (.recvConnectClose errAppNoError "" now), [])
  | .recvStopSending streamId errorCode =>
    some (if c.resolves (.stream streamId (.recvStopSending streamId errorCode)) then
        .stream streamId (.recvStopSending streamId errorCode)
      else .session streamId (.abort errorCode "wt_session abort" now), [])
  | .recvStreamData streamId data fin =>
    some (.stream streamId (.recvStreamData streamId data fin now), [])
  | .recvStreamReset streamId errorCode =>
    some (if c.resolves (.stream streamId (.recvStreamReset streamId errorCode)) then
        .stream streamId (.recvStreamReset streamId errorCode)
      else .session streamId (.abort errorCode "wt_session abort" now), [])
  | .rejectSession sessionId requestId headers statusCode =>
    some (.session sessionId (.reject requestId headers statusCode now),
      [failResolveSession requestId])
  | .resetStream streamId requestId errorCode =>
    some (.stream streamId (.resetStream streamId requestId errorCode),
      [.notifyRequestDone requestId .none])
  | .sendDatagram sessionId requestId data =>
    some (.session sessionId (.sendDatagram requestId data (c.peerMaxDatagramFrameSize.getD 0)),
      [failResolveSession requestId])
  | .stopStream streamId requestId errorCode =>
    some (.stream streamId (.stopStream streamId requestId errorCode),
      [.notifyRequestDone requestId .none])
  | .writeStream streamId requestId data endStream =>
    some (.stream streamId (.writeStream streamId requestId data endStream),
      [if data.isEmpty && endStream then .notifyRequestDone requestId .none
        else failResolveStream requestId])
  | _ => none

namespace Connection

variable {c : Connection} {now : Timestamp} {op : ConnectionOp} {call : Call}
  {absent effects : List Effect}

variable {sessionId : SessionId} {streamId : StreamId} {event : ProtocolEvent}

theorem bindStream_eq (c : Connection) (sessionId : SessionId) (streamId : StreamId)
    (requestId : RequestId) ( isUnidirectional : Bool) (now : Timestamp) :
    let call := Call.adopt sessionId streamId
      (.bindStream streamId requestId isUnidirectional now)
    c.bindStream sessionId streamId requestId isUnidirectional now =
      if c.resolves call then c.perform call else (c, [failResolveSession requestId]) := by
  unfold bindStream
  cases hget : c.sessions.get? sessionId with
  | none => simp [onSession_of_none hget, resolves, OrderedMap.contains, hget, mapStream]
  | some session =>
    simp [onSession_of_get? hget, resolves, OrderedMap.contains, hget, perform, Session.exec]

/-- A call for the stream, or for the session whose CONNECT stream it is. -/
theorem onStream_orAbort (c : Connection) (streamId : StreamId) (op : SessionOp)
    (errorCode : ErrorCode) (now : Timestamp) :
    let call := if c.resolves (.stream streamId op) then Call.stream streamId op
      else .session streamId (.abort errorCode "wt_session abort" now)
    c.onStream streamId (c.abortSessionStream streamId errorCode now)
        (fun session => session.exec op) =
      if c.resolves call then c.perform call else (c, []) := by
  intro call
  rw [onStream_eq]
  cases hstream : c.resolves (.stream streamId op) with
  | true => simp only [call, hstream, if_true]
  | false =>
    simp only [call, hstream, Bool.false_eq_true, if_false]
    exact c.onSession_eq streamId (c, []) (.abort errorCode "wt_session abort" now)

theorem exec_of_calls (h : op.calls c now = some (call, absent)) :
    c.exec now op = if c.resolves call then c.perform call else (c, absent) := by
  cases op <;> cases h
  case bindStream sessionId streamId requestId isUnidirectional =>
    exact c.bindStream_eq sessionId streamId requestId isUnidirectional now
  case recvStopSending streamId errorCode =>
    exact c.onStream_orAbort streamId (.recvStopSending streamId errorCode) errorCode now
  case recvStreamReset streamId errorCode =>
    exact c.onStream_orAbort streamId (.recvStreamReset streamId errorCode) errorCode now
  all_goals first
    | rw [← onSession_eq]; rfl
    | rw [← onStream_eq]; rfl

/-! ## The tables of requests -/

/-- The same requests, and the same state of the connection. -/
structure SameDesk (c c' : Connection) : Prop where
  blockedSessionRequests : c'.blockedSessionRequests = c.blockedSessionRequests
  isClient : c'.isClient = c.isClient
  peerGoawayReceived : c'.peerGoawayReceived = c.peerGoawayReceived
  pendingSessionRequests : c'.pendingSessionRequests = c.pendingSessionRequests
  requestId : c'.requestId = c.requestId
  sessionRequests : c'.sessionRequests = c.sessionRequests
  state : c'.state = c.state

theorem SameDesk.refl (c : Connection) : SameDesk c c := ⟨rfl, rfl, rfl, rfl, rfl, rfl, rfl⟩

theorem SameDesk.trans {c' c'' : Connection} (h₁ : SameDesk c c') (h₂ : SameDesk c' c'') :
    SameDesk c c'' :=
  ⟨h₂.blockedSessionRequests.trans h₁.blockedSessionRequests, h₂.isClient.trans h₁.isClient,
    h₂.peerGoawayReceived.trans h₁.peerGoawayReceived,
    h₂.pendingSessionRequests.trans h₁.pendingSessionRequests, h₂.requestId.trans h₁.requestId,
    h₂.sessionRequests.trans h₁.sessionRequests, h₂.state.trans h₁.state⟩

theorem sameDesk_onSession (c : Connection) (method : Session → Session × List Effect) :
    SameDesk c (c.onSession sessionId (c, []) method).1 := by
  unfold onSession
  split <;> exact ⟨rfl, rfl, rfl, rfl, rfl, rfl, rfl⟩

theorem sameDesk_mapStream : SameDesk c (c.mapStream sessionId streamId) := by
  unfold mapStream
  split <;> exact ⟨rfl, rfl, rfl, rfl, rfl, rfl, rfl⟩

theorem sameDesk_perform (c : Connection) : SameDesk c (c.perform call).1 := by
  cases call with
  | session sessionId op => exact c.sameDesk_onSession _
  | stream streamId op =>
    rcases c.onStream_cases streamId op with h | ⟨_, _, -, -, h⟩
    · rw [perform, h]
      exact .refl c
    · rw [perform, h]
      exact ⟨rfl, rfl, rfl, rfl, rfl, rfl, rfl⟩
  | adopt sessionId streamId op =>
    exact (c.sameDesk_onSession _).trans sameDesk_mapStream
  | each op => exact ⟨rfl, rfl, rfl, rfl, rfl, rfl, rfl⟩

/-! ## Aside from the requests -/

theorem modest_onSession (hc : c.AllSettled) {op : SessionOp} :
    Modest (c.onSession sessionId (c, []) fun session => session.exec op).2 := by
  unfold onSession
  split
  · exact .nil
  · rename_i session hget
    exact Session.modest_exec (hc sessionId session hget) op

theorem modest_perform (hc : c.AllSettled) : Modest (c.perform call).2 := by
  cases call with
  | session sessionId op => exact modest_onSession hc
  | stream streamId op =>
    simp only [perform, onStream]
    split
    · exact .nil
    · split
      · exact .nil
      · rename_i session hget
        exact Session.modest_exec (hc _ session hget) op
  | adopt sessionId streamId op => exact modest_onSession hc
  | each op =>
    intro e he
    obtain ⟨session, hsession, he⟩ := List.mem_flatMap.mp he
    obtain ⟨sessionId, hget⟩ := (c.sessions.mem_values session).mp hsession
    exact Session.modest_exec (hc sessionId session hget) op e he

/-- What a call does that leaves the requests alone. -/
structure Aside (c : Connection) (r : Connection × List Effect) : Prop where
  desk : SameDesk c r.1
  modest : Modest r.2
  settled : r.1.AllSettled

theorem Aside.trans {first second : Connection × List Effect} (h₁ : Aside c first)
    (h₂ : Aside first.1 second) : Aside c (second.1, first.2 ++ second.2) :=
  ⟨h₁.desk.trans h₂.desk, h₁.modest.append h₂.modest, h₂.settled⟩

theorem aside_answer (hc : c.AllSettled) (h : Modest effects) : Aside c (c, effects) :=
  ⟨.refl c, h, hc⟩

theorem aside_perform (hc : c.AllSettled) (call : Call) : Aside c (c.perform call) :=
  ⟨c.sameDesk_perform, modest_perform hc, hc.perform call⟩

theorem modest_absent (h : op.calls c now = some (call, absent)) : Modest absent := by
  cases op <;> cases h
  case writeStream => split <;> exact .single rfl
  all_goals first
    | exact .nil
    | exact .single rfl

theorem aside_of_calls (hc : c.AllSettled) (h : op.calls c now = some (call, absent)) :
    Aside c (c.exec now op) := by
  rw [exec_of_calls h]
  split
  · exact aside_perform hc call
  · exact aside_answer hc (modest_absent h)

theorem aside_bufferEarlyEvent (hc : c.AllSettled) (h : Modest effects) :
    Aside c ((c.bufferEarlyEvent sessionId event now).1, effects) := by
  refine ⟨?_, h, hc.congr (c.sessions_bufferEarlyEvent sessionId event now)⟩
  unfold bufferEarlyEvent
  simp only
  split_ifs <;> exact ⟨rfl, rfl, rfl, rfl, rfl, rfl, rfl⟩

theorem modest_rejectBufferedStream : Modest (rejectBufferedStream streamId) := by
  unfold rejectBufferedStream
  split
  · exact .single rfl
  · exact .cons rfl (.single rfl)

theorem modest_dropEarlyEvent : Modest (dropEarlyEvent event) := by
  cases event with
  | h3WebTransportStreamOpened _ streamId => exact modest_rejectBufferedStream
  | _ => exact .nil

theorem aside_handleStreamOpened (hc : c.AllSettled) :
    Aside c (c.handleStreamOpened sessionId streamId now) := by
  unfold handleStreamOpened
  split
  · exact aside_perform hc (.adopt sessionId streamId (.handleStreamOpened streamId now))
  · refine aside_bufferEarlyEvent hc ?_
    split
    · exact .nil
    · exact modest_rejectBufferedStream

theorem aside_recvDatagram (hc : c.AllSettled) {data : Bytes} :
    Aside c (c.recvDatagram sessionId data now) := by
  have hcall := c.onSession_eq sessionId
    ((c.bufferEarlyEvent sessionId (.h3DatagramReceived sessionId data) now).1, [])
    (.recvDatagram data)
  rw [recvDatagram]
  refine Eq.mpr (congrArg (Aside c) hcall) ?_
  split
  · exact aside_perform hc _
  · exact aside_bufferEarlyEvent hc .nil

theorem aside_replayEarlyEvent (hc : c.AllSettled) ( isSessionPresent : Bool)
    (event : ProtocolEvent) (now : Timestamp) :
    Aside c (c.replayEarlyEvent isSessionPresent event now) := by
  unfold replayEarlyEvent
  split
  · split
    · exact aside_recvDatagram hc
    · exact aside_handleStreamOpened hc
    · exact aside_answer hc .nil
  · exact aside_answer hc modest_dropEarlyEvent

theorem aside_replayEarlyEventsLoop {isSessionPresent : Bool} :
    ∀ (events : List (Timestamp × ProtocolEvent)) (c : Connection), c.AllSettled →
      Aside c (replayEarlyEventsLoop isSessionPresent now events c) := by
  intro events
  induction events with
  | nil => exact fun c hc => aside_answer hc .nil
  | cons entry rest ih =>
    intro c hc
    have hfirst := aside_replayEarlyEvent hc isSessionPresent entry.2 now
    exact hfirst.trans (ih _ hfirst.settled)

theorem aside_replayEarlyEvents (hc : c.AllSettled) (sessionId : SessionId) (now : Timestamp) :
    Aside c (c.replayEarlyEvents sessionId now) := by
  unfold replayEarlyEvents
  split
  · exact aside_answer hc .nil
  · rename_i events hget
    have htaken : Aside c ({ c with
        earlyEventBuffer := c.earlyEventBuffer.erase sessionId
        earlyEventCount := c.earlyEventCount - events.length }, []) :=
      ⟨⟨rfl, rfl, rfl, rfl, rfl, rfl, rfl⟩, .nil, hc.congr rfl⟩
    exact htaken.trans (aside_replayEarlyEventsLoop events _ htaken.settled)

theorem aside_pruneEarlyEvents (hc : c.AllSettled) : Aside c (c.pruneEarlyEvents now) := by
  refine ⟨⟨rfl, rfl, rfl, rfl, rfl, rfl, rfl⟩, ?_, hc.congr rfl⟩
  intro e he
  obtain ⟨entry, -, he⟩ := List.mem_flatMap.mp he
  exact modest_dropEarlyEvent e he

theorem modest_diagnoseStream (c : Connection) {requestId : RequestId} :
    Modest (c.diagnoseStream streamId requestId) := by
  unfold diagnoseStream
  split
  · unfold Session.diagnoseStream
    split <;> exact .single rfl
  · exact .single rfl

end Connection

/-- A call that leaves the requests and the state of the connection alone. -/
def ConnectionOp.isAside : ConnectionOp → Bool
  | .bindSession .. | .close .. | .closeGracefully _ | .createSession .. | .deferSession _
  | .failSession .. | .handleHandshakeCompleted | .handleTerminated .. | .recvGoaway
  | .recvHeaders .. | .recvMaxStreams _ | .recvSettings _ => false
  | _ => true

namespace Connection

theorem exec_aside {c : Connection} (hc : c.AllSettled) {now : Timestamp} {op : ConnectionOp}
    (hop : op.isAside = true) : Aside c (c.exec now op) := by
  cases op with
  | diagnose requestId => exact aside_answer hc (.single rfl)
  | diagnoseStream streamId requestId =>
    exact aside_answer hc c.modest_diagnoseStream
  | handleStreamOpened sessionId streamId => exact aside_handleStreamOpened hc
  | pruneEarlyEvents => exact aside_pruneEarlyEvents hc
  | pruneResources => exact ⟨⟨rfl, rfl, rfl, rfl, rfl, rfl, rfl⟩, .nil, hc.pruneResources⟩
  | recvDatagram sessionId data => exact aside_recvDatagram hc
  | recvTransportParameters size =>
    exact ⟨⟨rfl, rfl, rfl, rfl, rfl, rfl, rfl⟩, .nil, hc.congr rfl⟩
  | bindSession | close | closeGracefully | createSession | deferSession | failSession
  | handleHandshakeCompleted | handleTerminated | recvGoaway | recvHeaders | recvMaxStreams
  | recvSettings => cases hop
  | _ => exact aside_of_calls hc rfl

/-! ## A new request -/

/-- A request is refused at once, or kept while its CONNECT stream is asked
for. -/
theorem createSession_cases (c : Connection) {requestId : RequestId}
    {sessionRequest : SessionRequest} :
    (∃ errorCode reason,
      c.createSession requestId sessionRequest =
        (c, [failConnection requestId errorCode reason])) ∨
    (c.isClient = true ∧ c.state = .connected ∧ c.peerGoawayReceived = false ∧
      ∃ headers, c.createSession requestId sessionRequest =
        c.submitSession requestId { sessionRequest with headers := headers }) := by
  unfold createSession
  split_ifs with hserver hstate hgoaway hfull hinvalid
  · exact Or.inl ⟨_, _, rfl⟩
  · exact Or.inl ⟨_, _, rfl⟩
  · exact Or.inl ⟨_, _, rfl⟩
  · exact Or.inl ⟨_, _, rfl⟩
  · exact Or.inl ⟨_, _, rfl⟩
  · have hready : c.isClient = true ∧ c.state = .connected ∧ c.peerGoawayReceived = false :=
      ⟨by simpa using hserver, by simpa using hstate, by simpa using hgoaway⟩
    split
    · exact Or.inr ⟨hready.1, hready.2.1, hready.2.2, sessionRequest.headers, rfl⟩
    · split
      · exact Or.inl ⟨_, _, rfl⟩
      · exact Or.inr ⟨hready.1, hready.2.1, hready.2.2, _, rfl⟩

end Connection

end PyWebTransport

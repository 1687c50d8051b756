/-
PyWebTransport.Protocol.GoawayRequests — requests for sessions once the peer
has sent GOAWAY.

A client that has received GOAWAY refuses new requests, and `recv_goaway`
fails the requests that wait for credit to open their CONNECT stream.
`exec_heeds` says what every call owes to a GOAWAY: before it nothing, after
it no CONNECT stream and an empty queue. One call breaks this. `defer_session`
puts a request back in the queue whatever has happened since it was asked
for, and the next MAX_STREAMS of the peer sends it. So the result about runs
(`no_connect_after_goaway`) is about runs in which a request is deferred only
as long as no GOAWAY has come, and `connect_after_goaway` is a run in which
one is deferred later.
-/
import PyWebTransport.Protocol.EngineCalls
import PyWebTransport.Protocol.RequestDesk

namespace PyWebTransport

open PyWebTransport.Lib

@[simp] theorem asksConnect_nil : asksConnect [] = [] := rfl

@[simp] theorem asksConnect_append (first second : List Effect) :
    asksConnect (first ++ second) = asksConnect first ++ asksConnect second :=
  List.filterMap_append

namespace Connection

variable {r : Connection × List Effect} {c' : Connection} {c c'' : Connection}
  {effects : List Effect}

variable {streamId : StreamId} {requestId : RequestId} {headers : Headers} {now : Timestamp}

/-! ## Calls that leave the queue alone -/

/-- Neither the queue of requests that wait for credit nor the GOAWAY flag
changes, and no CONNECT stream is asked for. -/
structure Unmoved (c : Connection) (r : Connection × List Effect) : Prop where
  goaway : r.1.peerGoawayReceived = c.peerGoawayReceived
  blocked : r.1.blockedSessionRequests = c.blockedSessionRequests
  asks : asksConnect r.2 = []
  settled : r.1.AllSettled

theorem Aside.unmoved (h : Aside c r) : Unmoved c r :=
  ⟨h.desk.peerGoawayReceived, h.desk.blockedSessionRequests, h.modest.asksConnect_eq_nil,
    h.settled⟩

theorem Unmoved.trans {first second : Connection × List Effect} (h₁ : Unmoved c first)
    (h₂ : Unmoved first.1 second) : Unmoved c (second.1, first.2 ++ second.2) :=
  ⟨h₂.goaway.trans h₁.goaway, h₂.blocked.trans h₁.blocked, by simp [h₁.asks, h₂.asks],
    h₂.settled⟩

variable {c : Connection}

theorem unmoved_of_sessions (hc : c.AllSettled) (hsessions : c'.sessions = c.sessions)
    (hgoaway : c'.peerGoawayReceived = c.peerGoawayReceived)
    (hblocked : c'.blockedSessionRequests = c.blockedSessionRequests)
    (hasks : asksConnect effects = []) : Unmoved c (c', effects) :=
  ⟨hgoaway, hblocked, hasks, hc.congr hsessions⟩

theorem asksConnect_done (requestId : Option RequestId) (result : RequestId → RequestResult) :
    asksConnect (requestId.toList.map fun id => .notifyRequestDone id (result id)) = [] := by
  cases requestId <;> rfl

section

variable (hc : c.AllSettled)
include hc

theorem unmoved_close (requestId : Option RequestId) (errorCode : ErrorCode)
    (reason : Option String) (now : Timestamp) :
    Unmoved c (c.close requestId errorCode reason now) := by
  have hdone := asksConnect_done requestId fun _ => .none
  unfold close
  simp only
  split
  · exact unmoved_of_sessions hc rfl rfl rfl hdone
  · exact unmoved_of_sessions hc rfl rfl rfl hdone

theorem unmoved_closeGracefully : Unmoved c (c.closeGracefully requestId) := by
  unfold closeGracefully
  split
  · exact unmoved_of_sessions hc rfl rfl rfl rfl
  · have hsent : AllSettled { c with localGoawaySent := true } := hc.congr rfl
    have hdrained := (aside_perform hsent (.each .drain)).unmoved
    refine ⟨hdrained.goaway, hdrained.blocked, ?_, hdrained.settled⟩
    rw [asksConnect_append, asksConnect_append]
    refine List.append_eq_nil_iff.mpr ⟨List.append_eq_nil_iff.mpr ⟨?_, hdrained.asks⟩, rfl⟩
    split <;> rfl

theorem unmoved_handleHandshakeCompleted (now : Timestamp) :
    Unmoved c (c.handleHandshakeCompleted now) := by
  have hdone := asksConnect_done c.requestId fun _ => .connectionHandle c.handle
  unfold handleHandshakeCompleted
  simp only
  split_ifs <;> exact unmoved_of_sessions hc rfl rfl rfl (by first | rfl | exact hdone)

theorem unmoved_recvSettings (settings : H3Settings) (now : Timestamp) :
    Unmoved c (c.recvSettings settings now) := by
  have hdone := asksConnect_done c.requestId fun _ => .connectionHandle c.handle
  unfold recvSettings
  simp only
  split_ifs <;> exact unmoved_of_sessions hc rfl rfl rfl (by first | rfl | exact hdone)

theorem unmoved_bindSession : Unmoved c (c.bindSession streamId requestId) := by
  unfold bindSession
  simp only
  split
  · exact unmoved_of_sessions hc rfl rfl rfl rfl
  · split
    · exact ⟨rfl, rfl, rfl, settled_insert hc (settled_new _ _ _ _ _ _ _) rfl⟩
    · exact unmoved_of_sessions hc rfl rfl rfl rfl

/-! ## The response to a request -/

theorem unmoved_onSession {absent : Connection × List Effect}
    (habsent : Unmoved c absent) (sessionId : SessionId) (op : SessionOp) :
    Unmoved c (c.onSession sessionId absent fun session => session.exec op) := by
  rw [onSession_eq]
  split
  · exact (aside_perform hc _).unmoved
  · exact habsent

theorem unmoved_refuseResponse (streamId : StreamId) (requestId : RequestId)
    (errorCode : ErrorCode) (reason : String) (now : Timestamp) :
    Unmoved c (c.refuseResponse streamId requestId errorCode reason now) := by
  refine unmoved_onSession hc ?_ streamId (.abort errorCode reason now)
  exact unmoved_of_sessions hc rfl rfl rfl rfl

theorem unmoved_establishSession (streamId : StreamId)
    (requestId : RequestId) (wtProtocol : Option String) (now : Timestamp) :
    Unmoved c (c.establishSession streamId requestId wtProtocol now) := by
  unfold establishSession
  split
  · exact unmoved_onSession hc (unmoved_of_sessions hc rfl rfl rfl rfl) streamId
      (.confirm wtProtocol now)
  · split
    · exact unmoved_of_sessions hc rfl rfl rfl rfl
    · rename_i sessionRequest hrequest
      have hnew := settled_new streamId sessionRequest.path sessionRequest.headers
        sessionRequest.wtAvailableProtocols c.isClient c.sessionParameters
        sessionRequest.createdAt
      refine ⟨rfl, rfl, ?_, settled_insert hc (Session.settled_exec hnew (.confirm wtProtocol now))
        rfl⟩
      have hasks := (Session.modest_exec hnew (.confirm wtProtocol now)).asksConnect_eq_nil
      rw [asksConnect_append]
      exact List.append_eq_nil_iff.mpr ⟨hasks, rfl⟩

theorem unmoved_recvResponse (available : Option (List String)) :
    Unmoved c (c.recvResponse streamId requestId available headers now) := by
  unfold recvResponse
  simp only
  split
  · split
    · have hfirst := unmoved_establishSession hc streamId requestId
        ((combineHeader headers wtProtocol).bind parseWtProtocolString) now
      exact hfirst.trans (aside_replayEarlyEvents hfirst.settled streamId now).unmoved
    · exact unmoved_refuseResponse hc streamId requestId _ _ now
  · have hgone : Unmoved c ({ c with sessionRequests := c.sessionRequests.erase requestId }, []) :=
      unmoved_of_sessions hc rfl rfl rfl rfl
    have hrefused := hgone.trans (unmoved_refuseResponse hgone.settled streamId requestId
      errH3RequestRejected "wt_session abort" now)
    exact hrefused.trans (aside_replayEarlyEvents hrefused.settled streamId now).unmoved

theorem unmoved_recvHeadersClient :
    Unmoved c (c.recvHeadersClient streamId headers now) := by
  unfold recvHeadersClient
  split
  · exact unmoved_of_sessions hc rfl rfl rfl rfl
  · have htaken : Unmoved c
        ({ c with pendingSessionRequests := c.pendingSessionRequests.erase streamId }, []) :=
      unmoved_of_sessions hc rfl rfl rfl rfl
    simp only
    split
    · exact htaken.trans (unmoved_recvResponse htaken.settled _)
    · exact htaken.trans (unmoved_recvResponse htaken.settled _)
    · exact unmoved_of_sessions hc rfl rfl rfl rfl

theorem unmoved_recvHeadersServer :
    Unmoved c (c.recvHeadersServer streamId headers now) := by
  unfold recvHeadersServer
  split_ifs
  · exact unmoved_of_sessions hc rfl rfl rfl rfl
  · exact unmoved_of_sessions hc rfl rfl rfl rfl
  · exact unmoved_of_sessions hc rfl rfl rfl rfl
  · exact unmoved_of_sessions hc rfl rfl rfl rfl
  · exact unmoved_of_sessions hc rfl rfl rfl rfl
  · simp only
    generalize hsession : Session.new streamId _ headers _ c.isClient c.sessionParameters now = session
    have hnew : session.Settled := hsession ▸ settled_new _ _ _ _ _ _ _
    have hopened : AllSettled { c with sessions := c.sessions.insert streamId session } :=
      settled_insert hc hnew rfl
    have hreplayed := (aside_replayEarlyEvents hopened streamId now).unmoved
    exact ⟨hreplayed.goaway, hreplayed.blocked, hreplayed.asks, hreplayed.settled⟩

theorem unmoved_recvHeaders :
    Unmoved c (c.recvHeaders streamId headers now) := by
  unfold recvHeaders
  split
  · exact unmoved_recvHeadersClient hc
  · exact unmoved_recvHeadersServer hc

end

/-! ## What a call owes to a GOAWAY -/

/-- What is owed to a GOAWAY: it is not forgotten; once it has come and the
queue is empty, no CONNECT stream is asked for and the queue stays empty; and
when it comes, the queue is emptied by failing what is in it. -/
structure Heeds (c : Connection) (effects : List Effect) (c' : Connection) : Prop where
  kept : c.peerGoawayReceived = true → c'.peerGoawayReceived = true
  silent : c.peerGoawayReceived = true → c.blockedSessionRequests = [] →
    asksConnect effects = [] ∧ c'.blockedSessionRequests = []
  failed : c.peerGoawayReceived = false → c'.peerGoawayReceived = true →
    c'.blockedSessionRequests = [] ∧ ∀ requestId ∈ c.blockedSessionRequests,
      failConnection requestId (some errLibConnectionStateError)
        "wt_connection validate failed" ∈ effects

/-- The queue is the same as long as no GOAWAY has come. -/
def Still (c c' : Connection) : Prop :=
  c'.peerGoawayReceived = false → c'.blockedSessionRequests = c.blockedSessionRequests

theorem Unmoved.heeds (h : Unmoved c r) : Heeds c r.2 r.1 where
  kept hgoaway := h.goaway.trans hgoaway
  silent _ hempty := ⟨h.asks, h.blocked.trans hempty⟩
  failed hbefore hafter := by
    rw [h.goaway, hbefore] at hafter
    cases hafter

theorem Unmoved.still (h : Unmoved c r) : Still c r.1 :=
  fun _ => h.blocked

theorem Still.trans (hfirst : Still c c') (h : Heeds c' effects c'') (hsecond : Still c' c'') :
    Still c c'' := by
  intro hno
  have hmid : c'.peerGoawayReceived = false := by
    cases hcame : c'.peerGoawayReceived with
    | false => rfl
    | true => exact absurd ((h.kept hcame).symm.trans hno) (by decide)
  exact (hsecond hno).trans (hfirst hmid)

/-- A call whose queue is the same as long as no GOAWAY has come may be
followed by another one. -/
theorem Heeds.trans {first second : List Effect} (h₁ : Heeds c first c') (hstill : Still c c')
    (h₂ : Heeds c' second c'') : Heeds c (first ++ second) c'' where
  kept hgoaway := h₂.kept (h₁.kept hgoaway)
  silent hgoaway hempty := by
    obtain ⟨hfirst, hempty'⟩ := h₁.silent hgoaway hempty
    obtain ⟨hsecond, hempty''⟩ := h₂.silent (h₁.kept hgoaway) hempty'
    exact ⟨by rw [asksConnect_append, hfirst, hsecond]; rfl, hempty''⟩
  failed hbefore hafter := by
    cases hmid : c'.peerGoawayReceived with
    | true =>
      obtain ⟨hempty, hall⟩ := h₁.failed hbefore hmid
      exact ⟨(h₂.silent hmid hempty).2, fun id hid => List.mem_append_left _ (hall id hid)⟩
    | false =>
      obtain ⟨hempty, hall⟩ := h₂.failed hmid hafter
      refine ⟨hempty, fun id hid => List.mem_append_right _ (hall id ?_)⟩
      rw [hstill hmid]
      exact hid

/-- Effects that ask for nothing may stand around it. -/
theorem Heeds.around {before after : List Effect} (h : Heeds c effects c')
    (hbefore : asksConnect before = []) (hafter : asksConnect after = []) :
    Heeds c (before ++ effects ++ after) c' where
  kept := h.kept
  silent hgoaway hempty := by
    obtain ⟨hasks, hempty'⟩ := h.silent hgoaway hempty
    exact ⟨by rw [asksConnect_append, asksConnect_append, hbefore, hasks, hafter]; rfl, hempty'⟩
  failed hno hyes := by
    obtain ⟨hempty, hall⟩ := h.failed hno hyes
    exact ⟨hempty, fun id hid => List.mem_append_left _ (List.mem_append_right _ (hall id hid))⟩

theorem heeds_createSession (requestId : RequestId) (sessionRequest : SessionRequest) :
    Heeds c (c.createSession requestId sessionRequest).2
        (c.createSession requestId sessionRequest).1 ∧
      Still c (c.createSession requestId sessionRequest).1 := by
  rcases c.createSession_cases with
    ⟨errorCode, reason, heq⟩ | ⟨-, -, hbefore, headers, heq⟩
  · rw [heq]
    exact ⟨⟨fun h => h, fun _ hempty => ⟨rfl, hempty⟩,
      fun hno hyes => absurd (hno.symm.trans hyes) (by decide)⟩, fun _ => rfl⟩
  · rw [heq]
    refine ⟨⟨fun h => h, fun hgoaway => ?_, fun hno hyes => ?_⟩, fun _ => rfl⟩
    · exact absurd (hbefore.symm.trans hgoaway) (by decide)
    · exact absurd (hno.symm.trans hyes) (by decide)

theorem heeds_deferSession (hbefore : c.peerGoawayReceived = false) :
    Heeds c (c.deferSession requestId).2 (c.deferSession requestId).1 where
  kept hgoaway := hgoaway
  silent hgoaway := by
    rw [hbefore] at hgoaway
    cases hgoaway
  failed _ hafter := by
    rw [deferSession, hbefore] at hafter
    cases hafter

theorem heeds_recvGoaway (hc : c.AllSettled) : Heeds c c.recvGoaway.2 c.recvGoaway.1 where
  kept _ := rfl
  silent _ hempty := by
    have hdrained := (aside_perform (c := { c with
      peerGoawayReceived := true
      blockedSessionRequests := []
      sessionRequests := c.blockedSessionRequests.foldl (fun requests id => requests.erase id)
        c.sessionRequests }) (hc.congr rfl) (.each .drain)).unmoved
    refine ⟨?_, rfl⟩
    unfold recvGoaway
    simp only [hempty, List.map_nil, List.nil_append] at hdrained ⊢
    exact hdrained.asks
  failed _ _ := by
    refine ⟨rfl, fun requestId hid => List.mem_append_left _ ?_⟩
    exact List.mem_map.mpr ⟨requestId, hid, rfl⟩

theorem heeds_recvMaxStreams (hc : c.AllSettled) {isUnidirectional : Bool} :
    Heeds c (c.recvMaxStreams isUnidirectional).2 (c.recvMaxStreams isUnidirectional).1 where
  kept hgoaway := hgoaway
  silent _ hempty := by
    have hflushed := (aside_perform (c := { c with
      blockedSessionRequests := if isUnidirectional then c.blockedSessionRequests else [] })
      (hc.congr rfl) (.each (.flushBlockedStreamRequests isUnidirectional))).unmoved
    refine ⟨?_, ?_⟩
    · unfold recvMaxStreams
      simp only [asksConnect_append, hempty, List.filterMap_nil, ite_self]
      rw [hempty, ite_self] at hflushed
      exact hflushed.asks
    · show (if isUnidirectional then c.blockedSessionRequests else []) = []
      rw [hempty, ite_self]
  failed hbefore hafter := absurd (hbefore.symm.trans hafter) (by decide)

theorem heeds_handleTerminated (hc : c.AllSettled) {errorCode : ErrorCode} {reason : String} :
    Heeds c (c.handleTerminated errorCode reason now).2
        (c.handleTerminated errorCode reason now).1 ∧
      (c.handleTerminated errorCode reason now).1.AllSettled := by
  unfold handleTerminated
  split
  · exact ⟨(aside_answer hc .nil).unmoved.heeds, hc⟩
  · simp only
    generalize hclosed : (if c.state = .closing then { c with state := .closed }
      else { c with
        closeCode := some errorCode
        closeReason := some reason
        closedAt := some now
        state := .closed }) = closed
    have hsame : closed.sessions = c.sessions ∧
        closed.peerGoawayReceived = c.peerGoawayReceived := by
      rw [← hclosed]
      split <;> exact ⟨rfl, rfl⟩
    have hended := (aside_perform (c := { closed with
      sessionRequests := ∅
      requestId := none
      blockedSessionRequests := []
      pendingSessionRequests := ∅ }) (hc.congr hsame.1)
      (.each (.recvConnectClose errorCode reason now))).unmoved
    refine ⟨⟨fun hgoaway => ?_, fun _ _ => ⟨?_, rfl⟩, fun hno hyes => ?_⟩, hended.settled⟩
    · exact hsame.2.trans hgoaway
    · rw [asksConnect_append, asksConnect_append]
      refine List.append_eq_nil_iff.mpr ⟨List.append_eq_nil_iff.mpr ⟨hended.asks, rfl⟩, ?_⟩
      refine List.filterMap_eq_nil_iff.mpr fun e he => ?_
      obtain ⟨id, -, rfl⟩ := List.mem_map.mp he
      rfl
    · exact absurd (hno.symm.trans (hsame.2.symm.trans hyes)) (by decide)

end Connection

/-- The calls that change the queue without a GOAWAY. -/
def ConnectionOp.isQueued : ConnectionOp → Bool
  | .deferSession _ | .recvMaxStreams _ | .handleTerminated .. => true
  | _ => false

namespace Connection

variable {c : Connection}

/-- What a call that leaves the queue alone owes, in the terms of
`exec_heeds`. -/
theorem Unmoved.minds {r : Connection × List Effect} (h : Unmoved c r) {queued : Bool} :
    Heeds c r.2 r.1 ∧ r.1.AllSettled ∧ (queued = false → Still c r.1) :=
  ⟨h.heeds, h.settled, fun _ => h.still⟩

/-- Every call heeds a GOAWAY, if a request is deferred only before it. -/
theorem exec_heeds (hc : c.AllSettled) (now : Timestamp) (op : ConnectionOp)
    (hdefer : ∀ requestId, op = .deferSession requestId → c.peerGoawayReceived = false) :
    Heeds c (c.exec now op).2 (c.exec now op).1 ∧ (c.exec now op).1.AllSettled ∧
      (op.isQueued = false → Still c (c.exec now op).1) := by
  cases op with
  | bindSession streamId requestId => exact (unmoved_bindSession hc).minds
  | close requestId errorCode reason => exact (unmoved_close hc requestId errorCode reason now).minds
  | closeGracefully requestId => exact (unmoved_closeGracefully hc).minds
  | createSession requestId sessionRequest =>
    obtain ⟨hheeds, hstill⟩ := c.heeds_createSession requestId sessionRequest
    refine ⟨hheeds, hc.congr ?_, fun _ => hstill⟩
    show (c.createSession requestId sessionRequest).1.sessions = c.sessions
    rcases c.createSession_cases with
      ⟨_, _, heq⟩ | ⟨-, -, -, _, heq⟩
    · rw [heq]
    · rw [heq]
      rfl
  | deferSession requestId =>
    exact ⟨heeds_deferSession (hdefer requestId rfl), hc.congr rfl,
      fun h => nomatch h⟩
  | failSession requestId errorCode reason =>
    exact (unmoved_of_sessions hc rfl rfl rfl rfl : Unmoved c (c.failSession _ _ _)).minds
  | handleHandshakeCompleted => exact (unmoved_handleHandshakeCompleted hc now).minds
  | handleTerminated errorCode reason =>
    obtain ⟨hheeds, hsettled⟩ := heeds_handleTerminated hc
    exact ⟨hheeds, hsettled, fun h => nomatch h⟩
  | recvGoaway =>
    refine ⟨heeds_recvGoaway hc, ?_, fun _ hno => nomatch hno⟩
    exact AllSettled.perform (hc.congr rfl) (.each .drain)
  | recvHeaders streamId headers => exact (unmoved_recvHeaders hc).minds
  | recvMaxStreams isUnidirectional =>
    refine ⟨heeds_recvMaxStreams hc, ?_, fun h => nomatch h⟩
    exact AllSettled.perform (hc.congr rfl) (.each (.flushBlockedStreamRequests isUnidirectional))
  | recvSettings settings => exact (unmoved_recvSettings hc settings now).minds
  | _ => exact (exec_aside hc rfl).unmoved.minds

end Connection

/-! ## Engines -/

namespace WebTransportEngine

open Connection

variable {Q : Qpack} {e : WebTransportEngine Q} {now : Timestamp} {event : ProtocolEvent}

theorem asksConnect_of_isTransport {effects : List Effect}
    (h : ∀ effect ∈ effects, effect.isTransport = true) : asksConnect effects = [] := by
  refine List.filterMap_eq_nil_iff.mpr fun e he => ?_
  have htransport := h e he
  cases e <;> first | rfl | cases htransport

theorem asksConnect_givenUp : asksConnect (e.givenUp event) = [] := by
  have hfailed : ∀ (ids : List RequestId) (reason : String),
      asksConnect (ids.map fun requestId =>
        .notifyRequestFailed requestId .connection (some errLibConnectionStateError) reason) =
        [] := by
    intro ids reason
    refine List.filterMap_eq_nil_iff.mpr fun e he => ?_
    obtain ⟨id, -, rfl⟩ := List.mem_map.mp he
    rfl
  unfold givenUp
  split <;> first | rfl | exact hfailed _ _

/-- Only the answer of the transport defers a request. -/
theorem event_of_deferSession {requestId : RequestId}
    (h : e.callOf now event = some (.deferSession requestId)) :
    event = .internalDeferH3ConnectStream requestId := by
  cases event <;> simp only [callOf, callOnceConnected] at h <;> first
    | (cases h; done)
    | (cases h; rfl)
    | (split at h; all_goals cases h)

/-- What HTTP/3 raises and what waits for the connection do not touch the
queue of deferred requests, except by a GOAWAY. -/
theorem isQueued_of_raised {op : ConnectionOp}
    (hraised : event.isH3 = true ∨ (pendingRequestId event).isSome = true)
    (h : e.callOf now event = some op) : op.isQueued = false := by
  cases event <;> simp only [ProtocolEvent.isH3, pendingRequestId, Bool.false_eq_true,
    Option.isSome_none, or_self] at hraised <;>
    simp only [callOf, callOnceConnected] at h <;> first
    | (cases h; rfl)
    | (split at h; (cases h); (cases h; rfl))

/-- What a turn does to the connection heeds a GOAWAY. -/
theorem step_heeds {turn : Turn Q} (he : e.connection.AllSettled)
    (hdefer : ∀ requestId, event = .internalDeferH3ConnectStream requestId →
      e.connection.peerGoawayReceived = false) (h : e.step now event = some turn) :
    Heeds e.connection turn.effects turn.engine.connection ∧
      turn.engine.connection.AllSettled ∧
      ((∀ op, e.callOf now event = some op → op.isQueued = false) →
        Still e.connection turn.engine.connection) := by
  have hturns := step_turns h
  obtain ⟨before, after, heffects, hbefore, hafter⟩ := hturns.effects
  rw [heffects, hturns.connection, List.append_assoc]
  have hrest : asksConnect (after ++ e.givenUp event) = [] := by
    rw [asksConnect_append, asksConnect_of_isTransport hafter, asksConnect_givenUp]
    rfl
  have hfront := asksConnect_of_isTransport hbefore
  cases hcall : e.callOf now event with
  | none =>
    have hquiet := (aside_answer he .nil).unmoved
    exact ⟨hquiet.heeds.around hfront hrest, he, fun _ => hquiet.still⟩
  | some op =>
    obtain ⟨hheeds, hsettled, hstill⟩ := exec_heeds he now op
      fun requestId hop => hdefer requestId (event_of_deferSession (hop ▸ hcall))
    exact ⟨hheeds.around hfront hrest, hsettled, fun hop => hstill (hop op rfl)⟩

/-- So does a whole call of `handle_event`. -/
theorem handleEvent_heeds {r : WebTransportEngine Q × List Effect} (he : e.connection.AllSettled)
    (hwaits : e.Waits) (hdefer : ∀ requestId, event = .internalDeferH3ConnectStream requestId →
      e.connection.peerGoawayReceived = false) (hr : e.handleEvent event now = some r) :
    Heeds e.connection r.2 r.1.connection ∧ r.1.connection.AllSettled ∧ r.1.Waits := by
  -- as long as events are to come, the queue of deferred requests is the one of before
  have hheld := handled_invariant (K := fun e' queue out =>
    (Heeds e.connection out e'.connection ∧ e'.connection.AllSettled ∧ e'.Waits) ∧
      (∀ raised ∈ queue, raised.isH3 = true ∨ (pendingRequestId raised).isSome = true) ∧
      (queue = [] ∨ Still e.connection e'.connection)) hr ?_ ?_
  · exact hheld.1
  · intro turn hstep
    obtain ⟨hheeds, hsettled, hstill⟩ := step_heeds he hdefer hstep
    refine ⟨⟨hheeds, hsettled, (step_turns hstep).waits hwaits⟩, (step_turns hstep).raises hwaits, ?_⟩
    refine (step_turns hstep).calm.imp_right fun hopens => hstill fun op hop => ?_
    have hop' := hopens op hop
    cases op <;> first | rfl | cases hop'
  · intro e' event' queue out turn hK hstep
    obtain ⟨⟨hheeds, hsettled, hwaits'⟩, hraised, hlast⟩ := hK
    have hkind := hraised event' List.mem_cons_self
    have hstill := hlast.resolve_left (List.cons_ne_nil _ _)
    obtain ⟨hnext, hsettled', hnextStill⟩ := step_heeds hsettled (by
      rintro requestId rfl
      rcases hkind with h | h <;> cases h) hstep
    have hnextStill := hnextStill fun op hop => isQueued_of_raised hkind hop
    refine ⟨⟨hheeds.trans hstill hnext, hsettled', (step_turns hstep).waits hwaits'⟩, ?_, Or.inr ?_⟩
    · intro raised hin
      rcases List.mem_append.mp hin with hin | hin
      · exact (step_turns hstep).raises hwaits' raised hin
      · exact hraised raised (List.mem_cons_of_mem _ hin)
    · exact hstill.trans hnext hnextStill

end WebTransportEngine

/-! ## Runs -/

namespace World

open Connection

variable {Q : Qpack} {w : World Q} {event : ProtocolEvent} {now : Timestamp}

/-- A request is deferred only as long as no GOAWAY has come. -/
def defersInTime (w : World Q) (event : ProtocolEvent) (_ : Timestamp) : Bool :=
  match event with
  | .internalDeferH3ConnectStream _ => !w.engine.connection.peerGoawayReceived
  | _ => true

theorem goaway_of_defersInTime (h : w.defersInTime event now = true) (requestId : RequestId)
    (hevent : event = .internalDeferH3ConnectStream requestId) :
    w.engine.connection.peerGoawayReceived = false := by
  subst hevent
  simpa [defersInTime] using h

/-- Once a GOAWAY has come, the queue of deferred requests is empty. -/
structure Heeding (w : World Q) : Prop where
  settled : w.engine.connection.AllSettled
  waits : w.engine.Waits
  empty : w.engine.connection.peerGoawayReceived = true →
    w.engine.connection.blockedSessionRequests = []

theorem Heeding.handle (hw : w.Heeding) {r : WebTransportEngine Q × List Effect}
    (hmeets : w.defersInTime event now = true) (hr : w.engine.handleEvent event now = some r) :
    Heeds w.engine.connection r.2 r.1.connection ∧ (w.after event r).Heeding := by
  obtain ⟨hheeds, hsettled, hwaits⟩ := WebTransportEngine.handleEvent_heeds hw.settled hw.waits
    (goaway_of_defersInTime hmeets) hr
  refine ⟨hheeds, hsettled, hwaits, fun hafter => ?_⟩
  cases hbefore : w.engine.connection.peerGoawayReceived with
  | true => exact (hheeds.silent hbefore (hw.empty hbefore)).2
  | false => exact (hheeds.failed hbefore hafter).1

end World

end PyWebTransport

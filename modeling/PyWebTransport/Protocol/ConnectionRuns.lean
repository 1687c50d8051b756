/-
PyWebTransport.Protocol.ConnectionRuns — every call on a connection is a
chain of moves of its ledger.

`exec_leads` says so of one call and `execAll_leads` of a whole history, with
what arrived, was bound and was accepted on the way; nothing is left in hand
between two calls. What the later modules say of histories they prove for one
move at a time.
-/
import PyWebTransport.Protocol.Ledger

namespace PyWebTransport

open PyWebTransport.Lib

namespace Connection

variable {c : Connection} {sessionId : SessionId} {absent : Connection × List Effect} {t : Ledger}
  {event : ProtocolEvent}

variable {streamId : StreamId} {errorCode : ErrorCode} {now : Timestamp} {requestId : RequestId}
  {isUnidirectional isSessionPresent : Bool} {id : SessionId} {headers : Headers}

/-! ## Calls that leave the ledger alone -/

variable {l : Ledger}

theorem moves_settle (effects : List Effect) (same : SameTables l.connection c) :
    Chain Move l effects { l with connection := c } :=
  .single (.settle effects same)

/-- Nothing happens but some effects. -/
theorem moves_answer (effects : List Effect) : Chain Move l effects l :=
  moves_settle effects (SameTables.refl l.connection)

theorem moves_onSession (habsent : Chain Move l absent.2 { l with connection := absent.1 })
    (sessionId : SessionId) (op : SessionOp) (hplain : op.adds = []) :
    Chain Move l (l.connection.onSession sessionId absent fun session => session.exec op).2
      { l with
        connection :=
          (l.connection.onSession sessionId absent fun session => session.exec op).1 } := by
  rw [onSession_eq]
  split
  · exact .single (.call (.session sessionId op) (by simp [Call.isPlain, hplain]))
  · exact habsent

theorem moves_onStream (habsent : Chain Move l absent.2 { l with connection := absent.1 })
    (streamId : StreamId) (op : SessionOp) (hplain : op.adds = []) :
    Chain Move l (l.connection.onStream streamId absent fun session => session.exec op).2
      { l with
        connection :=
          (l.connection.onStream streamId absent fun session => session.exec op).1 } := by
  rw [onStream_eq]
  split
  · exact .single (.call (.stream streamId op) (by simp [Call.isPlain, hplain]))
  · exact habsent

theorem moves_forEachSession (l : Ledger) (op : SessionOp) (hplain : op.adds = []) :
    Chain Move l (l.connection.forEachSession fun session => session.exec op).2
      { l with
        connection := (l.connection.forEachSession fun session => session.exec op).1 } :=
  .single (.call (.each op) (by simp [Call.isPlain, hplain]))

theorem moves_abortSessionStream :
    Chain Move l (l.connection.abortSessionStream streamId errorCode now).2
      { l with connection := (l.connection.abortSessionStream streamId errorCode now).1 } :=
  moves_onSession (moves_answer []) streamId (.abort errorCode "wt_session abort" now) rfl

theorem moves_close {requestId : Option RequestId} {reason : Option String} :
    Chain Move l (l.connection.close requestId errorCode reason now).2
      { l with connection := (l.connection.close requestId errorCode reason now).1 } := by
  unfold close
  simp only
  split
  · exact moves_answer _
  · exact moves_settle _ ⟨rfl, rfl, rfl, rfl, rfl, rfl, rfl, rfl, Nat.le_refl _⟩

theorem moves_closeGracefully :
    Chain Move l (l.connection.closeGracefully requestId).2
      { l with connection := (l.connection.closeGracefully requestId).1 } := by
  unfold closeGracefully
  split
  · exact moves_answer _
  · have hgoaway : Chain Move l
        (if l.connection.localGoawaySent then []
          else [.sendH3Goaway l.connection.goawayIdentifier])
        { l with connection := { l.connection with localGoawaySent := true } } :=
      moves_settle _ ⟨rfl, rfl, rfl, rfl, rfl, rfl, rfl, rfl, Nat.le_refl _⟩
    exact (hgoaway.trans (moves_forEachSession _ .drain rfl)).trans (moves_answer _)

theorem moves_handleHandshakeCompleted :
    Chain Move l (l.connection.handleHandshakeCompleted now).2
      { l with connection := (l.connection.handleHandshakeCompleted now).1 } := by
  refine moves_settle _ ?_
  unfold handleHandshakeCompleted
  simp only
  split_ifs <;> exact ⟨rfl, rfl, rfl, rfl, rfl, rfl, rfl, rfl, Nat.le_refl _⟩

theorem moves_recvSettings {settings : H3Settings} :
    Chain Move l (l.connection.recvSettings settings now).2
      { l with connection := (l.connection.recvSettings settings now).1 } := by
  refine moves_settle _ ?_
  unfold recvSettings
  simp only
  split_ifs <;> exact ⟨rfl, rfl, rfl, rfl, rfl, rfl, rfl, rfl, Nat.le_refl _⟩

theorem moves_recvGoaway :
    Chain Move l l.connection.recvGoaway.2 { l with connection := l.connection.recvGoaway.1 } := by
  refine Chain.trans (moves_settle _ ?_) (moves_forEachSession _ .drain rfl)
  exact ⟨rfl, rfl, rfl, rfl, rfl, rfl, rfl, rfl, OrderedMap.size_foldl_erase_le _ _⟩

theorem moves_recvMaxStreams :
    Chain Move l (l.connection.recvMaxStreams isUnidirectional).2
      { l with connection := (l.connection.recvMaxStreams isUnidirectional).1 } := by
  refine Chain.trans (moves_settle _ ?_)
    (moves_forEachSession _ (.flushBlockedStreamRequests isUnidirectional) rfl)
  exact ⟨rfl, rfl, rfl, rfl, rfl, rfl, rfl, rfl, Nat.le_refl _⟩

theorem moves_handleTerminated {reason : String} :
    Chain Move l (l.connection.handleTerminated errorCode reason now).2
      { l with connection := (l.connection.handleTerminated errorCode reason now).1 } := by
  unfold handleTerminated
  simp only
  split
  · exact moves_answer _
  · rw [List.append_assoc]
    refine Chain.trans ?_ (moves_answer _)
    refine Chain.trans (moves_settle [] ?_)
      (moves_forEachSession _ (.recvConnectClose errorCode reason now) rfl)
    split <;> exact ⟨rfl, rfl, rfl, rfl, rfl, rfl, rfl, rfl, Nat.zero_le _⟩

theorem moves_bindStream :
    Chain Move l (l.connection.bindStream sessionId streamId requestId isUnidirectional now).2
      { l with
        connection :=
          (l.connection.bindStream sessionId streamId requestId isUnidirectional now).1
        bound := (sessionId, streamId) :: l.bound } := by
  have hbind := Chain.single
    (Move.bind (l := l) sessionId streamId requestId isUnidirectional now)
  unfold bindStream
  cases hget : l.connection.sessions.get? sessionId with
  | none =>
    simp only [perform, onSession_of_none hget, mapStream, hget, Option.any_none,
      Bool.false_eq_true, if_false] at hbind ⊢
    exact hbind.trans (moves_answer _)
  | some session =>
    simp only [perform, onSession_of_get? hget] at hbind ⊢
    exact hbind

/-! ## Requests for sessions -/

theorem moves_createSession {sessionRequest : SessionRequest} :
    Chain Move l (l.connection.createSession requestId sessionRequest).2
      { l with connection := (l.connection.createSession requestId sessionRequest).1 } := by
  unfold createSession
  split
  · exact moves_answer _
  rename_i hclient
  split
  · exact moves_answer _
  split
  · exact moves_answer _
  split
  · exact moves_answer _
  rename_i hfull
  split
  · exact moves_answer _
  have hsubmit : ∀ sessionRequest, Chain Move l
      (l.connection.submitSession requestId sessionRequest).2
      { l with connection := (l.connection.submitSession requestId sessionRequest).1 } := by
    intro sessionRequest
    have hkept : Chain Move l [] _ := .single (.submit requestId sessionRequest
      (by simpa using hclient)
      (fun hlimit => Nat.lt_of_not_le fun hroom => hfull ⟨hlimit, hroom⟩))
    exact hkept.trans (moves_answer _)
  split
  · exact hsubmit _
  · split
    · exact moves_answer _
    · exact hsubmit _

theorem moves_bindSession :
    Chain Move l (l.connection.bindSession streamId requestId).2
      { l with connection := (l.connection.bindSession streamId requestId).1 } := by
  have hpending : Chain Move l []
      { l with connection := { l.connection with
          pendingSessionRequests :=
            l.connection.pendingSessionRequests.insert streamId requestId } } :=
    moves_settle _ ⟨rfl, rfl, rfl, rfl, rfl, rfl, rfl, rfl, Nat.le_refl _⟩
  unfold bindSession
  simp only
  split
  · exact hpending
  · rename_i sessionRequest hrequest
    split
    · have hopened := hpending.trans (.single (.opened streamId requestId hrequest))
      exact hopened.trans (moves_answer _)
    · exact hpending

theorem moves_establishSession (streamId : StreamId) (requestId : RequestId)
    (wtProtocol : Option String) (now : Timestamp) :
    Chain Move l (l.connection.establishSession streamId requestId wtProtocol now).2
      { l with
        connection := (l.connection.establishSession streamId requestId wtProtocol now).1 } := by
  unfold establishSession
  split
  · exact moves_onSession (moves_answer []) streamId (.confirm wtProtocol now) rfl
  · split
    · exact moves_answer _
    · rename_i sessionRequest hrequest
      have hopened := Chain.single (Move.opened (l := l) streamId requestId hrequest)
      have hconfirmed := hopened.trans
        (.single (.call (.session streamId (.confirm wtProtocol now)) rfl))
      simp only [perform, onSession, OrderedMap.get?_insert_self, OrderedMap.insert_insert,
        List.nil_append] at hconfirmed
      exact hconfirmed.trans (moves_answer _)

theorem moves_refuseResponse (streamId : StreamId) (requestId : RequestId)
    (errorCode : ErrorCode) (reason : String) (now : Timestamp) :
    Chain Move l (l.connection.refuseResponse streamId requestId errorCode reason now).2
      { l with
        connection :=
          (l.connection.refuseResponse streamId requestId errorCode reason now).1 } := by
  refine moves_onSession (moves_settle _ ?_) streamId (.abort errorCode reason now) rfl
  exact ⟨rfl, rfl, rfl, rfl, rfl, rfl, rfl, rfl, OrderedMap.size_erase_le _ _⟩

/-! ## Early events -/

/-- An event that is kept leaves the hand; one that is not changes nothing
but, at most, the empty buffer it leaves behind. -/
theorem moves_bufferEarlyEvent (sessionId : SessionId) (event : ProtocolEvent)
    (rest : List (SessionId × StreamId)) (now : Timestamp)
    (hfiled : event.earlySession = some sessionId) (hhand : l.hand = event.earlyStream ++ rest) :
    Chain Move l []
      { l with
        connection := (l.connection.bufferEarlyEvent sessionId event now).1
        hand := if (l.connection.bufferEarlyEvent sessionId event now).2 then rest else l.hand } := by
  unfold bufferEarlyEvent
  simp only
  split
  · exact .refl l
  · rename_i hroom
    split
    · exact .single (.touch sessionId)
    · rename_i hsession
      exact .single (.store event now hfiled hhand (Nat.lt_of_not_le hroom)
        (Nat.lt_of_not_le hsession))

theorem sessions_bufferEarlyEvent (c : Connection) (sessionId : SessionId) (event : ProtocolEvent)
    (now : Timestamp) : (c.bufferEarlyEvent sessionId event now).1.sessions = c.sessions := by
  unfold bufferEarlyEvent
  simp only
  split
  · rfl
  · split <;> rfl

theorem moves_recvDatagram (sessionId : SessionId) (data : Bytes) (now : Timestamp) :
    Chain Move l (l.connection.recvDatagram sessionId data now).2
      { l with connection := (l.connection.recvDatagram sessionId data now).1 } := by
  refine moves_onSession ?_ sessionId (.recvDatagram data) rfl
  have hbuffer := moves_bufferEarlyEvent sessionId (.h3DatagramReceived sessionId data) l.hand
    now rfl rfl
  rwa [ite_self] at hbuffer

theorem contains_perform (c : Connection) (call : Call) (id : SessionId) :
    (c.perform call).1.sessions.contains id = c.sessions.contains id := by
  have hinsert : ∀ {sessionId : SessionId} {session new : Session},
      c.sessions.get? sessionId = some session →
      (c.sessions.insert sessionId new).contains id = c.sessions.contains id := by
    intro sessionId session new hget
    rw [OrderedMap.contains, OrderedMap.get?_insert, OrderedMap.contains]
    split
    · rename_i heq
      rw [← heq, hget]
      rfl
    · rfl
  have honSession : ∀ (sessionId : SessionId) (op : SessionOp),
      (c.onSession sessionId (c, []) fun session => session.exec op).1.sessions.contains id =
        c.sessions.contains id := by
    intro sessionId op
    unfold onSession
    split
    · rfl
    · rename_i hget
      exact hinsert hget
  cases call with
  | session => exact honSession ..
  | stream streamId op =>
    simp only [perform, onStream]
    split
    · rfl
    · split
      · rfl
      · rename_i hget
        exact hinsert hget
  | adopt sessionId streamId op =>
    simp only [perform, mapStream]
    split <;> exact honSession sessionId op
  | each op => simp [perform, forEachSession, OrderedMap.contains]

/-- The calls lead from one ledger to another, whatever was refused and
handed over on the way. -/
def Leads (l : Ledger) (effects : List Effect) (t : Ledger) : Prop :=
  ∃ refused handed, Chain Move l effects { t with refused := refused, handed := handed }

theorem leads_of_moves {effects : List Effect} (h : Chain Move l effects t) : Leads l effects t :=
  ⟨t.refused, t.handed, h⟩

theorem Leads.after {u : Ledger} {first second : List Effect} (h : Chain Move l first t)
    (h' : Leads t second u) : Leads l (first ++ second) u := by
  obtain ⟨refused, handed, hmoves⟩ := h'
  exact ⟨refused, handed, h.trans hmoves⟩

theorem leads_handleStreamOpened :
    Leads l (l.connection.handleStreamOpened sessionId streamId now).2
      { l with
        connection := (l.connection.handleStreamOpened sessionId streamId now).1
        arrived := (sessionId, streamId) :: l.arrived } := by
  have harrive := Chain.single (Move.arrive (l := l) sessionId streamId)
  unfold handleStreamOpened
  split
  · rename_i hpresent
    exact ⟨_, _, harrive.trans (.single (.handOver now hpresent rfl))⟩
  · rename_i habsent
    have hbuffer := harrive.trans (moves_bufferEarlyEvent sessionId
      (.h3WebTransportStreamOpened sessionId streamId) l.hand now rfl rfl)
    simp only
    cases hkept : (l.connection.bufferEarlyEvent sessionId
        (.h3WebTransportStreamOpened sessionId streamId) now).2 with
    | true =>
      simp only [hkept, if_true] at hbuffer ⊢
      exact ⟨_, _, hbuffer⟩
    | false =>
      simp only [hkept, Bool.false_eq_true, if_false] at hbuffer ⊢
      refine ⟨_, _, hbuffer.trans (.single (.refuse ?_ rfl))⟩
      rw [sessions_bufferEarlyEvent]
      exact Bool.eq_false_iff.mpr habsent

/-- An early event of a session that is there is a call on it. -/
theorem replayEarlyEvent_present (hpresent : c.sessions.contains sessionId = true)
    (hfiled : event.earlySession = some sessionId) (now : Timestamp) :
    (∃ data, event = .h3DatagramReceived sessionId data ∧
      c.replayEarlyEvent true event now = c.perform (.session sessionId (.recvDatagram data))) ∨
    (∃ streamId, event = .h3WebTransportStreamOpened sessionId streamId ∧
      c.replayEarlyEvent true event now =
        c.perform (.adopt sessionId streamId (.handleStreamOpened streamId now))) := by
  obtain ⟨session, hget⟩ := Option.isSome_iff_exists.mp hpresent
  cases event <;> cases hfiled
  · refine Or.inl ⟨_, rfl, ?_⟩
    simp only [replayEarlyEvent, if_true, recvDatagram, onSession_of_get? hget, perform]
    rfl
  · refine Or.inr ⟨_, rfl, ?_⟩
    simp only [replayEarlyEvent, if_true, handleStreamOpened, hpresent, perform]
    rfl

/-- An early event is handed to its session if that is there, and dropped if
it is not. -/
theorem leads_replayEarlyEvent {rest : List (SessionId × StreamId)}
    (hfiled : event.earlySession = some sessionId) (hhand : l.hand = event.earlyStream ++ rest) :
    Leads l
      (l.connection.replayEarlyEvent (l.connection.sessions.contains sessionId) event now).2
      { l with
        connection :=
          (l.connection.replayEarlyEvent (l.connection.sessions.contains sessionId) event now).1
        hand := rest } := by
  cases hpresent : l.connection.sessions.contains sessionId with
  | true =>
    rcases replayEarlyEvent_present hpresent hfiled now with
      ⟨data, rfl, hcall⟩ | ⟨streamId, rfl, hcall⟩
    · rw [hcall]
      have hrest : l.hand = rest := hhand
      exact leads_of_moves (hrest ▸ .single (.call (.session sessionId (.recvDatagram data)) rfl))
    · rw [hcall]
      exact ⟨_, _, .single (.handOver now hpresent hhand)⟩
  | false =>
    cases event <;> cases hfiled
    · have hrest : l.hand = rest := hhand
      exact leads_of_moves (hrest ▸ .refl l)
    · exact ⟨_, _, .single (.refuse hpresent hhand)⟩

/-! Nothing that happens to early events opens or removes a session. -/

theorem contains_onSession {c' : Connection}
    (habsent : c'.sessions.contains id = c.sessions.contains id) (effects : List Effect)
    (sessionId : SessionId) (op : SessionOp) :
    (c.onSession sessionId (c', effects) fun session => session.exec op).1.sessions.contains id =
      c.sessions.contains id := by
  rw [onSession_eq]
  split
  · exact contains_perform c _ id
  · exact habsent

theorem contains_replayEarlyEvent (c : Connection) :
    (c.replayEarlyEvent isSessionPresent event now).1.sessions.contains id =
      c.sessions.contains id := by
  unfold replayEarlyEvent
  split
  · split
    · rename_i sessionId data
      refine contains_onSession ?_ [] sessionId (.recvDatagram data)
      rw [sessions_bufferEarlyEvent]
    · rename_i sessionId streamId
      unfold handleStreamOpened
      split
      · exact contains_perform c (.adopt sessionId streamId (.handleStreamOpened streamId now)) id
      · show OrderedMap.contains (Connection.sessions _) id = _
        rw [sessions_bufferEarlyEvent]
    · rfl
  · rfl

theorem contains_replayEarlyEventsLoop : ∀ (events : List (Timestamp × ProtocolEvent)) (c : Connection),
      (replayEarlyEventsLoop isSessionPresent now events c).1.sessions.contains id =
        c.sessions.contains id := by
  intro events
  induction events with
  | nil => exact fun c => rfl
  | cons entry rest ih =>
    intro c
    exact (ih _).trans c.contains_replayEarlyEvent

theorem contains_replayEarlyEvents :
    (c.replayEarlyEvents sessionId now).1.sessions.contains id = c.sessions.contains id := by
  unfold replayEarlyEvents
  split
  · rfl
  · exact contains_replayEarlyEventsLoop _ _

theorem leads_replayEarlyEventsLoop :
    ∀ (events : List (Timestamp × ProtocolEvent)) (l : Ledger)
      (rest : List (SessionId × StreamId)),
      (∀ entry ∈ events, entry.2.earlySession = some sessionId) →
      l.hand = earlyStreamsOf events ++ rest →
      Leads l
        (replayEarlyEventsLoop (l.connection.sessions.contains sessionId) now events
          l.connection).2
        { l with
          connection := (replayEarlyEventsLoop (l.connection.sessions.contains sessionId) now
            events l.connection).1
          hand := rest } := by
  intro events
  induction events with
  | nil =>
    intro l rest _ hhand
    have hrest : l.hand = rest := hhand
    exact leads_of_moves (hrest ▸ .refl l)
  | cons entry events ih =>
    intro l rest hfiled hhand
    have hhead : l.hand = entry.2.earlyStream ++ (earlyStreamsOf events ++ rest) := by
      rw [hhand, earlyStreamsOf_cons, List.append_assoc]
    obtain ⟨refused, handed, hfirst⟩ :=
      leads_replayEarlyEvent (hfiled entry List.mem_cons_self) hhead
    have hothers := ih
      { l with
        connection := (l.connection.replayEarlyEvent
          (l.connection.sessions.contains sessionId) entry.2 now).1
        hand := earlyStreamsOf events ++ rest
        refused := refused
        handed := handed }
      rest (fun entry h => hfiled entry (List.mem_cons_of_mem _ h)) rfl
    simp only [contains_replayEarlyEvent] at hothers
    exact Leads.after hfirst hothers

theorem leads_replayEarlyEvents (hl : l.connection.Accounted) (sessionId : SessionId)
    (now : Timestamp) :
    Leads l (l.connection.replayEarlyEvents sessionId now).2
      { l with connection := (l.connection.replayEarlyEvents sessionId now).1 } := by
  unfold replayEarlyEvents
  split
  · exact leads_of_moves (.refl l)
  · rename_i events hget
    have htake := Chain.single (Move.take hget (hl.length_le hget))
    exact Leads.after htake
      (leads_replayEarlyEventsLoop events _ l.hand (hl.filed sessionId events hget) rfl)

theorem dropEarlyEvent_eq :
    dropEarlyEvent event =
      event.earlyStream.flatMap fun entry => rejectBufferedStream entry.2 := by
  cases event <;> simp [dropEarlyEvent, ProtocolEvent.earlyStream]

section

variable (hl : l.connection.Accounted)
include hl

theorem leads_pruneEarlyEvents :
    Leads l (l.connection.pruneEarlyEvents now).2
      { l with connection := (l.connection.pruneEarlyEvents now).1 } := by
  have hexpire := Chain.single (Move.expire now (hl.expired_le now))
  have heffects : (l.connection.pruneEarlyEvents now).2 =
      (earlyStreamsOf (l.connection.expiredEvents now)).flatMap
        fun entry => rejectBufferedStream entry.2 := by
    rw [earlyStreamsOf, List.flatMap_assoc, ← expiredEvents_eq]
    simp only [← dropEarlyEvent_eq]
    rfl
  rw [heffects]
  exact ⟨_, _, hexpire⟩

/-! ## Headers -/

theorem leads_recvResponse (available : Option (List String)) :
    Leads l (l.connection.recvResponse streamId requestId available headers now).2
      { l with
        connection :=
          (l.connection.recvResponse streamId requestId available headers now).1 } := by
  unfold recvResponse
  simp only
  split
  · split
    · have hestablish := moves_establishSession (l := l) streamId requestId
        ((combineHeader headers wtProtocol).bind parseWtProtocolString) now
      exact Leads.after hestablish
        (leads_replayEarlyEvents (hl.moves hestablish) streamId now)
    · exact leads_of_moves (moves_refuseResponse streamId requestId _ _ now)
  · have herase : Chain Move l []
        { l with connection := { l.connection with
            sessionRequests := l.connection.sessionRequests.erase requestId } } :=
      moves_settle _ ⟨rfl, rfl, rfl, rfl, rfl, rfl, rfl, rfl, OrderedMap.size_erase_le _ _⟩
    have hrefuse := herase.trans (moves_refuseResponse streamId requestId errH3RequestRejected
      "wt_session abort" now)
    exact Leads.after hrefuse (leads_replayEarlyEvents (hl.moves hrefuse) streamId now)

theorem leads_recvHeadersClient :
    Leads l (l.connection.recvHeadersClient streamId headers now).2
      { l with connection := (l.connection.recvHeadersClient streamId headers now).1 } := by
  unfold recvHeadersClient
  split
  · exact leads_of_moves (.refl l)
  · rename_i requestId hpending
    have htaken : Chain Move l []
        { l with connection := { l.connection with
            pendingSessionRequests := l.connection.pendingSessionRequests.erase streamId } } :=
      moves_settle _ ⟨rfl, rfl, rfl, rfl, rfl, rfl, rfl, rfl, Nat.le_refl _⟩
    simp only
    split
    · exact Leads.after htaken (leads_recvResponse (hl.moves htaken) _)
    · exact Leads.after htaken (leads_recvResponse (hl.moves htaken) _)
    · exact leads_of_moves (htaken.trans (moves_answer _))

theorem leads_recvHeadersServer (hserver : l.connection.isClient = false) :
    Leads l (l.connection.recvHeadersServer streamId headers now).2
      { l with
        connection := (l.connection.recvHeadersServer streamId headers now).1
        accepted :=
          (if !l.connection.sessions.contains streamId &&
              (l.connection.recvHeadersServer streamId headers now).1.sessions.contains streamId
            then [streamId] else []) ++ l.accepted } := by
  -- a request that is refused changes nothing
  have hrefused : ∀ effects, Leads l effects
      { l with
        accepted :=
          (if !l.connection.sessions.contains streamId &&
              l.connection.sessions.contains streamId
            then [streamId] else []) ++ l.accepted } := by
    intro effects
    rw [Bool.not_and_self]
    exact leads_of_moves (moves_answer effects)
  unfold recvHeadersServer
  split
  · exact hrefused _
  rename_i hnew
  have habsent : l.connection.sessions.contains streamId = false := Bool.eq_false_iff.mpr hnew
  split
  · exact hrefused _
  split
  · exact hrefused _
  split
  · exact hrefused _
  rename_i hfull
  split
  · exact hrefused _
  · have hroom : l.connection.activeLimit > 0 →
        l.connection.sessions.size < l.connection.activeLimit :=
      fun hlimit => Nat.lt_of_not_le fun hroom => hfull ⟨hlimit, hroom⟩
    have haccept := Chain.single (Move.accepted streamId
      (((findHeader headers (asciiBytes [':', 'p', 'a', 't', 'h'])).bind utf8String?).getD "/")
      headers ((combineHeader headers wtAvailableProtocols).bind parseWtProtocolList) now hserver
      habsent hroom)
    have hreplay := leads_replayEarlyEvents (hl.moves haccept) streamId now
    simp only [contains_replayEarlyEvents, OrderedMap.contains_insert_self, habsent,
      Bool.not_false, Bool.and_self, if_true]
    exact Leads.after (haccept.trans (moves_answer [_])) hreplay

theorem leads_recvHeaders :
    Leads l (l.connection.recvHeaders streamId headers now).2
      { l with
        connection := (l.connection.recvHeaders streamId headers now).1
        accepted :=
          l.connection.accepts now (.recvHeaders streamId headers) ++ l.accepted } := by
  unfold accepts recvHeaders
  cases hclient : l.connection.isClient with
  | true => exact leads_recvHeadersClient hl
  | false => exact leads_recvHeadersServer hl hclient

/-! ## Every call -/

/-- Every call is a chain of moves that leaves nothing in hand. -/
theorem exec_leads {op : ConnectionOp} :
    Leads l (l.connection.exec now op).2
      { l with
        connection := (l.connection.exec now op).1
        arrived := op.arrives ++ l.arrived
        bound := op.binds ++ l.bound
        accepted := l.connection.accepts now op ++ l.accepted } := by
  cases op with
  | acceptSession sessionId requestId headers wtProtocol =>
    exact leads_of_moves (moves_onSession (moves_answer _) sessionId
      (.accept requestId headers wtProtocol now) rfl)
  | bindSession streamId requestId => exact leads_of_moves moves_bindSession
  | bindStream sessionId streamId requestId isUnidirectional =>
    exact leads_of_moves moves_bindStream
  | close requestId errorCode reason =>
    exact leads_of_moves moves_close
  | closeGracefully requestId => exact leads_of_moves moves_closeGracefully
  | closeSession sessionId requestId errorCode reason =>
    exact leads_of_moves (moves_onSession (moves_answer _) sessionId
      (.close requestId errorCode reason now) rfl)
  | completeStreamWrite streamId =>
    exact leads_of_moves (moves_onStream (moves_answer _) streamId
      (.completeStreamWrite streamId) rfl)
  | createSession requestId sessionRequest =>
    exact leads_of_moves moves_createSession
  | createStream sessionId requestId isUnidirectional =>
    exact leads_of_moves (moves_onSession (moves_answer _) sessionId
      (.createStream requestId isUnidirectional) rfl)
  | deferSession requestId =>
    exact leads_of_moves (moves_settle _
      ⟨rfl, rfl, rfl, rfl, rfl, rfl, rfl, rfl, Nat.le_refl _⟩)
  | deferStream sessionId requestId isUnidirectional =>
    exact leads_of_moves (moves_onSession (moves_answer _) sessionId
      (.deferStream requestId isUnidirectional) rfl)
  | diagnose requestId => exact leads_of_moves (moves_answer _)
  | diagnoseSession sessionId requestId =>
    exact leads_of_moves (moves_onSession (moves_answer _) sessionId (.diagnose requestId) rfl)
  | diagnoseStream streamId requestId => exact leads_of_moves (moves_answer _)
  | exportKeyingMaterial sessionId requestId label context length =>
    exact leads_of_moves (moves_onSession (moves_answer _) sessionId
      (.exportKeyingMaterial requestId label context length) rfl)
  | failSession requestId errorCode reason =>
    exact leads_of_moves (moves_settle _
      ⟨rfl, rfl, rfl, rfl, rfl, rfl, rfl, rfl, OrderedMap.size_erase_le _ _⟩)
  | handleHandshakeCompleted => exact leads_of_moves moves_handleHandshakeCompleted
  | handleStreamDataAcknowledged streamId =>
    exact leads_of_moves (moves_onStream (moves_answer _) streamId
      (.handleStreamDataAcknowledged streamId) rfl)
  | handleStreamOpened sessionId streamId => exact leads_handleStreamOpened
  | handleTerminated errorCode reason =>
    exact leads_of_moves moves_handleTerminated
  | pruneEarlyEvents => exact leads_pruneEarlyEvents hl
  | pruneResources => exact leads_of_moves (.single .prune)
  | readDatagram sessionId requestId =>
    exact leads_of_moves (moves_onSession (moves_answer _) sessionId
      (.readDatagram requestId) rfl)
  | readStream streamId requestId maxSize =>
    exact leads_of_moves (moves_onStream (moves_answer _) streamId
      (.readStream streamId requestId maxSize) rfl)
  | recvCapsule sessionId capsuleType capsuleValue =>
    exact leads_of_moves (moves_onSession (moves_answer _) sessionId
      (.recvCapsule capsuleType capsuleValue now) rfl)
  | recvConnectClose sessionId =>
    exact leads_of_moves (moves_onSession (moves_answer _) sessionId
      (.recvConnectClose errAppNoError "" now) rfl)
  | recvDatagram sessionId data => exact leads_of_moves (moves_recvDatagram sessionId data now)
  | recvGoaway => exact leads_of_moves moves_recvGoaway
  | recvHeaders streamId headers => exact leads_recvHeaders hl
  | recvMaxStreams isUnidirectional =>
    exact leads_of_moves moves_recvMaxStreams
  | recvSettings settings => exact leads_of_moves moves_recvSettings
  | recvStopSending streamId errorCode =>
    exact leads_of_moves (moves_onStream moves_abortSessionStream
      streamId (.recvStopSending streamId errorCode) rfl)
  | recvStreamData streamId data fin =>
    exact leads_of_moves (moves_onStream (moves_answer _) streamId
      (.recvStreamData streamId data fin now) rfl)
  | recvStreamReset streamId errorCode =>
    exact leads_of_moves (moves_onStream moves_abortSessionStream
      streamId (.recvStreamReset streamId errorCode) rfl)
  | recvTransportParameters peerMaxDatagramFrameSize =>
    exact leads_of_moves (moves_settle _
      ⟨rfl, rfl, rfl, rfl, rfl, rfl, rfl, rfl, Nat.le_refl _⟩)
  | rejectSession sessionId requestId headers statusCode =>
    exact leads_of_moves (moves_onSession (moves_answer _) sessionId
      (.reject requestId headers statusCode now) rfl)
  | resetStream streamId requestId errorCode =>
    exact leads_of_moves (moves_onStream (moves_answer _) streamId
      (.resetStream streamId requestId errorCode) rfl)
  | sendDatagram sessionId requestId data =>
    exact leads_of_moves (moves_onSession (moves_answer _) sessionId
      (.sendDatagram requestId data (l.connection.peerMaxDatagramFrameSize.getD 0)) rfl)
  | stopStream streamId requestId errorCode =>
    exact leads_of_moves (moves_onStream (moves_answer _) streamId
      (.stopStream streamId requestId errorCode) rfl)
  | writeStream streamId requestId data endStream =>
    exact leads_of_moves (moves_onStream (moves_answer _) streamId
      (.writeStream streamId requestId data endStream) rfl)

end

/-! ## Histories -/

theorem accounted_new {handle : ConnectionHandle} {requestId : Option RequestId}
    {isClient : Bool} {parameters : ConnectionParameters} :
    (Connection.new handle requestId isClient parameters).Accounted where
  count := rfl
  limit := Nat.zero_le _
  sessionLimit _ _ hget := nomatch hget
  filed _ _ hget := nomatch hget

/-- A whole history is a chain of moves that leaves nothing in hand. -/
theorem execAll_leads : ∀ (history : List (Timestamp × ConnectionOp)) (l : Ledger),
    l.connection.Accounted →
    Leads l (l.connection.execAll history).2
      { l with
        connection := (l.connection.execAll history).1
        arrived := (history.flatMap fun entry => entry.2.arrives).reverse ++ l.arrived
        bound := (history.flatMap fun entry => entry.2.binds).reverse ++ l.bound
        accepted := l.connection.accepted history ++ l.accepted } := by
  intro history
  induction history with
  | nil => exact fun l _ => leads_of_moves (.refl l)
  | cons entry rest ih =>
    intro l hl
    obtain ⟨refused, handed, hfirst⟩ := exec_leads hl
    have hall := Leads.after hfirst (ih _ (hl.moves hfirst))
    simp only [List.flatMap_cons, List.reverse_append, ConnectionOp.reverse_arrives,
      ConnectionOp.reverse_binds, List.append_assoc, Connection.accepted] at hall ⊢
    exact hall

/-! ## A sample server -/

/-- Flow control with room for a few of everything. -/
def sampleParameters : ConnectionParameters where
  earlyEventTtl := 5
  initialMaxData := 100
  initialMaxStreamsBidi := 2
  initialMaxStreamsUni := 2
  maxConnectionPendingEvents := 4
  maxPendingCapsules := 4
  maxPendingDatagrams := 4
  maxPendingStreams := 4
  maxSessionPendingEvents := 4
  maxSessions := 2
  maxWriteBufferSize := 100
  sessionReceiveWindow := 100

/-- A server whose handshake is done. -/
def sampleServer : Connection := .new 0 none false sampleParameters

/-- A request for a session on a stream. -/
def sampleHeaders (streamId : StreamId) : Timestamp × ConnectionOp :=
  (1, .recvHeaders streamId (H3.connectRequestHeaders "a" "/" []))

end Connection

end PyWebTransport

/-
PyWebTransport.Protocol.Negotiation — the application protocol of a session,
from the offer of the client to its confirmation.

A client offers protocols in the headers of its CONNECT request, the server
takes one of them, and the client checks the one it is told against its
offer. Between the two lie an encoder that escapes and two parsers that are
not the same (`Protocol.FieldLines`). `protocol_negotiation` follows one offer
all the way: whatever the strings are, as long as they are printable ASCII,
the server reads the offer as it was made, may take any member, and the
client recognises it.

Two things stand in the way on a connection that is otherwise free to use.
A client that has received a GOAWAY, and a server that has sent one, take no
new session (`negotiation_after_goaway`); and a session that is over before
the server answers, because of a stream that came too early, cannot be
accepted any more.
-/
import PyWebTransport.Protocol.FieldLines
import PyWebTransport.Protocol.RequestDesk

namespace PyWebTransport

open PyWebTransport.Lib PyWebTransport.Field

variable {headers : Headers} {encoded : Bytes}

/-! ## What a session keeps -/

namespace Session

variable {s : Session} {now : Timestamp} {streamId : StreamId}

/-- What streams and datagrams of the peer leave of a session. -/
structure KeepsOffer (s t : Session) : Prop where
  id : t.id = s.id
  isClient : t.isClient = s.isClient
  wtAvailableProtocols : t.wtAvailableProtocols = s.wtAvailableProtocols
  wtProtocol : t.wtProtocol = s.wtProtocol
  closeCode : t.closeCode = s.closeCode ∨ t.closeCode = some errWtFlowControlError

theorem KeepsOffer.refl (s : Session) : KeepsOffer s s := ⟨rfl, rfl, rfl, rfl, Or.inl rfl⟩

theorem KeepsOffer.trans {t u : Session} (h₁ : KeepsOffer s t) (h₂ : KeepsOffer t u) :
    KeepsOffer s u where
  id := h₂.id.trans h₁.id
  isClient := h₂.isClient.trans h₁.isClient
  wtAvailableProtocols := h₂.wtAvailableProtocols.trans h₁.wtAvailableProtocols
  wtProtocol := h₂.wtProtocol.trans h₁.wtProtocol
  closeCode := by
    rcases h₂.closeCode with h | h
    · rw [h]
      exact h₁.closeCode
    · exact Or.inr h

theorem keepsOffer_recvDatagram (s : Session) (data : Bytes) :
    KeepsOffer s (s.recvDatagram data).1 := by
  have hbuffered : KeepsOffer s
      (if s.pendingDatagrams.length ≥ s.maxPendingDatagrams then
        ((s, []) : Session × List Effect)
      else ({ s with pendingDatagrams := s.pendingDatagrams ++ [data] }, [])).1 := by
    split <;> exact ⟨rfl, rfl, rfl, rfl, Or.inl rfl⟩
  unfold recvDatagram
  split
  · exact .refl s
  · simp only
    split
    · exact hbuffered
    · split
      · exact hbuffered
      · exact ⟨rfl, rfl, rfl, rfl, Or.inl rfl⟩

theorem keepsOffer_abort (s : Session) {reason : String} :
    KeepsOffer s (s.abort errWtFlowControlError reason now).1 := by
  unfold abort
  split
  · exact .refl s
  · obtain ⟨streams, limits, closed, hshape⟩ := tearDown_shape { s with
      closeCode := some errWtFlowControlError
      closeReason := some reason
      closedAt := some now
      state := .closed }
    simp only [hshape]
    exact ⟨rfl, rfl, rfl, rfl, Or.inr rfl⟩

theorem keepsOffer_admitStream {direction : StreamDirection} :
    KeepsOffer s (s.admitStream streamId direction now).1 := by
  unfold admitStream
  split
  · obtain ⟨limits, closed, hshape⟩ := s.closePeerStream_shape (decide (direction = .receiveOnly))
    simp only [hshape]
    exact ⟨rfl, rfl, rfl, rfl, Or.inl rfl⟩
  · exact ⟨rfl, rfl, rfl, rfl, Or.inl rfl⟩

theorem keepsOffer_handleStreamOpened (s : Session) :
    KeepsOffer s (s.handleStreamOpened streamId now).1 := by
  have hcounted : ∀ uni count, KeepsOffer s (s.setPeerStreamsOpened uni count) := by
    intro uni count
    cases uni <;> exact ⟨rfl, rfl, rfl, rfl, Or.inl rfl⟩
  unfold handleStreamOpened
  simp only
  split
  · exact .refl s
  · split
    · exact .refl s
    all_goals
      split
      · exact s.keepsOffer_abort
      · exact (hcounted _ _).trans keepsOffer_admitStream

theorem keepsOffer_replayDatagrams : ∀ (fuel : Nat) (s : Session),
    KeepsOffer s (replayDatagrams fuel s).1
  | 0, s => .refl s
  | fuel + 1, s => by
      unfold replayDatagrams
      split
      · exact .refl s
      · split
        · exact .refl s
        · rename_i data rest hpending
          have htaken : KeepsOffer s { s with pendingDatagrams := rest } :=
            ⟨rfl, rfl, rfl, rfl, Or.inl rfl⟩
          have hfirst := htaken.trans (keepsOffer_recvDatagram _ data)
          exact hfirst.trans (keepsOffer_replayDatagrams fuel _)

/-- Without capsules in the queue, the replay only hands on datagrams and
streams. -/
theorem keepsOffer_replayPendingQueues (s : Session) (now : Timestamp)
    (hcapsules : s.pendingCapsules = []) : KeepsOffer s (s.replayPendingQueues now).1 := by
  have hnone : replayCapsules now s.pendingCapsules.length s = (s, [], false) := by
    rw [hcapsules]
    rfl
  unfold replayPendingQueues
  simp only [hnone, Bool.false_eq_true, if_false]
  have hdatagrams := keepsOffer_replayDatagrams s.pendingDatagrams.length s
  exact hdatagrams.trans ⟨rfl, rfl, rfl, rfl, Or.inl rfl⟩

end Session

namespace Connection

variable {c : Connection} {c' : Connection}

variable {isSessionPresent : Bool} {now : Timestamp}

/-- Every session is still there, with what it offers. -/
def KeepsOffers (c c' : Connection) : Prop :=
  ∀ id session, c.sessions.get? id = some session →
    ∃ session', c'.sessions.get? id = some session' ∧ Session.KeepsOffer session session'

theorem KeepsOffers.of_sessions (h : c'.sessions = c.sessions) : KeepsOffers c c' :=
  fun _ session hget => ⟨session, h ▸ hget, .refl session⟩

theorem KeepsOffers.trans {c'' : Connection} (h₁ : KeepsOffers c c') (h₂ : KeepsOffers c' c'') :
    KeepsOffers c c'' := by
  intro id session hget
  obtain ⟨session', hget', hkept⟩ := h₁ id session hget
  obtain ⟨session'', hget'', hkept'⟩ := h₂ id session' hget'
  exact ⟨session'', hget'', hkept.trans hkept'⟩

theorem keepsOffers_onSession {absent : Connection × List Effect} (habsent : KeepsOffers c absent.1)
    {sessionId : SessionId} {method : Session → Session × List Effect}
    (hmethod : ∀ session, Session.KeepsOffer session (method session).1) :
    KeepsOffers c (c.onSession sessionId absent method).1 := by
  unfold onSession
  split
  · exact habsent
  · rename_i found hfound
    intro id session hget
    rw [OrderedMap.get?_insert]
    split
    · rename_i hid
      subst hid
      rw [hfound] at hget
      cases hget
      exact ⟨_, rfl, hmethod _⟩
    · exact ⟨session, hget, .refl session⟩

theorem keepsOffers_replayEarlyEvent (c : Connection) {event : ProtocolEvent} :
    KeepsOffers c (c.replayEarlyEvent isSessionPresent event now).1 := by
  have hsame : KeepsOffers c c := .of_sessions rfl
  unfold replayEarlyEvent
  split
  · split
    · exact keepsOffers_onSession (.of_sessions (c.sessions_bufferEarlyEvent _ _ now))
        fun session => session.keepsOffer_recvDatagram _
    · unfold handleStreamOpened
      split
      · refine KeepsOffers.trans (keepsOffers_onSession ?_
          fun session => session.keepsOffer_handleStreamOpened)
          (.of_sessions sessions_mapStream)
        exact hsame
      · exact .of_sessions (c.sessions_bufferEarlyEvent _ _ now)
    · exact hsame
  · exact hsame

theorem keepsOffers_replayEarlyEventsLoop :
    ∀ (events : List (Timestamp × ProtocolEvent)) (c : Connection),
      KeepsOffers c (replayEarlyEventsLoop isSessionPresent now events c).1 := by
  intro events
  induction events with
  | nil => exact fun c => .of_sessions rfl
  | cons entry rest ih =>
    exact fun c => c.keepsOffers_replayEarlyEvent.trans (ih _)

theorem keepsOffers_replayEarlyEvents (c : Connection) (sessionId : SessionId)
    (now : Timestamp) : KeepsOffers c (c.replayEarlyEvents sessionId now).1 := by
  unfold replayEarlyEvents
  split
  · exact .of_sessions rfl
  · exact fun id session hget => keepsOffers_replayEarlyEventsLoop _ _ id session hget

end Connection

/-! ## Headers -/

/-- The application cannot set the headers of the negotiation itself. -/
theorem headerLines_userHeaders { isRequest : Bool} {key : Bytes}
    (h : isValidUserHeaders headers isRequest = true)
    (hkey : key = wtAvailableProtocols ∨ key = wtProtocol) :
    headers.filter (fun header => header.1 == key) = [] := by
  refine List.filter_eq_nil_iff.mpr fun header hheader hsame => ?_
  have hvalid := List.all_eq_true.mp h header hheader
  rw [beq_iff_eq] at hsame
  rcases hkey with rfl | rfl <;> simp [hsame] at hvalid

theorem headerLines_request (h : isValidUserHeaders headers true = true) (authority path : String)
    (encoded : Bytes) :
    headerLines (H3.connectRequestHeaders authority path
      (headers ++ [(wtAvailableProtocols, encoded)])) wtAvailableProtocols = [encoded] := by
  have huser := headerLines_userHeaders h (Or.inl rfl)
  have hpseudo : ∀ rest : Headers, headerLines (H3.connectRequestHeaders authority path rest)
      wtAvailableProtocols = headerLines rest wtAvailableProtocols := fun rest => rfl
  rw [hpseudo, headerLines, List.filter_append, huser]
  rfl

theorem headerLines_response (h : isValidUserHeaders headers false = true) (encoded : Bytes) :
    headerLines (Session.acceptStatus :: headers ++ [(wtProtocol, encoded)]) wtProtocol =
      [encoded] := by
  have huser := headerLines_userHeaders h (Or.inr rfl)
  have hstatus : ∀ rest : Headers, headerLines (Session.acceptStatus :: rest) wtProtocol =
      headerLines rest wtProtocol := fun rest => rfl
  rw [List.cons_append, hstatus, headerLines, List.filter_append, huser]
  rfl

/-- The server reads the offer as it was written. -/
theorem offer_read (h : isValidUserHeaders headers true = true) {protocols : List String}
    (hne : protocols ≠ []) (hencoded : encodeWtProtocolList protocols = .ok encoded)
    (authority path : String) :
    (combineHeader (H3.connectRequestHeaders authority path
      (headers ++ [(wtAvailableProtocols, encoded)])) wtAvailableProtocols).bind
        parseWtProtocolList = some protocols := by
  have hlines := headerLines_request h authority path encoded
  rw [combineHeader_eq (by rw [hlines]; exact List.cons_ne_nil _ _), hlines, Option.bind_some]
  refine (parseWtProtocolList_iff _ _).mpr ?_
  simpa [List.intercalate] using encodeWtProtocolList_listField hne hencoded

/-- The client reads the choice as it was written. -/
theorem choice_read (h : isValidUserHeaders headers false = true) {protocol : String}
    (hencoded : encodeWtProtocolList [protocol] = .ok encoded) :
    (combineHeader (Session.acceptStatus :: headers ++ [(wtProtocol, encoded)])
      wtProtocol).bind parseWtProtocolString = some protocol := by
  have hlines := headerLines_response h encoded
  rw [combineHeader_eq (by rw [hlines]; exact List.cons_ne_nil _ _), hlines, Option.bind_some]
  refine (parseWtProtocolString_iff _ _).mpr ?_
  simpa [List.intercalate] using encodeWtProtocolList_itemField hencoded

/-! ## The offer -/

namespace Connection

variable {c : Connection} {protocols : List String} {streamId : StreamId} {headers : Headers}
  {encoded : Bytes} {request : SessionRequest} {session : Session} {protocol : String}
  {requestId : RequestId}

variable {now : Timestamp}

/-- A client that may ask for one more session. -/
structure TakesRequests (c : Connection) : Prop where
  client : c.isClient = true
  connected : c.state = .connected
  noGoaway : c.peerGoawayReceived = false
  room : ¬(c.activeLimit > 0 ∧ c.sessions.size + c.sessionRequests.size ≥ c.activeLimit)

/-- A server that may take one more session. -/
structure TakesSessions (c : Connection) : Prop where
  server : c.isClient = false
  connected : c.state = .connected
  noGoaway : c.localGoawaySent = false
  room : ¬(c.activeLimit > 0 ∧ c.sessions.size ≥ c.activeLimit)

theorem createSession_offer (hc : c.TakesRequests)
    (hheaders : isValidUserHeaders request.headers true = true)
    (hoffer : request.wtAvailableProtocols = some protocols) (requestId : RequestId) :
    c.createSession requestId request =
      match encodeWtProtocolList protocols with
      | .error _ => (c, [failConnection requestId none "wt_available_protocols encode failed"])
      | .ok encoded =>
        c.submitSession requestId { request with
          headers := request.headers ++ [(PyWebTransport.wtAvailableProtocols, encoded)] } := by
  unfold createSession
  rw [if_neg (by simp [hc.client]), if_neg (by simp [hc.connected]),
    if_neg (by simp [hc.noGoaway]), if_neg hc.room, if_neg (by simp [hheaders])]
  cases hencoded : encodeWtProtocolList protocols with
  | error e | ok encoded => simp only [hoffer, hencoded]

/-- A request fails on exactly the offers that cannot be written. -/
theorem createSession_fails_iff (hc : c.TakesRequests)
    (hheaders : isValidUserHeaders request.headers true = true)
    (hoffer : request.wtAvailableProtocols = some protocols) :
    (∃ errorCode reason, failConnection requestId errorCode reason ∈
        (c.createSession requestId request).2) ↔
      ∃ text ∈ protocols, ∃ byte ∈ utf8Bytes text, ¬(0x20 ≤ byte ∧ byte ≤ 0x7E) := by
  have hbytes : (∃ text ∈ protocols, ∃ byte ∈ utf8Bytes text, ¬(0x20 ≤ byte ∧ byte ≤ 0x7E)) ↔
      ¬∃ encoded, encodeWtProtocolList protocols = .ok encoded := by
    rw [encodeWtProtocolList_isOk_iff]
    simp [Printable, isPrintableAscii]
  rw [hbytes, createSession_offer hc hheaders hoffer requestId]
  cases encodeWtProtocolList protocols with
  | error e => simp
  | ok encoded => simp [submitSession, failConnection]

/-! ## The session of the server -/

theorem recvHeaders_offer (hc : c.TakesSessions) (habsent : c.sessions.contains streamId = false)
    (hheaders : isValidUserHeaders headers true = true) (hne : protocols ≠ [])
    (hencoded : encodeWtProtocolList protocols = .ok encoded) {authority path : String} :
    ∃ session,
      (c.recvHeaders streamId (H3.connectRequestHeaders authority path
        (headers ++ [(wtAvailableProtocols, encoded)])) now).1.sessions.get? streamId =
          some session ∧
      session.isClient = false ∧ session.wtAvailableProtocols = some protocols ∧
      (c.earlyEventBuffer.get? streamId = none → session.state = .connecting) := by
  have hread := offer_read hheaders hne hencoded authority path
  have hmethod : findHeader (H3.connectRequestHeaders authority path
      (headers ++ [(wtAvailableProtocols, encoded)]))
      (asciiBytes [':', 'm', 'e', 't', 'h', 'o', 'd']) =
        some (asciiBytes ['C', 'O', 'N', 'N', 'E', 'C', 'T']) := rfl
  have hupgrade : findHeader (H3.connectRequestHeaders authority path
      (headers ++ [(wtAvailableProtocols, encoded)]))
      (asciiBytes [':', 'p', 'r', 'o', 't', 'o', 'c', 'o', 'l']) = some wtUpgradeToken := rfl
  generalize H3.connectRequestHeaders authority path
    (headers ++ [(wtAvailableProtocols, encoded)]) = request at *
  unfold recvHeaders recvHeadersServer
  rw [if_neg (by simp [hc.server]), if_neg (by simp [habsent]), if_neg (by simp [hc.connected]),
    if_neg (by simp [hc.noGoaway]), if_neg hc.room, if_neg (by simp [hmethod, hupgrade])]
  simp only [hread]
  generalize hsession : Session.new streamId _ request (some protocols) c.isClient
    c.sessionParameters now = session
  have hoffered : session.isClient = false ∧ session.wtAvailableProtocols = some protocols ∧
      session.state = .connecting := by
    rw [← hsession]
    exact ⟨hc.server, rfl, rfl⟩
  have hopened : ({ c with sessions := c.sessions.insert streamId session } :
      Connection).sessions.get? streamId = some session := OrderedMap.get?_insert_self _ _ _
  obtain ⟨session', hget, hkept⟩ := keepsOffers_replayEarlyEvents
    { c with sessions := c.sessions.insert streamId session } streamId now streamId session hopened
  refine ⟨session', hget, hkept.isClient.trans hoffered.1,
    hkept.wtAvailableProtocols.trans hoffered.2.1, fun hnone => ?_⟩
  have hquiet : ({ c with sessions := c.sessions.insert streamId session } :
      Connection).replayEarlyEvents streamId now =
        ({ c with sessions := c.sessions.insert streamId session }, []) := by
    simp only [replayEarlyEvents, hnone]
  rw [hquiet, hopened] at hget
  cases hget
  exact hoffered.2.2

theorem acceptSession_choice (hget : c.sessions.get? streamId = some session)
    (hserver : session.isClient = false) (hstate : session.state = .connecting)
    (hoffer : session.wtAvailableProtocols = some protocols) (hmem : protocol ∈ protocols)
    (hencoded : encodeWtProtocolList [protocol] = .ok encoded)
    (hheaders : isValidUserHeaders headers false = true) (requestId : RequestId) (now : Timestamp) :
    ∃ rest, (c.acceptSession streamId requestId headers (some protocol) now).2 =
      .sendH3Headers session.id
          (Session.acceptStatus :: headers ++ [(PyWebTransport.wtProtocol, encoded)]) false ::
        .emitSessionEvent session.id .sessionReady
          { wtProtocol := some protocol, readyAt := some now } ::
        .notifyRequestDone requestId .none :: rest := by
  have hheader : session.acceptProtocolHeader (some protocol) =
      .ok [(PyWebTransport.wtProtocol, encoded)] := by
    simp only [Session.acceptProtocolHeader, hencoded]
    rw [if_pos (by simp [hoffer, hmem])]
  rw [acceptSession, onSession_of_get? hget]
  simp only [Session.accept, hserver, hstate, hheaders, hheader]
  exact ⟨_, rfl⟩

/-! ## The answer -/

/-- A client holds the request still, or the session it opened at once. -/
def Offers (c : Connection) (streamId : StreamId) (requestId : RequestId)
    (protocols : List String) : Prop :=
  (c.sessions.get? streamId = none ∧ ∃ request, c.sessionRequests.get? requestId = some request ∧
    request.wtAvailableProtocols = some protocols) ∨
  ∃ session, c.sessions.get? streamId = some session ∧ session.id = streamId ∧
    session.state = .connecting ∧ session.closeCode = none ∧ session.pendingCapsules = [] ∧
    session.wtAvailableProtocols = some protocols

/-- A client that waits for the response to its request. -/
structure Awaits (c : Connection) (streamId : StreamId) (requestId : RequestId)
    (protocols : List String) : Prop where
  client : c.isClient = true
  pending : c.pendingSessionRequests.get? streamId = some requestId
  offers : c.Offers streamId requestId protocols

/-- What a session is once it is confirmed with a protocol. -/
structure Confirmed (session : Session) (protocol : String) : Prop where
  wtProtocol : session.wtProtocol = some protocol
  closeCode : session.closeCode ≠ some errWtAlpnError

/-- The event that tells the application so. -/
def TellsReady (streamId : StreamId) (protocol : String) (effects : List Effect) : Prop :=
  ∃ data : SessionEventData, data.wtProtocol = some protocol ∧
    Effect.emitSessionEvent streamId .sessionReady data ∈ effects

theorem confirm_choice (hstate : session.state = .connecting) (hcode : session.closeCode = none)
    (hcapsules : session.pendingCapsules = []) :
    Confirmed (session.confirm (some protocol) now).1 protocol ∧
      TellsReady session.id protocol (session.confirm (some protocol) now).2 := by
  unfold Session.confirm
  rw [if_neg (by simp [hstate])]
  have hkept := Session.keepsOffer_replayPendingQueues { session with
    readyAt := some now
    wtProtocol := some protocol
    state := .connected } now hcapsules
  have hclose : (Session.replayPendingQueues { session with
      readyAt := some now
      wtProtocol := some protocol
      state := .connected } now).1.closeCode ≠ some errWtAlpnError := by
    rcases hkept.closeCode with h | h
    · rw [h, hcode]
      exact fun heq => nomatch heq
    · rw [h]
      decide
  exact ⟨⟨hkept.wtProtocol, hclose⟩, _, rfl, List.mem_cons_self⟩

/-- The response makes or confirms the session, with the protocol it names. -/
theorem establishSession_choice (hc : c.Offers streamId requestId protocols) (protocol : String)
    (now : Timestamp) :
    ∃ session,
      (c.establishSession streamId requestId (some protocol) now).1.sessions.get? streamId =
        some session ∧
      Confirmed session protocol ∧
      TellsReady streamId protocol
        (c.establishSession streamId requestId (some protocol) now).2 := by
  unfold establishSession
  rcases hc with ⟨hnone, request, hrequest, -⟩ |
    ⟨session, hget, hid, hstate, hcode, hcapsules, -⟩
  · rw [if_neg (by simp [OrderedMap.contains, hnone])]
    simp only [hrequest]
    have hnew : (Session.new streamId request.path request.headers request.wtAvailableProtocols
        c.isClient c.sessionParameters request.createdAt).state = .connecting := rfl
    obtain ⟨hconfirmed, data, hdata, hready⟩ := confirm_choice hnew rfl rfl
    exact ⟨_, OrderedMap.get?_insert_self _ _ _, hconfirmed, data, hdata,
      List.mem_append_left _ hready⟩
  · rw [if_pos (by simp [OrderedMap.contains, hget]), onSession_of_get? hget]
    obtain ⟨hconfirmed, hready⟩ := confirm_choice hstate hcode hcapsules
    rw [hid] at hready
    exact ⟨_, OrderedMap.get?_insert_self _ _ _, hconfirmed, hready⟩

theorem recvHeaders_choice (hc : c.Awaits streamId requestId protocols)
    (hmem : protocol ∈ protocols) (hencoded : encodeWtProtocolList [protocol] = .ok encoded)
    (hheaders : isValidUserHeaders headers false = true) :
    ∃ session,
      (c.recvHeaders streamId (Session.acceptStatus :: headers ++
        [(PyWebTransport.wtProtocol, encoded)]) now).1.sessions.get? streamId = some session ∧
      Confirmed session protocol ∧
      TellsReady streamId protocol
        (c.recvHeaders streamId (Session.acceptStatus :: headers ++
          [(PyWebTransport.wtProtocol, encoded)]) now).2 := by
  have hread := choice_read hheaders hencoded
  have hstatus : findHeader (Session.acceptStatus :: headers ++
      [(PyWebTransport.wtProtocol, encoded)])
      (asciiBytes [':', 's', 't', 'a', 't', 'u', 's']) = some (asciiBytes ['2', '0', '0']) := rfl
  generalize Session.acceptStatus :: headers ++ [(PyWebTransport.wtProtocol, encoded)] = response
    at *
  let taken : Connection :=
    { c with pendingSessionRequests := c.pendingSessionRequests.erase streamId }
  have hresponse : ∀ available, available = some protocols →
      ∃ session,
        (taken.recvResponse streamId requestId available response now).1.sessions.get? streamId =
          some session ∧
        Confirmed session protocol ∧
        TellsReady streamId protocol
          (taken.recvResponse streamId requestId available response now).2 := by
    rintro available rfl
    obtain ⟨session, hget, hconfirmed, data, hdata, hready⟩ :=
      establishSession_choice (c := taken) hc.offers protocol now
    obtain ⟨session', hget', hkept⟩ := keepsOffers_replayEarlyEvents
      (taken.establishSession streamId requestId (some protocol) now).1 streamId now streamId
      session hget
    have hmatches : (some protocols).all (fun protocols =>
        (some protocol).any fun name => protocols.contains name) = true := by
      simp [hmem]
    unfold recvResponse
    simp only [hstatus, hread, if_true, hmatches]
    refine ⟨session', hget', ⟨hkept.wtProtocol.trans hconfirmed.wtProtocol, ?_⟩, data, hdata,
      List.mem_append_left _ hready⟩
    rcases hkept.closeCode with h | h
    · rw [h]
      exact hconfirmed.closeCode
    · rw [h]
      decide
  unfold recvHeaders recvHeadersClient
  rw [if_pos hc.client]
  simp only [hc.pending]
  rcases hc.offers with ⟨hnone, request, hrequest, hoffer⟩ |
    ⟨session, hget, -, -, -, -, hoffer⟩
  · simp only [hnone, hrequest]
    exact hresponse _ hoffer
  · simp only [hget]
    exact hresponse _ hoffer

/-- The client waits once the transport has opened the stream of a request. -/
theorem awaits_bindSession (hc : c.isClient = true) (habsent : c.sessions.get? streamId = none)
    (hoffer : request.wtAvailableProtocols = some protocols) :
    ((c.submitSession requestId request).1.bindSession streamId requestId).1.Awaits streamId
      requestId protocols := by
  have hkept : (c.submitSession requestId request).1.sessionRequests.get? requestId =
      some request := OrderedMap.get?_insert_self _ _ _
  unfold bindSession
  simp only [hkept]
  split
  · refine ⟨hc, OrderedMap.get?_insert_self _ _ _, Or.inr ?_⟩
    exact ⟨_, OrderedMap.get?_insert_self _ _ _, rfl, rfl, rfl, rfl, hoffer⟩
  · exact ⟨hc, OrderedMap.get?_insert_self _ _ _, Or.inl ⟨habsent, request, hkept, hoffer⟩⟩

/-! ## Both sides -/

/-- A server that may take a session makes one with this offer of the request.
If nothing came ahead of the request, the session is there to be answered. -/
def ReadAs (request : Headers) (protocols : List String) : Prop :=
  ∀ (server : Connection) (streamId : StreamId) (now : Timestamp), server.TakesSessions →
    server.sessions.contains streamId = false →
    ∃ session, (server.recvHeaders streamId request now).1.sessions.get? streamId = some session ∧
      session.isClient = false ∧ session.wtAvailableProtocols = some protocols ∧
      (server.earlyEventBuffer.get? streamId = none → session.state = .connecting)

/-- A client that waits confirms its session with this protocol. -/
def RecognisedAs (response : Headers) (protocols : List String) (protocol : String) : Prop :=
  ∀ (client : Connection) (streamId : StreamId) (requestId : RequestId) (now : Timestamp),
    client.Awaits streamId requestId protocols →
    ∃ session, (client.recvHeaders streamId response now).1.sessions.get? streamId = some session ∧
      Confirmed session protocol ∧
      TellsReady streamId protocol (client.recvHeaders streamId response now).2

/-- The server takes a member of the offer, by a response that the client
recognises. -/
def Accepts (protocols : List String) (protocol : String) : Prop :=
  ∀ (server : Connection) (streamId : StreamId) (session : Session),
    server.sessions.get? streamId = some session → session.isClient = false →
    session.state = .connecting → session.wtAvailableProtocols = some protocols →
    ∀ (requestId : RequestId) (headers : Headers) (now : Timestamp),
      isValidUserHeaders headers false = true →
      ∃ response rest,
        (server.acceptSession streamId requestId headers (some protocol) now).2 =
          .sendH3Headers session.id response false ::
            .emitSessionEvent session.id .sessionReady
              { wtProtocol := some protocol, readyAt := some now } ::
            .notifyRequestDone requestId .none :: rest ∧
        RecognisedAs response protocols protocol

/-- On connections that take sessions, a request fails on exactly the offers
with a byte that is not printable ASCII. Any other offer that is not empty is
read by the server as it was made; while the session is connecting the server
may take any member of it, and the client confirms that member. -/
theorem protocol_negotiation {client : Connection} (hclient : client.TakesRequests)
    {request : SessionRequest} (hheaders : isValidUserHeaders request.headers true = true)
    {protocols : List String} (hoffer : request.wtAvailableProtocols = some protocols)
    (requestId : RequestId) :
    ((∃ errorCode reason, failConnection requestId errorCode reason ∈
        (client.createSession requestId request).2) ↔
      ∃ text ∈ protocols, ∃ byte ∈ utf8Bytes text, ¬(0x20 ≤ byte ∧ byte ≤ 0x7E)) ∧
    (protocols ≠ [] →
      (∀ text ∈ protocols, ∀ byte ∈ utf8Bytes text, 0x20 ≤ byte ∧ byte ≤ 0x7E) →
      ∃ headers,
        (client.createSession requestId request).2 =
          [.createH3ConnectStream requestId request.authority request.path headers] ∧
        ReadAs (H3.connectRequestHeaders request.authority request.path headers) protocols ∧
        (∀ protocol ∈ protocols, Accepts protocols protocol) ∧
        ∀ streamId, client.sessions.get? streamId = none →
          ((client.createSession requestId request).1.bindSession streamId requestId).1.Awaits
            streamId requestId protocols) := by
  refine ⟨createSession_fails_iff hclient hheaders hoffer, fun hne hbytes => ?_⟩
  have hprintable : ∀ text ∈ protocols, Printable text := by
    simpa [Printable, isPrintableAscii] using hbytes
  obtain ⟨encoded, hencoded⟩ := (encodeWtProtocolList_isOk_iff protocols).mpr hprintable
  have hcreate := createSession_offer hclient hheaders hoffer requestId
  simp only [hencoded] at hcreate
  refine ⟨request.headers ++ [(PyWebTransport.wtAvailableProtocols, encoded)], by rw [hcreate]; rfl,
    ?_, ?_, ?_⟩
  · intro server streamId now hserver habsent
    exact recvHeaders_offer hserver habsent hheaders hne hencoded
  · intro protocol hmem server streamId session hget hserver hstate hoffered acceptId headers now
      hvalid
    obtain ⟨choice, hchoice⟩ := (encodeWtProtocolList_isOk_iff [protocol]).mpr
      (by simpa using hprintable protocol hmem)
    obtain ⟨rest, heffects⟩ := acceptSession_choice hget hserver hstate hoffered hmem hchoice
      hvalid acceptId now
    refine ⟨_, rest, heffects, ?_⟩
    intro waiting stream waitingId later hwaits
    exact recvHeaders_choice hwaits hmem hchoice hvalid
  · intro streamId habsent
    rw [hcreate]
    refine awaits_bindSession hclient.client habsent ?_
    exact hoffer

/-- A client that has just connected. -/
def sampleConnected : Connection :=
  ((Connection.new 0 none true sampleParameters).execAll
    [(1, .handleHandshakeCompleted), (1, .recvSettings {})]).1

/-- An offer with a quote, a comma and an empty string. -/
def sampleOffer : SessionRequest where
  authority := "a"
  createdAt := 1
  headers := []
  optimistic := false
  path := "/"
  wtAvailableProtocols := some ["a\"", "", "b, c"]

theorem protocol_negotiation_sample :
    ∃ headers,
      (sampleConnected.createSession 7 sampleOffer).2 =
        [.createH3ConnectStream 7 "a" "/" headers] ∧
      ReadAs (H3.connectRequestHeaders "a" "/" headers) ["a\"", "", "b, c"] ∧
      Accepts ["a\"", "", "b, c"] "b, c" := by
  have htakes : sampleConnected.TakesRequests := ⟨by decide, by decide, by decide, by decide⟩
  have hnegotiation := protocol_negotiation htakes (by decide : isValidUserHeaders
    sampleOffer.headers true = true) rfl 7
  obtain ⟨headers, heffects, hread, haccepts, -⟩ :=
    hnegotiation.2 (by decide +kernel) (by decide +kernel)
  exact ⟨headers, heffects, hread, haccepts "b, c" (by decide)⟩

/-- A connected client with room for a session that has received a GOAWAY
refuses an offer it could write. -/
theorem negotiation_after_goaway :
    let client := (sampleConnected.exec 2 .recvGoaway).1
    client.isClient = true ∧ client.state = .connected ∧
      client.sessions.size + client.sessionRequests.size < client.activeLimit ∧
      isValidUserHeaders sampleOffer.headers true = true ∧
      (client.createSession 7 sampleOffer).2 =
        [failConnection 7 (some errLibConnectionStateError) "wt_connection validate failed"] ∧
      ∀ text ∈ ["a\"", "", "b, c"], ∀ byte ∈ utf8Bytes text, 0x20 ≤ byte ∧ byte ≤ 0x7E := by
  decide +kernel

end Connection

end PyWebTransport

/-
PyWebTransport.Protocol.Session.HeadersFirst — what a server puts on the
CONNECT stream before its response.

HTTP/3 wants HEADERS first. The source asks `may_replenish_credit` before it
grants credit, so nothing the peer sends makes a server that has not
answered speak. The other capsules have no such check: a stream creation or
a write that finds no credit announces this at once, and `close` sends its
capsule or finishes the stream, although no response was sent
(`blocked_before_headers`). `Withholds` says which calls do not run into
this, and `headers_come_first` that a server that only gets such calls
answers with HEADERS first.
-/
import PyWebTransport.Protocol.Session.Lifecycle
import PyWebTransport.Protocol.Session.SendCredit

namespace PyWebTransport

open PyWebTransport.Lib

/-! ## Headers and what follows them -/

namespace Effect

def isHeadersOn (sessionId : SessionId) : Effect → Bool
  | .sendH3Headers k _ _ => k = sessionId
  | _ => false

/-- A capsule or bytes on this stream. -/
def isBodyOn (sessionId : SessionId) : Effect → Bool
  | .sendH3Capsule k _ _ _ | .sendQuicData k _ _ => k = sessionId
  | _ => false

theorem not_isBodyOn_of_isApart {e : Effect} {sessionId : SessionId}
    (h : e.isApart sessionId = true) : e.isBodyOn sessionId = false := by
  cases e <;> simp_all [isApart, speaks, sendsOn, endsOn, isBodyOn]

end Effect

/-- No effect is a capsule or bytes on this stream. -/
def NoBody (sessionId : SessionId) (effects : List Effect) : Prop :=
  ∀ e ∈ effects, e.isBodyOn sessionId = false

/-- Headers were sent on this stream, and nothing else before them. -/
def Answered (sessionId : SessionId) (effects : List Effect) : Prop :=
  ∃ before headers after, effects = before ++ headers :: after ∧ NoBody sessionId before ∧
    headers.isHeadersOn sessionId = true

section

variable {sessionId : SessionId} {first second : List Effect}

theorem NoBody.nil : NoBody sessionId [] := fun _ he => nomatch he

theorem NoBody.append (h₁ : NoBody sessionId first) (h₂ : NoBody sessionId second) :
    NoBody sessionId (first ++ second) := by
  exact List.forall_mem_append.mpr ⟨h₁, h₂⟩

theorem NoBody.apart (h : Session.AllApart sessionId first) : NoBody sessionId first :=
  fun e he => Effect.not_isBodyOn_of_isApart (h e he)

theorem Answered.append (h : Answered sessionId first) (second : List Effect) :
    Answered sessionId (first ++ second) := by
  obtain ⟨before, headers, after, rfl, hbefore, hheaders⟩ := h
  exact ⟨before, headers, after ++ second, by simp, hbefore, hheaders⟩

theorem Answered.prepend (hfirst : NoBody sessionId first) (h : Answered sessionId second) :
    Answered sessionId (first ++ second) := by
  obtain ⟨before, headers, after, rfl, hbefore, hheaders⟩ := h
  exact ⟨first ++ before, headers, after, by simp, hfirst.append hbefore, hheaders⟩

/-- Every capsule and all bytes come after the headers. -/
theorem headers_before_body {effects : List Effect}
    (h : Answered sessionId effects ∨ NoBody sessionId effects) :
    AtEach (fun before e => e.isBodyOn sessionId = true →
      ∃ headers ∈ before, headers.isHeadersOn sessionId = true) effects := by
  rcases h with ⟨before, headers, after, rfl, hbefore, hheaders⟩ | hnone
  · rw [atEach_append, atEach_cons]
    refine ⟨atEach_of_forall ?_, ?_, atEach_of_forall ?_⟩
    · intro e he _ hbody
      rw [hbefore e he] at hbody
      cases hbody
    · intro hbody
      cases headers <;> simp_all [Effect.isHeadersOn, Effect.isBodyOn]
    · intro e _ later _
      exact ⟨headers, by simp, hheaders⟩
  · refine atEach_of_forall ?_
    intro e he _ hbody
    rw [hnone e he] at hbody
    cases hbody

end

/-! ## Streams that do not block -/

namespace Stream

variable {s : Stream} {credit : Nat}

/-- A stream that is not blocked stays so if the front of its buffer has no
data, or a write is in flight, or there is credit. -/
theorem isBlocked_flushWrites_eq_false (h : s.Steady) (hgo : s.pendingWriteRequest = none →
      (∃ entry rest, s.writeBuffer = entry :: rest ∧ entry.data ≠ []) → 0 < credit) :
    (s.flushWrites credit).1.isBlocked = false := by
  rw [← Bool.not_eq_true]
  intro hblocked
  obtain ⟨hzero, hidle, hdata⟩ := stuck_of_isBlocked_flushWrites h hblocked
  exact absurd (hgo hidle hdata) (by omega)

theorem isBlocked_write_eq_false (h : s.Steady) (hfree : s.isBlocked = false)
    {requestId : RequestId} {data : Bytes} {endStream : Bool}
    (hgo : s.takesWrite data = true → s.pendingWriteRequest = none → data ≠ [] → 0 < credit) :
    (s.write requestId data endStream credit).1.isBlocked = false := by
  rcases s.write_cases requestId data endStream credit with ⟨htakes, heq⟩ | ⟨-, _, heq, -⟩ <;>
    rw [heq]
  · refine isBlocked_flushWrites_eq_false (steady_enqueueWrite h htakes _) ?_
    rintro hidle ⟨entry, rest, hbuffer, hdata⟩
    -- nothing was in flight and the stream was not blocked, so the new write is at the front
    have hempty : s.writeBuffer = [] := by
      have hnone : s.pendingWriteRequest = none := hidle
      simpa [isBlocked, hnone] using hfree
    have hfront : [WriteEntry.mk data requestId endStream] = entry :: rest := by
      simpa [enqueueWrite, hempty] using hbuffer
    obtain ⟨rfl, -⟩ := List.cons.inj hfront
    exact hgo htakes hidle hdata
  · exact hfree

theorem isBlocked_completeWrite_eq_false (h : s.Steady) (hfree : s.isBlocked = false)
    (hgo : (∃ entry rest, s.writeBuffer = entry :: rest ∧ entry.data ≠ []) → 0 < credit) :
    (s.completeWrite credit).1.isBlocked = false := by
  unfold completeWrite
  split
  · exact hfree
  · exact isBlocked_flushWrites_eq_false (steady_detach h) fun _ => hgo

end Stream

/-! ## A server that has not answered -/

namespace Session

variable {op : SessionOp} {s t : Session} {streamId : StreamId} {effects : List Effect}
  {requestId : RequestId} {uni : Bool}

/-- The calls that put nothing on the CONNECT stream of a server that has not
answered, as the session stands before the call. -/
def Withholds (s : Session) : SessionOp → Prop
  | .close .. => False
  | .createStream _ uni =>
    s.flowControlNegotiated = true → s.localStreamsOpened uni < s.peerMaxStreams uni
  | .flushBlockedStreamRequests uni => s.flowControlNegotiated = true →
      s.localStreamsOpened uni + (s.blockedStreamRequests uni).length ≤ s.peerMaxStreams uni
  | .writeStream streamId _ data _ => ∀ stream, s.streams.get? streamId = some stream →
      stream.takesWrite data = true → stream.pendingWriteRequest = none → data ≠ [] →
      0 < s.sessionCredit
  | .completeStreamWrite streamId => ∀ stream, s.streams.get? streamId = some stream →
      (∃ entry rest, stream.writeBuffer = entry :: rest ∧ entry.data ≠ []) → 0 < s.sessionCredit
  | _ => True

/-- A server before its answer: no stream waits for credit. -/
structure Waits (s : Session) : Prop where
  server : s.isClient = false
  state : s.state = .connecting
  blocked : s.blockedStreams = ∅
  steady : ∀ {k stream}, s.streams.get? k = some stream → stream.Steady
  free : ∀ {k stream}, s.streams.get? k = some stream → stream.isBlocked = false

theorem Waits.open (h : s.Waits) : s.isOpen = true :=
  isOpen_of_state h.state (by decide)

theorem Waits.core (h : s.Waits) (core : SameCore s t) : t.Waits where
  server := core.isClient.trans h.server
  state := core.state.trans h.state
  blocked := core.blockedStreams.trans h.blocked
  steady hget := h.steady (core.streams ▸ hget)
  free hget := h.free (core.streams ▸ hget)

/-- A stream that is not blocked is put into the table. -/
theorem Waits.put (h : s.Waits) {new : Stream}
    (hstreams : t.streams = s.streams.insert streamId new) (hsteady : new.Steady)
    (hfree : new.isBlocked = false) (hserver : t.isClient = s.isClient)
    (hstate : t.state = s.state) (hblocked : t.blockedStreams = s.blockedStreams) : t.Waits where
  server := hserver.trans h.server
  state := hstate.trans h.state
  blocked := hblocked.trans h.blocked
  steady hget := by
    rw [hstreams] at hget
    rcases OrderedMap.get?_insert_some hget with ⟨-, rfl⟩ | ⟨-, hget⟩
    · exact hsteady
    · exact h.steady hget
  free hget := by
    rw [hstreams] at hget
    rcases OrderedMap.get?_insert_some hget with ⟨-, rfl⟩ | ⟨-, hget⟩
    · exact hfree
    · exact h.free hget

theorem Waits.mayReplenish (h : s.Waits) : s.mayReplenish = false := by
  unfold Session.mayReplenish
  rw [h.state]
  exact h.server

/-- The calls whose moves need no look at the credit. -/
structure Tame (op : SessionOp) : Prop where
  writes : op.writesTo = none
  asks : op.asksForStreams = false
  confirms : ∀ protocol now, op ≠ .confirm protocol now
  closes : ∀ requestId errorCode reason now, op ≠ .close requestId errorCode reason now

/-- Before its answer a server moves silently, or it answers. -/
theorem Waits.move (hs : s.Waits) (hkeyed : s.Keyed) (h : Move op s effects t) (htame : Tame op)
    (hadds : ∀ k ∈ op.adds, k ≠ s.id) : Answered s.id effects ∨ NoBody s.id effects ∧ t.Waits := by
  have hstate := hs.state
  have hearly : ¬(s.state = .connected ∨ s.state = .draining) := by
    rw [hstate]
    rintro (h | h) <;> cases h
  cases h with
  | calm core quiet => exact Or.inr ⟨.apart (.quiet quiet s.id), hs.core core⟩
  | refuse streamId named refusal =>
    refine Or.inr ⟨.apart fun e he => ?_, hs⟩
    exact Effect.isApart_of_refuses (refusal e he) (hadds streamId named)
  | notice eventType data established => exact absurd established hearly
  | grantData encoded negotiated may | grantStreams uni encoded negotiated may =>
    rw [hs.mayReplenish] at may
    cases may
  | dataBlocked core opened full waiting => exact absurd hs.blocked waiting
  | streamsBlocked core opened early =>
    have hasks := early hstate
    rw [htame.asks] at hasks
    cases hasks
  | accepted headers data requestId server waiting core =>
    refine Or.inl ⟨[], .sendH3Headers s.id headers false, _, rfl, .nil, ?_⟩
    simp [Effect.isHeadersOn]
  | confirmed data named waiting core =>
    obtain ⟨protocol, now, hop⟩ := named
    exact absurd hop (htame.confirms protocol now)
  | drained capsules established => exact absurd (Or.inl established) hearly
  | closed closing =>
    rw [hstate] at closing
    cases closing
  | @method streamId stream call present plain =>
    refine Or.inr ⟨.apart (.own (fun e he => ?_) (hkeyed.apart present)), ?_⟩
    · rw [← hkeyed.id present]
      exact stream.receive_own e (s.suppress_subset e he)
    · refine hs.put rfl (Stream.steady_receive (hs.steady present) plain) ?_ rfl rfl rfl
      rw [← Bool.not_eq_true]
      intro hblocked
      have hbefore := Stream.isBlocked_receive plain hblocked
      rw [hs.free present] at hbefore
      cases hbefore
  | @dropped streamId stream present gone =>
    refine Or.inr ⟨.apart fun e he => ?_, ?_⟩
    · have hclosed := s.suppress_subset e he
      rw [List.mem_singleton.mp hclosed]
      rfl
    · obtain ⟨_, _, hshape⟩ := s.dropped_shape
      rw [hshape]
      refine ⟨hs.server, hstate, ?_, fun hget => ?_, fun hget => ?_⟩
      · change s.blockedStreams.erase streamId = ∅
        rw [hs.blocked]
        rfl
      · exact hs.steady (OrderedMap.get?_erase_some hget).2
      · exact hs.free (OrderedMap.get?_erase_some hget).2
  | written present named =>
    rw [htame.writes] at named
    cases named
  | maxDataRaised limit established => exact absurd established hearly
  | announced established => exact absurd (Or.inl established) hearly
  | cleared gone =>
    rw [hs.open] at gone
    cases gone

theorem Waits.opening {s t : Session} {effects : List Effect} (hs : s.Waits)
    (h : Opening op s effects t) (hadds : ∀ k ∈ op.adds, k ≠ s.id) :
    NoBody s.id effects ∧ t.Waits := by
  cases h with
  | bound streamId requestId uni now named opened =>
    exact ⟨by simp [NoBody, Effect.isBodyOn],
      hs.put rfl (Stream.steady_of_empty rfl) rfl rfl rfl rfl⟩
  | @admitted streamId now direction named =>
    refine ⟨?_, ?_⟩
    · rw [if_pos hs.state]
      exact .nil
    · obtain ⟨_, _, hshape⟩ := s.admitted_shape
      rw [hshape]
      exact hs.put rfl (Stream.steady_of_empty rfl) rfl rfl rfl rfl
  | @turnedAway _ streamId now direction named waiting directed incoming within refusal =>
    refine ⟨.apart fun e he => ?_, ?_⟩
    · exact Effect.isApart_of_refuses (refusal e he)
        (hadds streamId (by simp [named, SessionOp.adds]))
    · obtain ⟨_, _, _, _, hshape⟩ := s.turnedAway_shape
      rw [hshape]
      exact ⟨hs.server, hs.state, hs.blocked, hs.steady, hs.free⟩

theorem Waits.moves (hs : s.Waits) (hkeyed : s.Keyed) (h : Chain (Move op) s effects t)
    (htame : Tame op) (hadds : ∀ k ∈ op.adds, k ≠ s.id) :
    Answered s.id effects ∨ NoBody s.id effects ∧ t.Waits := by
  induction h with
  | refl s => exact Or.inr ⟨.nil, hs⟩
  | head move _ ih =>
    rcases hs.move hkeyed move htame hadds with hanswered | ⟨hsilent, hwaits⟩
    · exact Or.inl (hanswered.append _)
    · have hid := move.forward.1.id
      have hrest := ih hwaits (hkeyed.move move) (by rwa [hid])
      rw [hid] at hrest
      rcases hrest with hanswered | ⟨hlater, hwaits⟩
      · exact Or.inl (hanswered.prepend hsilent)
      · exact Or.inr ⟨hsilent.append hlater, hwaits⟩

/-- A server that is closed before its answer rejects the session or leaves
without a word. -/
theorem Waits.ending (hs : s.Waits) (hkeyed : s.Keyed) (h : Ending op s effects t)
    (htame : Tame op) (hadds : ∀ k ∈ op.adds, k ≠ s.id) :
    (Answered s.id effects ∨ NoBody s.id effects) ∧ t.isOpen = false := by
  obtain @⟨_, torn, last, answers, closeCode, closeReason, closedAt, state, data, opened, gone,
    moves, farewell, quiet⟩ := h
  have hgone : (s.marked closeCode closeReason closedAt state).isOpen = false := by
    rcases gone with rfl | rfl <;> rfl
  have htorn : NoBody s.id torn := by
    have hapart := apart_of_gone moves hkeyed.marked hadds hgone
    exact .apart hapart
  have hrest : NoBody s.id (.emitSessionEvent s.id .sessionClosed data :: answers) := by
    intro e he
    rcases List.mem_cons.mp he with rfl | he
    · rfl
    · exact Effect.not_isBodyOn_of_isApart (Effect.isApart_of_isQuiet (quiet e he))
  refine ⟨?_, (isOpen_of_moves moves).trans hgone⟩
  cases farewell with
  | silent => exact Or.inr (htorn.append hrest)
  | reset errorCode =>
    refine Or.inr (htorn.append (.append ?_ hrest))
    simp [NoBody, Effect.isBodyOn]
  | finish established =>
    rw [hs.state] at established
    rcases established with h | h <;> cases h
  | close named =>
    obtain ⟨requestId, errorCode, reason, now, hop⟩ := named
    exact absurd hop (htame.closes requestId errorCode reason now)
  | reject headers server waiting =>
    refine Or.inl ⟨torn, .sendH3Headers s.id headers true, _, rfl, htorn, ?_⟩
    simp [Effect.isHeadersOn]

theorem Waits.outcome (hs : s.Waits) (hkeyed : s.Keyed) (h : Outcome op s effects t)
    (htame : Tame op) (hadds : ∀ k ∈ op.adds, k ≠ s.id) :
    Answered s.id effects ∨ NoBody s.id effects ∧ (t.Waits ∨ t.isOpen = false) := by
  cases h with
  | course course =>
    cases course with
    | stays moves =>
      rcases hs.moves hkeyed moves htame hadds with hanswered | ⟨hsilent, hwaits⟩
      · exact Or.inl hanswered
      · exact Or.inr ⟨hsilent, Or.inl hwaits⟩
    | @ends mid _ before after moves ending =>
      have hid : mid.id = s.id := moves.keeps (P := fun u => u.id = s.id)
        (fun _ _ _ hmove hu => hmove.forward.1.id.trans hu) rfl
      rcases hs.moves hkeyed moves htame hadds with hanswered | ⟨hsilent, hwaits⟩
      · exact Or.inl (hanswered.append _)
      · have hend := hwaits.ending (hkeyed.moves moves) ending htame (by rwa [hid])
        rw [hid] at hend
        rcases hend with ⟨hanswered | hlater, hgone⟩
        · exact Or.inl (hanswered.prepend hsilent)
        · exact Or.inr ⟨hsilent.append hlater, Or.inr hgone⟩
  | late gone =>
    rw [hs.state] at gone
    cases gone
  | @opening mid _ before after first moves =>
    obtain ⟨hsilent, hwaits⟩ := hs.opening first hadds
    have hid := first.forward.1.id
    have hrest := hwaits.moves (hkeyed.opening first hadds) moves htame (by rwa [hid])
    rw [hid] at hrest
    rcases hrest with hanswered | ⟨hlater, hwaits⟩
    · exact Or.inl (hanswered.prepend hsilent)
    · exact Or.inr ⟨hsilent.append hlater, Or.inl hwaits⟩

/-- A session that is over puts nothing on the CONNECT stream. -/
theorem noBody_of_gone (hgone : s.isOpen = false) (hkeyed : s.Keyed) (h : Outcome op s effects t)
    (hadds : ∀ k ∈ op.adds, k ≠ s.id) : NoBody s.id effects ∧ t.isOpen = false := by
  have hshut : ∀ {u : Session}, u.isOpen = true → u.isOpen = s.isOpen → False := by
    intro u hopen hsame
    rw [hsame, hgone] at hopen
    cases hopen
  cases h with
  | course course =>
    cases course with
    | stays moves =>
      exact ⟨.apart (apart_of_gone moves hkeyed hadds hgone), (isOpen_of_moves moves).trans hgone⟩
    | ends moves ending =>
      obtain ⟨_, _, _, _, _, opened, _, _, _, _⟩ := ending
      exact (hshut opened (isOpen_of_moves moves)).elim
  | late closed => exact ⟨by simp [NoBody, Effect.isBodyOn], hgone⟩
  | opening first moves =>
    cases first with
    | bound streamId requestId uni now named opened | admitted named opened =>
      exact (hshut opened rfl).elim
    | turnedAway named waiting =>
      exact (hshut (isOpen_of_state waiting (by decide)) rfl).elim

/-! ## The calls that look at the credit -/

theorem Waits.createStream (hs : s.Waits) (h : s.Withholds (.createStream requestId uni)) :
    NoBody s.id (s.createStream requestId uni).2 ∧ (s.createStream requestId uni).1.Waits := by
  have hroom : (s.flowControlNegotiated &&
      decide (s.localStreamsOpened uni ≥ s.peerMaxStreams uni)) = false := by
    cases hfc : s.flowControlNegotiated with
    | false => rfl
    | true =>
      have hless : s.localStreamsOpened uni < s.peerMaxStreams uni := h hfc
      simpa using hless
  simp only [Session.createStream, hs.open, hroom]
  refine ⟨by simp [NoBody, Effect.isBodyOn], hs.core ?_⟩
  cases uni <;> constructor <;> rfl

/-- Within the limit every request that waits gets its stream. -/
theorem blockedStreamRequests_flushLoop {l : List RequestId} : ∀ (s : Session),
    (s.flowControlNegotiated = true →
      s.localStreamsOpened uni + l.length ≤ s.peerMaxStreams uni) →
    (flushBlockedStreamRequestsLoop uni l s).1.blockedStreamRequests uni = [] := by
  induction l with
  | nil =>
    intro s _
    cases uni <;> rfl
  | cons requestId rest ih =>
    intro s hroom
    have hfits : (!s.flowControlNegotiated ||
        decide (s.localStreamsOpened uni < s.peerMaxStreams uni)) = true := by
      cases hfc : s.flowControlNegotiated with
      | false => rfl
      | true =>
        have hlimit := hroom hfc
        rw [List.length_cons] at hlimit
        simp only [Bool.not_true, Bool.false_or, decide_eq_true_eq]
        omega
    simp only [flushBlockedStreamRequestsLoop, hfits]
    refine ih _ ?_
    intro hfc
    have hlimit := hroom (by cases uni <;> exact hfc)
    rw [List.length_cons] at hlimit
    cases uni <;>
      simp only [localStreamsOpened, peerMaxStreams, setLocalStreamsOpened] at hlimit ⊢ <;>
      simp only [if_true, Bool.false_eq_true, if_false] at hlimit ⊢ <;> omega

theorem Waits.flushBlockedStreamRequests (hs : s.Waits)
    (h : s.Withholds (.flushBlockedStreamRequests uni)) :
    NoBody s.id (s.flushBlockedStreamRequests uni).2 ∧
      (s.flushBlockedStreamRequests uni).1.Waits := by
  have hnone := blockedStreamRequests_flushLoop s h
  have hemit : (flushBlockedStreamRequestsLoop uni (s.blockedStreamRequests uni) s).1.emitStreamsBlocked
      uni = ((flushBlockedStreamRequestsLoop uni (s.blockedStreamRequests uni) s).1, none) := by
    simp [emitStreamsBlocked, hnone]
  obtain ⟨_, _, _, _, hshape⟩ :=
    flushBlockedStreamRequestsLoop_shape (s.blockedStreamRequests uni) s
  simp only [Session.flushBlockedStreamRequests, hemit]
  refine ⟨?_, hs.core ?_⟩
  · simp only [Option.toList_none, List.append_nil]
    intro e he
    have hquiet := quiet_flushBlockedStreamRequestsLoop s e he
    exact Effect.not_isBodyOn_of_isApart (Effect.isApart_of_isQuiet hquiet)
  · rw [hshape]
    constructor <;> rfl

theorem emitDataBlocked_of_none (h : s.blockedStreams = ∅) : s.emitDataBlocked = (s, none) := by
  simp [emitDataBlocked, h]

theorem Waits.onWriter (hs : s.Waits) (hkeyed : s.Keyed) {absent : List Effect}
    {method : Stream → Nat → Stream × List Effect × Nat}
    (habsent : ∀ e ∈ absent, e.isQuiet = true) (hsteady : ∀ stream : Stream, stream.Steady →
      Stream.Writes stream s.sessionCredit (method stream s.sessionCredit))
    (hown : ∀ stream : Stream, Eventless stream.id (method stream s.sessionCredit).2.1)
    (hfree : ∀ stream, s.streams.get? streamId = some stream →
      (method stream s.sessionCredit).1.isBlocked = false) :
    NoBody s.id (s.onWriter streamId absent method).2 ∧
      (s.onWriter streamId absent method).1.Waits := by
  unfold Session.onWriter
  split
  · exact ⟨.apart (.quiet habsent s.id), hs⟩
  · rename_i stream hget
    have hnotBlocked := hfree stream hget
    have hsent : Waits { s with
        streams := s.streams.insert streamId (method stream s.sessionCredit).1
        dataSent := s.dataSent + (method stream s.sessionCredit).2.2 } :=
      hs.put rfl (hsteady stream (hs.steady hget)).steady hnotBlocked rfl rfl rfl
    simp only [hnotBlocked, Bool.false_and, Bool.false_eq_true, if_false,
      emitDataBlocked_of_none hsent.blocked]
    refine ⟨?_, hsent⟩
    have hsilent := hown stream
    rw [hkeyed.id hget] at hsilent
    simp only [Option.toList_none, List.append_nil]
    exact .apart (.own (fun e he => (hsilent e he).1) (hkeyed.apart hget))

theorem Waits.writeStream (hs : s.Waits) (hkeyed : s.Keyed) {data : Bytes} {endStream : Bool}
    (h : s.Withholds (.writeStream streamId requestId data endStream)) :
    NoBody s.id (s.writeStream streamId requestId data endStream).2 ∧
      (s.writeStream streamId requestId data endStream).1.Waits := by
  refine hs.onWriter hkeyed ?_ ?_ ?_ ?_
  · intro e he
    rw [List.mem_singleton.mp he]
    split <;> rfl
  · exact fun stream hsteady => Stream.writes_write hsteady
  · exact fun stream => stream.silent_write
  · exact fun stream hget =>
      Stream.isBlocked_write_eq_false (hs.steady hget) (hs.free hget) (h stream hget)

theorem Waits.completeStreamWrite (hs : s.Waits) (hkeyed : s.Keyed)
    (h : s.Withholds (.completeStreamWrite streamId)) :
    NoBody s.id (s.completeStreamWrite streamId).2 ∧ (s.completeStreamWrite streamId).1.Waits := by
  refine hs.onWriter hkeyed (fun e he => nomatch he) ?_ ?_ ?_
  · exact fun stream hsteady => Stream.writes_completeWrite hsteady
  · exact fun stream => stream.silent_completeWrite
  · exact fun stream hget =>
      Stream.isBlocked_completeWrite_eq_false (hs.steady hget) (hs.free hget) (h stream hget)

/-- A call that a server may get before its answer leaves it waiting, ends
the session without a word, or answers with headers first. -/
theorem Waits.exec (hs : s.Waits) (hkeyed : s.Keyed) (hop : s.Withholds op)
    (hconfirm : ∀ protocol now, op ≠ .confirm protocol now) (hadds : ∀ k ∈ op.adds, k ≠ s.id) :
    Answered s.id (s.exec op).2 ∨
      NoBody s.id (s.exec op).2 ∧ ((s.exec op).1.Waits ∨ (s.exec op).1.isOpen = false) := by
  have htame : Tame op → Answered s.id (s.exec op).2 ∨
      NoBody s.id (s.exec op).2 ∧ ((s.exec op).1.Waits ∨ (s.exec op).1.isOpen = false) :=
    fun h => hs.outcome hkeyed (exec_outcome s (.of_open hs.open) op) h hadds
  cases op with
  | close => exact hop.elim
  | confirm protocol now => exact absurd rfl (hconfirm protocol now)
  | createStream requestId uni =>
    obtain ⟨hsilent, hwaits⟩ := hs.createStream hop
    exact Or.inr ⟨hsilent, Or.inl hwaits⟩
  | flushBlockedStreamRequests uni =>
    obtain ⟨hsilent, hwaits⟩ := hs.flushBlockedStreamRequests hop
    exact Or.inr ⟨hsilent, Or.inl hwaits⟩
  | writeStream streamId requestId data endStream =>
    obtain ⟨hsilent, hwaits⟩ := hs.writeStream hkeyed hop
    exact Or.inr ⟨hsilent, Or.inl hwaits⟩
  | completeStreamWrite streamId =>
    obtain ⟨hsilent, hwaits⟩ := hs.completeStreamWrite hkeyed hop
    exact Or.inr ⟨hsilent, Or.inl hwaits⟩
  | _ =>
    refine htame ⟨rfl, rfl, ?_, ?_⟩
    · exact fun _ _ h => nomatch h
    · exact fun _ _ _ _ h => nomatch h

end Session

/-! ## Whole runs -/

namespace Life

/-- The calls a server may get: no stream is the CONNECT stream, the session
is never confirmed as a client's is, and until it has answered it gets only
calls that put nothing on the CONNECT stream. -/
structure Patient (w : Life) (op : SessionOp) : Prop where
  apart : ∀ k ∈ op.adds, k ≠ w.session.id
  confirms : ∀ protocol now, op ≠ .confirm protocol now
  withholds : w.session.state = .connecting → w.session.Withholds op

structure Courteous (sessionId : SessionId) (w : Life) : Prop where
  id : w.session.id = sessionId
  settled : w.session.Settled
  keyed : w.session.Keyed
  phase : Answered sessionId w.trace ∨
    NoBody sessionId w.trace ∧ (w.session.Waits ∨ w.session.isOpen = false)

theorem Courteous.step {sessionId : SessionId} {w : Life} (h : Courteous sessionId w)
    {op : SessionOp} (hop : w.Patient op) : Courteous sessionId (w.step op) := by
  have houtcome := Session.exec_outcome w.session h.settled op
  have hevolves := Session.evolves_exec w.session op
  refine ⟨hevolves.constants.id.trans h.id, hevolves.settled h.settled,
    h.keyed.outcome houtcome hop.apart, ?_⟩
  have hid := h.id
  rcases h.phase with hanswered | ⟨hsilent, hwaits | hgone⟩
  · exact Or.inl (hanswered.append _)
  · have hexec := hwaits.exec h.keyed (hop.withholds hwaits.state) hop.confirms hop.apart
    rw [hid] at hexec
    rcases hexec with hanswered | ⟨hlater, hafter⟩
    · exact Or.inl (hanswered.prepend hsilent)
    · exact Or.inr ⟨hsilent.append hlater, hafter⟩
  · obtain ⟨hlater, hafter⟩ := Session.noBody_of_gone hgone h.keyed houtcome hop.apart
    rw [hid] at hlater
    exact Or.inr ⟨hsilent.append hlater, Or.inr hafter⟩

theorem courteous_start {id : SessionId} {path : String} {headers : Headers}
    (protocols : Option (List String)) {parameters : SessionParameters} {createdAt : Timestamp} :
    Courteous id (start (Session.new id path headers protocols false parameters createdAt)) where
  id := rfl
  settled := Session.Settled.of_open rfl
  keyed := Session.keyed_new protocols
  phase := Or.inr ⟨.nil, Or.inl
    { server := rfl
      state := rfl
      blocked := rfl
      steady := fun hget => nomatch hget
      free := fun hget => nomatch hget }⟩

/-- A server whose calls all are patient answers with HEADERS before it puts
a capsule or bytes on the CONNECT stream. -/
theorem headers_come_first (id : SessionId) (path : String) (headers : Headers)
    (protocols : Option (List String)) (parameters : SessionParameters) (createdAt : Timestamp)
    (w : Life) (hrun : Relation.ReflTransGen (Step Patient)
      (start (Session.new id path headers protocols false parameters createdAt)) w) :
    AtEach (fun before e => e.isBodyOn id = true →
      ∃ headers ∈ before, headers.isHeadersOn id = true) w.trace := by
  have h : Courteous id w := run_invariant (fun _ _ hw hop => hw.step hop)
    (courteous_start protocols) hrun
  refine headers_before_body ?_
  rcases h.phase with hanswered | ⟨hsilent, -⟩
  · exact Or.inl hanswered
  · exact Or.inr hsilent

/-- A server session with flow control whose client allows no streams. -/
def limitedServer : Life :=
  start (Session.new 0 "/" [] none false
    { SessionRun.sampleParameters with flowControlNegotiated := true } 0)

theorem limitedServer_run : Relation.ReflTransGen (Step Patient) limitedServer
    ((limitedServer.step (.accept 7 [] none 1)).step (.createStream 8 false)) := by
  refine (Relation.ReflTransGen.single ⟨.accept 7 [] none 1, ⟨?_, ?_, ?_⟩, rfl⟩).tail
    ⟨.createStream 8 false, ⟨?_, ?_, ?_⟩, rfl⟩
  · exact fun k hk => nomatch hk
  · exact fun _ _ h => nomatch h
  · exact fun h => nomatch h
  · exact fun k hk => nomatch hk
  · exact fun _ _ h => nomatch h
  · exact fun _ => trivial

theorem headers_come_first_accepted :
    ((limitedServer.step (.accept 7 [] none 1)).step (.createStream 8 false)).trace.any
        (Effect.isBodyOn 0) = true ∧
      AtEach (fun before e => e.isBodyOn 0 = true →
        ∃ headers ∈ before, headers.isHeadersOn 0 = true)
        ((limitedServer.step (.accept 7 [] none 1)).step (.createStream 8 false)).trace :=
  ⟨by decide, headers_come_first 0 "/" [] none
    { SessionRun.sampleParameters with flowControlNegotiated := true } 0 _ limitedServer_run⟩

/-- Before its answer a server that is asked for a stream it may not open
sends a STREAMS_BLOCKED capsule on the CONNECT stream. -/
theorem blocked_before_headers :
    ¬AtEach (fun before e => e.isBodyOn 0 = true →
      ∃ headers ∈ before, headers.isHeadersOn 0 = true)
      (limitedServer.step (.createStream 8 false)).trace := by
  intro h
  obtain ⟨headers, hmem, -⟩ :=
    h [] (.sendH3Capsule 0 wtCapsuleTypeStreamsBlockedBidi [0] false) [] (by decide) (by decide)
  cases hmem

end Life

end PyWebTransport

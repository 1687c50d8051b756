/-
PyWebTransport.Protocol.H3.StreamTable — what the bytes of a stream do to
the table of streams.

`Received` lists the ways a chunk can end: the stream failed, was dropped,
waits for the rest of its header, was handed to a session, is a control
stream, or is a request stream that was parsed and then either forgotten or
kept. `recvRequestData_received` and `recvUnidirectionalStreamData_received`
say that these are all; nothing else of the table is touched (`Touches`).
Every entry stays proper (`Received.proper`).
-/
import PyWebTransport.Protocol.H3.RequestEvents

namespace PyWebTransport

open PyWebTransport.Lib

variable {isClient : Bool} {streamId : StreamId}

/-- What is true of every entry of the table. A client's request streams are
those it opened itself. -/
structure H3Stream.Proper ( isClient : Bool) (streamId : StreamId) (s : H3Stream) : Prop where
  notBlocked : s.blocked = false
  streamType : isUnidirectionalStream streamId = false →
    s.streamType = none ∨ s.streamType = some h3StreamTypeWebtransport
  request : s.isRequestStream = true →
    s.streamType = none ∧ isUnidirectionalStream streamId = false ∧
      ( isClient = true → s.isConnectStream = true)

theorem H3Stream.Proper.of_not_request {s : H3Stream} (hblocked : s.blocked = false)
    (htype : isUnidirectionalStream streamId = false →
      s.streamType = none ∨ s.streamType = some h3StreamTypeWebtransport)
    (hrequest : s.isRequestStream = false) : s.Proper isClient streamId :=
  ⟨hblocked, htype, fun h => by rw [hrequest] at h; cases h⟩

theorem H3Stream.proper_empty : ({} : H3Stream).Proper isClient streamId :=
  Proper.of_not_request rfl (fun _ => Or.inl rfl) rfl

namespace H3

variable {Q : Qpack} {h h' : H3 Q} {streamId : StreamId} {stream fed : H3Stream} {isClient : Bool}
  {p : H3Stream × Outcome} {r : H3 Q × Except WebTransportError Outcome}

/-- Every entry of the table is proper. -/
def TableWF (h : H3 Q) : Prop :=
  ∀ streamId stream, h.streams.get? streamId = some stream → stream.Proper h.isClient streamId

theorem tableWF_new {parameters : H3Parameters} : (H3.new isClient parameters : H3 Q).TableWF := by
  intro streamId stream hget
  cases hget

theorem TableWF.feedStream (hwf : h.TableWF) (streamId : StreamId) (data : Bytes)
    (streamEnded : Bool) : (h.feedStream streamId data streamEnded).Proper h.isClient streamId := by
  unfold H3.feedStream
  cases hget : h.streams.get? streamId with
  | none => exact H3Stream.Proper.of_not_request rfl (fun _ => Or.inl rfl) rfl
  | some stream =>
    have hproper := hwf streamId stream hget
    exact ⟨hproper.notBlocked, hproper.streamType, hproper.request⟩

/-! ## One stream at a time -/

/-- Only the entry of one stream changes. -/
structure Touches (streamId : StreamId) (h h' : H3 Q) : Prop where
  isClient : h'.isClient = h.isClient
  others : ∀ id, id ≠ streamId → h'.streams.get? id = h.streams.get? id

theorem Touches.refl (streamId : StreamId) (h : H3 Q) : Touches streamId h h :=
  ⟨rfl, fun _ _ => rfl⟩

theorem Touches.trans {h'' : H3 Q} (h₁ : Touches streamId h h') (h₂ : Touches streamId h' h'') :
    Touches streamId h h'' :=
  ⟨h₂.isClient.trans h₁.isClient, fun id hne => (h₂.others id hne).trans (h₁.others id hne)⟩

/-- The table is the same. -/
theorem Touches.of_streams (hclient : h'.isClient = h.isClient)
    (hstreams : h'.streams = h.streams) : Touches streamId h h' :=
  ⟨hclient, fun _ _ => by rw [hstreams]⟩

theorem touches_insert (hclient : h'.isClient = h.isClient)
    (hstreams : h'.streams = h.streams.insert streamId stream) : Touches streamId h h' :=
  ⟨hclient, fun id hne => by rw [hstreams, OrderedMap.get?_insert_of_ne _ _ hne.symm]⟩

theorem touches_erase (hclient : h'.isClient = h.isClient)
    (hstreams : h'.streams = h.streams.erase streamId) : Touches streamId h h' :=
  ⟨hclient, fun id hne => by rw [hstreams, OrderedMap.get?_erase_of_ne _ hne.symm]⟩

theorem Touches.tableWF (ht : Touches streamId h h') (hwf : h.TableWF)
    (hentry : ∀ stream, h'.streams.get? streamId = some stream →
      stream.Proper h.isClient streamId) : h'.TableWF := by
  intro id stream hget
  rw [ht.isClient]
  by_cases hid : id = streamId
  · subst hid
    exact hentry stream hget
  · rw [ht.others id hid] at hget
    exact hwf id stream hget

theorem cleanupStream_touches (h : H3 Q) : Touches streamId h (h.cleanupStream streamId).1 :=
  touches_erase rfl rfl

@[simp] theorem cleanupStream_get?_self (h : H3 Q) :
    (h.cleanupStream streamId).1.streams.get? streamId = none :=
  OrderedMap.get?_erase_self h.streams streamId

theorem cleanupStream_sends (h : H3 Q) : SendsOnly (h.cleanupStream streamId).2 :=
  sendsOnly_sendInstructions h.localDecoderStreamId _

/-! ## The ways a chunk can end -/

/-- The request stream that is parsed: one that is known, or one a server
has just recognised. -/
def IsRequest ( isClient : Bool) (fed stream : H3Stream) : Prop :=
  fed.isRequestStream = true ∧ stream = fed ∨
    fed.isRequestStream = false ∧ isClient = false ∧ fed.streamType = none ∧
      stream = { fed with isRequestStream := true }

/-- What a control stream can raise. -/
def ControlOnly (events : List ProtocolEvent) : Prop :=
  ∀ event ∈ events, event = .h3GoawayReceived ∨ ∃ settings, event = .h3SettingsReceived settings

/-- The entry of the stream afterwards, and what came out. -/
inductive Received ( isClient : Bool) (streamId : StreamId) (fed : H3Stream) :
    Option H3Stream → Except WebTransportError Outcome → Prop
  | failed (e : WebTransportError) (names : e.NamesOnly streamId) :
      Received isClient streamId fed none (.error e)
  | dropped (request : fed.isRequestStream = false) (effects : List Effect)
      (quiet : ∀ effect ∈ effects, (∃ id data fin, effect = .sendQuicData id data fin) ∨
        ∃ errorCode, effect = .stopQuicStream streamId errorCode) :
      Received isClient streamId fed none (.ok ([], effects))
  | waiting (request : fed.isRequestStream = false) (stream : H3Stream)
      (proper : stream.Proper isClient streamId) (notRequest : stream.isRequestStream = false) :
      Received isClient streamId fed (some stream) (.ok ([], [.receiveQuicData streamId 1]))
  | opened (request : fed.isRequestStream = false) (sessionId : SessionId) :
      Received isClient streamId fed none
        (.ok ([.h3WebTransportStreamOpened sessionId streamId], []))
  | control (unidirectional : isUnidirectionalStream streamId = true) (stream : H3Stream)
      (proper : stream.Proper isClient streamId) (notRequest : stream.isRequestStream = false)
      (events : List ProtocolEvent) (only : ControlOnly events) (effects : List Effect)
      (sends : SendsOnly effects) :
      Received isClient streamId fed (some stream)
        (.ok (events, effects ++ [.receiveQuicData streamId u64Max]))
  | finished (bidirectional : isUnidirectionalStream streamId = false) (stream : H3Stream)
      (request : IsRequest isClient fed stream) (p : H3Stream × Outcome)
      (parses : Parses streamId stream p) (ended : p.1.ended = true)
      (empty : p.1.buffer = []) (effects : List Effect) (sends : SendsOnly effects) :
      Received isClient streamId fed none
        (.ok (p.2.1 ++ (if p.1.isConnectStream then [.h3ConnectStreamClosed streamId] else []),
          effects))
  | kept (bidirectional : isUnidirectionalStream streamId = false) (stream : H3Stream)
      (request : IsRequest isClient fed stream) (p : H3Stream × Outcome)
      (parses : Parses streamId stream p) (more : p.1.ended = true → p.1.buffer ≠ []) (asks : List Effect)
      (quiet : asks = [] ∨ asks = [.receiveQuicData streamId u64Max]) :
      Received isClient streamId fed (some p.1) (.ok (p.2.1, p.2.2 ++ asks))

/-- Recognising a stream sets no other field of it. -/
theorem IsRequest.same (h : IsRequest isClient fed stream) :
    stream.ended = fed.ended ∧ stream.isConnectStream = fed.isConnectStream ∧
      stream.headersProcessed = fed.headersProcessed ∧ stream.streamType = fed.streamType ∧
      stream.blocked = fed.blocked := by
  rcases h with ⟨-, rfl⟩ | ⟨-, -, -, rfl⟩ <;> exact ⟨rfl, rfl, rfl, rfl, rfl⟩

/-- Parsing a CONNECT stream leaves it one. -/
theorem Parses.isConnectStream {s : H3Stream} (h : Parses streamId s p)
    (hconnect : s.isConnectStream = true) : p.1.isConnectStream = true := by
  rcases h.raises with hon | ⟨headers, hheaders⟩
  · rw [hon.isConnectStream, hconnect]
  · rw [hheaders.isConnectStream, hconnect, Bool.true_or]

theorem Received.proper {r : Except WebTransportError Outcome} (hfed : fed.Proper isClient streamId)
    (h : Received isClient streamId fed (some stream) r) : stream.Proper isClient streamId := by
  cases h with
  | waiting _ _ proper _ | control _ _ proper _ _ _ _ _ => exact proper
  | kept bidirectional start request p parses _ _ _ =>
    obtain ⟨-, hconnect, -, htype, -⟩ := request.same
    refine ⟨parses.blocked, fun hbidi => ?_, fun _ => ⟨?_, bidirectional, fun hclient => ?_⟩⟩
    · rw [parses.streamType, htype]
      exact hfed.streamType hbidi
    · rw [parses.streamType, htype]
      rcases request with ⟨hrequest, -⟩ | ⟨-, -, hnone, -⟩
      · exact (hfed.request hrequest).1
      · exact hnone
    · rcases request with ⟨hrequest, rfl⟩ | ⟨-, hserver, -, -⟩
      · exact parses.isConnectStream ((hfed.request hrequest).2.2 hclient)
      · rw [hserver] at hclient
        cases hclient

/-! ## Bidirectional streams -/

/-- The table without the stream, and what a chunk of it comes to. -/
def ReceivedBy (h : H3 Q) (streamId : StreamId) (fed : H3Stream)
    (r : H3 Q × Except WebTransportError Outcome) : Prop :=
  Touches streamId h r.1 ∧ Received h.isClient streamId fed (r.1.streams.get? streamId) r.2

/-- A chunk starts by taking the stream out of the table. -/
theorem ReceivedBy.of_erased
    (hr : ReceivedBy { h with streams := h.streams.erase streamId } streamId fed r) :
    ReceivedBy h streamId fed r := by
  have herased : Touches streamId h { h with streams := h.streams.erase streamId } :=
    touches_erase rfl rfl
  exact ⟨herased.trans hr.1, hr.2⟩

theorem ReceivedBy.failed {e : WebTransportError} (ht : Touches streamId h h')
    (hgone : h'.streams.get? streamId = none) (hnames : e.NamesOnly streamId) :
    ReceivedBy h streamId fed (h', .error e) := by
  refine ⟨ht, ?_⟩
  rw [hgone]
  exact Received.failed e hnames

theorem awaitHeader_received (h : H3 Q) (hfed : fed.isRequestStream = false)
    (hproper : stream.Proper h.isClient streamId) (hrequest : stream.isRequestStream = false) :
    ReceivedBy h streamId fed
      ((h.awaitHeader streamId stream).1, .ok (h.awaitHeader streamId stream).2) := by
  unfold awaitHeader
  split
  · refine ⟨h.cleanupStream_touches, ?_⟩
    rw [cleanupStream_get?_self]
    exact Received.dropped hfed _ fun effect heffect =>
      Or.inl (h.cleanupStream_sends effect heffect)
  · refine ⟨touches_insert rfl rfl, ?_⟩
    rw [OrderedMap.get?_insert_self]
    exact Received.waiting hfed stream hproper hrequest

theorem parseStreamHeader_received (h : H3 Q) (hgone : h.streams.get? streamId = none)
    (hfed : fed.isRequestStream = false) (hproper : stream.Proper h.isClient streamId)
    (hrequest : stream.isRequestStream = false) :
    ReceivedBy h streamId fed (h.parseStreamHeader streamId stream) := by
  unfold parseStreamHeader
  cases readVarint stream.buffer with
  | error e => exact h.awaitHeader_received hfed hproper hrequest
  | ok header =>
    simp only
    split
    · exact .failed (.refl streamId h) hgone trivial
    · refine ⟨Touches.refl streamId h, ?_⟩
      rw [hgone]
      exact Received.opened hfed header.1

theorem finishRequestData_received (hbidi : isUnidirectionalStream streamId = false)
    (hrequest : IsRequest h.isClient fed stream) (hparses : Parses streamId stream p)
    (wasHeadersProcessed : Bool) :
    ReceivedBy h streamId fed
      ((h.finishRequestData streamId wasHeadersProcessed p.1 p.2).1,
        .ok (h.finishRequestData streamId wasHeadersProcessed p.1 p.2).2) := by
  unfold finishRequestData
  split
  · rename_i hover
    obtain ⟨hended, hempty⟩ := Bool.and_eq_true_iff.mp hover
    refine ⟨h.cleanupStream_touches, ?_⟩
    rw [cleanupStream_get?_self]
    exact Received.finished hbidi stream hrequest p hparses hended (List.isEmpty_iff.mp hempty) _
      (hparses.sends.append h.cleanupStream_sends)
  · rename_i hmore
    refine ⟨touches_insert rfl rfl, ?_⟩
    rw [OrderedMap.get?_insert_self]
    refine Received.kept hbidi stream hrequest p hparses (fun hended hempty => hmore ?_) _ ?_
    · rw [hended, hempty]
      rfl
    · split
      · exact Or.inr rfl
      · exact Or.inl rfl

/-- What the first bytes say, for a stream that is proper. -/
theorem identifyRequest_cases (h : H3 Q) (hbidi : isUnidirectionalStream streamId = false)
    (hproper : fed.Proper h.isClient streamId) :
    (h.identifyRequest fed = .incomplete ∧ fed.isRequestStream = false) ∨
    (∃ stream, h.identifyRequest fed = .webtransport stream ∧ fed.isRequestStream = false ∧
      stream.isRequestStream = false ∧ stream.Proper h.isClient streamId) ∨
    h.identifyRequest fed = .refused ∨
    ∃ stream, h.identifyRequest fed = .request stream ∧ IsRequest h.isClient fed stream := by
  unfold identifyRequest
  by_cases hrequest : fed.isRequestStream = true
  · obtain ⟨hnone, -, -⟩ := hproper.request hrequest
    right; right; right
    refine ⟨fed, ?_, Or.inl ⟨hrequest, rfl⟩⟩
    rw [hrequest, Bool.true_or, if_pos rfl, hnone]
    rfl
  · have hrequest : fed.isRequestStream = false := by simpa using hrequest
    rcases hproper.streamType hbidi with hnone | hwt
    · have hunknown : ¬(fed.isRequestStream || fed.streamType.isSome) = true := by
        rw [hrequest, hnone]
        exact Bool.false_ne_true
      rw [if_neg hunknown]
      cases readVarint fed.buffer with
      | error e => exact Or.inl ⟨rfl, hrequest⟩
      | ok header =>
        simp only
        split_ifs with hwt hclient
        · exact Or.inr (Or.inl ⟨_, rfl, hrequest, hrequest,
            H3Stream.Proper.of_not_request hproper.notBlocked (fun _ => Or.inr rfl) hrequest⟩)
        · exact Or.inr (Or.inr (Or.inl rfl))
        · have hserver : h.isClient = false := by simpa using hclient
          exact Or.inr (Or.inr (Or.inr ⟨_, rfl, Or.inr ⟨hrequest, hserver, hnone, rfl⟩⟩))
    · right; left
      refine ⟨fed, ?_, hrequest, hrequest, hproper⟩
      rw [hwt]
      simp

theorem recvRequestData_received (hQ : Q.NonBlocking) (hwf : h.TableWF)
    (hbidi : isUnidirectionalStream streamId = false) {data : Bytes} {streamEnded : Bool}
    (hr : h.recvRequestData streamId data streamEnded = some r) :
    ReceivedBy h streamId (h.feedStream streamId data streamEnded) r := by
  have hproper := hwf.feedStream streamId data streamEnded
  unfold recvRequestData at hr
  refine ReceivedBy.of_erased ?_
  have hgone : ({ h with streams := h.streams.erase streamId } : H3 Q).streams.get? streamId =
      none := OrderedMap.get?_erase_self h.streams streamId
  have hclient : ({ h with streams := h.streams.erase streamId } : H3 Q).isClient = h.isClient :=
    rfl
  rw [← hclient] at hproper
  generalize h.feedStream streamId data streamEnded = fed at hproper hr ⊢
  generalize ({ h with streams := h.streams.erase streamId } : H3 Q) = without
    at hgone hproper hr ⊢
  rcases without.identifyRequest_cases hbidi hproper with
    ⟨hkind, hrequest⟩ | ⟨stream, hkind, hfed, hrequest, hstream⟩ | hkind |
      ⟨stream, hkind, hrequest⟩
  · simp only [hkind, Option.some.injEq] at hr
    subst hr
    exact without.awaitHeader_received hrequest hproper hrequest
  · simp only [hkind, Option.some.injEq] at hr
    subst hr
    exact without.parseStreamHeader_received hgone hfed hstream hrequest
  · simp only [hkind, Option.some.injEq] at hr
    subst hr
    exact .failed (.refl streamId without) hgone trivial
  · simp only [hkind] at hr
    obtain ⟨⟨h', result⟩, hparsed, rfl⟩ := Option.map_eq_some_iff.mp hr
    obtain ⟨-, -, -, -, hblocked⟩ := hrequest.same
    obtain ⟨⟨decoder, hlayer⟩, hparses⟩ :=
      parseStreamData_parses hQ (hblocked.trans hproper.notBlocked) hparsed
    cases hlayer
    have hdecoder : Touches streamId without ({ without with decoder := decoder } : H3 Q) :=
      Touches.of_streams rfl rfl
    cases result with
    | error e => exact .failed hdecoder hgone hparses
    | ok p =>
      have hfinish := finishRequestData_received
        (h := ({ without with decoder := decoder } : H3 Q)) hbidi hrequest hparses
        stream.headersProcessed
      exact ⟨hdecoder.trans hfinish.1, hfinish.2⟩

end H3

end PyWebTransport

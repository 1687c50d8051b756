/-
PyWebTransport.Protocol.Session.StreamTrace — the events of one stream, in
order.

The application hears of a stream that it is open, that the peer has reset
or stopped it, and that it is closed. `StreamTale` is the order in which
these may come. A stream that is queued until the session is established has
no events yet (`Tale.queued`), and one that is announced has the events that
match its two sides (`Begun`): each side is reported when it ends, and a side
that is over stays over. `stream_event_trace` is the result for whole runs.
-/
import PyWebTransport.Protocol.Session.Lifecycle
import PyWebTransport.Protocol.Session.SendCredit

namespace PyWebTransport

open PyWebTransport.Lib

variable {old : Stream} {kind : EventType} {ends : List EventType}

/-! ## Events of one stream -/

/-- The kind of an event about this stream. -/
def Effect.streamEvent (streamId : StreamId) : Effect → Option EventType
  | .emitStreamEvent k eventType _ _ _ _ => if k = streamId then some eventType else none
  | _ => none

def eventsOf (streamId : StreamId) (effects : List Effect) : List EventType :=
  effects.filterMap (Effect.streamEvent streamId)

section

variable {streamId : StreamId} {effects : List Effect} {e : Effect} {k : StreamId}

@[simp] theorem eventsOf_nil : eventsOf streamId [] = [] := rfl

@[simp] theorem eventsOf_append {first second : List Effect} :
    eventsOf streamId (first ++ second) = eventsOf streamId first ++ eventsOf streamId second :=
  List.filterMap_append ..

theorem eventsOf_eq_nil (h : ∀ e ∈ effects, e.streamEvent streamId = none) :
    eventsOf streamId effects = [] :=
  List.filterMap_eq_nil_iff.mpr h

theorem streamEvent_of_not_isStreamEvent (h : e.isStreamEvent = false) :
    e.streamEvent streamId = none := by
  cases e <;> first | rfl | cases h

theorem streamEvent_of_isQuiet (h : e.isQuiet = true) : e.streamEvent streamId = none := by
  cases e <;> first | rfl | cases h

theorem streamEvent_of_refuses (h : e.refuses k = true) : e.streamEvent streamId = none := by
  cases e <;> first | rfl | cases h

theorem streamEvent_of_isOwn (h : e.isOwn k = true) (hne : k ≠ streamId) :
    e.streamEvent streamId = none := by
  cases e with
  | emitStreamEvent j eventType _ _ _ _ =>
    have hown : j = k := by
      simp only [Effect.isOwn, Bool.and_eq_true, decide_eq_true_eq] at h
      exact h.1
    rw [hown]
    exact if_neg hne
  | _ => rfl

theorem eventsOf_silent (h : Eventless k effects) (streamId : StreamId) :
    eventsOf streamId effects = [] :=
  eventsOf_eq_nil fun e he => streamEvent_of_not_isStreamEvent (h e he).2

theorem eventsOf_quiet (h : ∀ e ∈ effects, e.isQuiet = true) (streamId : StreamId) :
    eventsOf streamId effects = [] :=
  eventsOf_eq_nil fun e he => streamEvent_of_isQuiet (h e he)

end

/-! ## The order of the events -/

/-- The peer has ended one side of the stream. -/
def EventType.endsSide (kind : EventType) : Prop :=
  kind = .streamResetReceived ∨ kind = .streamStopSendingReceived

/-- Nothing, or an opened stream, the ends of its sides, each at most once,
and the end of the stream. -/
def StreamTale (events : List EventType) : Prop :=
  events = [] ∨ ∃ ends last, events = .streamOpened :: (ends ++ last) ∧ ends.Nodup ∧
    (∀ kind ∈ ends, kind.endsSide) ∧ (last = [] ∨ last = [.streamClosed])

theorem streamTale_opened : StreamTale [.streamOpened] :=
  Or.inr ⟨[], [], rfl, List.nodup_nil, (fun _ hmem => nomatch hmem), Or.inl rfl⟩

/-- Whether the side of the stream that an event is about is over. -/
def EventType.sideOver (kind : EventType) (stream : Stream) : Bool :=
  match kind with
  | .streamResetReceived => stream.isReceiveTerminated
  | .streamStopSendingReceived => stream.isSendTerminated
  | _ => false

theorem EventType.sideOver_continues {new : Stream} (hcont : Stream.Continues old new)
    (h : kind.sideOver old = true) : kind.sideOver new = true := by
  cases kind <;> first | exact hcont.receive h | exact hcont.send h | cases h

theorem EventType.endsSide_of_sideOver {stream : Stream} (h : kind.sideOver stream = true) :
    kind.endsSide := by
  cases kind <;> first | exact Or.inl rfl | exact Or.inr rfl | cases h

/-- What was reported of a stream that is open: each side once, when it
ended. -/
structure Begun (stream : Stream) (ends : List EventType) : Prop where
  nodup : ends.Nodup
  sides : ∀ kind ∈ ends, kind.sideOver stream = true

theorem begun_nil {stream : Stream} : Begun stream [] := by
  constructor <;> simp

theorem Begun.continues {new : Stream} (h : Begun old ends) (hcont : Stream.Continues old new) :
    Begun new ends :=
  ⟨h.nodup, fun kind hmem => kind.sideOver_continues hcont (h.sides kind hmem)⟩

/-- A side that ends now was not reported before. -/
theorem Begun.side {new : Stream} (h : Begun old ends) (hcont : Stream.Continues old new)
    (hbefore : kind.sideOver old = false) (hafter : kind.sideOver new = true) :
    Begun new (ends ++ [kind]) := by
  have hfresh : kind ∉ ends := by
    intro hmem
    rw [h.sides kind hmem] at hbefore
    cases hbefore
  constructor
  · rw [← List.concat_eq_append]
    exact h.nodup.concat hfresh
  · intro other hmem
    rcases List.mem_append.mp hmem with hmem | hmem
    · exact other.sideOver_continues hcont (h.sides other hmem)
    · rw [List.mem_singleton.mp hmem]
      exact hafter

theorem Begun.tale {stream : Stream} (h : Begun stream ends) {last : List EventType}
    (hlast : last = [] ∨ last = [.streamClosed]) : StreamTale (.streamOpened :: (ends ++ last)) :=
  Or.inr ⟨ends, last, rfl, h.nodup,
    fun kind hmem => kind.endsSide_of_sideOver (h.sides kind hmem), hlast⟩

/-! ## The events of a session -/

namespace Session

variable {op : SessionOp} {streamId : StreamId} {s t : Session} {k : StreamId}
  {used : List StreamId}

/-- What was said of a stream id so far, as the session stands. -/
structure Tale (streamId : StreamId) (s : Session) (events : List EventType) : Prop where
  queued : streamId ∈ s.pendingStreams → events = []
  begun : ∀ stream, s.streams.get? streamId = some stream → streamId ∉ s.pendingStreams →
    ∃ ends, events = .streamOpened :: ends ∧ Begun stream ends
  told : StreamTale events

/-- Nothing is said of the stream, and what is there continues what was
there. -/
theorem Tale.still {events : List EventType} (h : Tale streamId s events)
    (hpending : streamId ∈ t.pendingStreams → streamId ∈ s.pendingStreams)
    (hstreams : ∀ stream, t.streams.get? streamId = some stream →
      (∃ old, s.streams.get? streamId = some old ∧ Stream.Continues old stream) ∧
        (streamId ∉ t.pendingStreams → streamId ∉ s.pendingStreams)) : Tale streamId t events where
  queued hmem := h.queued (hpending hmem)
  begun stream hget hmem := by
    obtain ⟨⟨old, hold, hcont⟩, hout⟩ := hstreams stream hget
    obtain ⟨ends, hevents, hbegun⟩ := h.begun old hold (hout hmem)
    exact ⟨ends, hevents, hbegun.continues hcont⟩
  told := h.told

/-- Stream events are suppressed while a stream is queued. -/
theorem eventsOf_suppress_queued (hqueued : streamId ∈ s.pendingStreams) (effects : List Effect)
    (k : StreamId) : eventsOf k (s.suppressPendingStreamEvents streamId effects) = [] := by
  have hcontains : s.pendingStreams.contains streamId = true := by simpa using hqueued
  simp only [suppressPendingStreamEvents, hcontains, if_true]
  refine eventsOf_eq_nil fun e he => ?_
  have hkept := (List.mem_filter.mp he).2
  cases e <;> first | rfl | cases hkept

theorem suppress_announced (hannounced : streamId ∉ s.pendingStreams) (effects : List Effect) :
    s.suppressPendingStreamEvents streamId effects = effects := by
  have hcontains : s.pendingStreams.contains streamId = false := by simpa using hannounced
  simp only [suppressPendingStreamEvents, hcontains, Bool.false_eq_true, if_false]

/-- The events of a method are about its own stream. -/
theorem eventsOf_suppress_of_ne {effects : List Effect} (hown : ∀ e ∈ effects, e.isOwn k = true)
    (hne : k ≠ streamId) : eventsOf streamId (s.suppressPendingStreamEvents k effects) = [] :=
  eventsOf_eq_nil fun e he => streamEvent_of_isOwn (hown e (s.suppress_subset e he)) hne

theorem eventsOf_suppress_closed (hne : k ≠ streamId) :
    eventsOf streamId (s.suppressPendingStreamEvents k
      [.emitStreamEvent k .streamClosed none none none none]) = [] := by
  refine eventsOf_eq_nil fun e he => ?_
  rw [List.mem_singleton.mp (s.suppress_subset e he)]
  exact if_neg hne

/-- The streams of a session are kept under their own ids. -/
def Named (s : Session) : Prop := ∀ k stream, s.streams.get? k = some stream → stream.id = k

theorem Named.move {effects : List Effect} (hs : s.Named) (h : Move op s effects t) : t.Named := by
  intro k stream hget
  obtain ⟨old, hold, hcont⟩ := h.continues hget
  exact hcont.id.trans (hs _ _ hold)

theorem Named.opening {s t : Session} {effects : List Effect} (hs : s.Named)
    (h : Opening op s effects t) : t.Named := by
  intro k stream hget
  cases h with
  | bound =>
    rcases OrderedMap.get?_insert_some hget with ⟨rfl, rfl⟩ | ⟨-, hget⟩
    · rfl
    · exact hs _ _ hget
  | @admitted streamId now direction =>
    obtain ⟨_, _, hshape⟩ := s.admitted_shape
    rw [hshape] at hget
    rcases OrderedMap.get?_insert_some hget with ⟨rfl, rfl⟩ | ⟨-, hget⟩
    · rfl
    · exact hs _ _ hget
  | @turnedAway _ streamId now direction =>
    obtain ⟨_, _, _, _, hshape⟩ := s.turnedAway_shape
    rw [hshape] at hget
    exact hs _ _ hget

/-- A method of a stream: the end of a side is reported if the stream is
announced. -/
theorem Tale.method {s : Session} {events : List EventType} (h : Tale streamId s events)
    (hnamed : s.Named) {k : StreamId} {stream : Stream} (hget : s.streams.get? k = some stream)
    (call : ReceiveCall) :
    Tale streamId { s with streams := s.streams.insert k (stream.receive call).1 }
      (events ++ eventsOf streamId
        (s.suppressPendingStreamEvents k (stream.receive call).2)) := by
  have hcont := stream.continues_receive call
  have hstill : Tale streamId { s with streams := s.streams.insert k (stream.receive call).1 }
      events :=
    h.still (fun hmem => hmem) fun _ hnew => ⟨continues_of_insert hget hcont hnew, fun hmem => hmem⟩
  by_cases hk : k = streamId
  · subst hk
    by_cases hqueued : k ∈ s.pendingStreams
    · rw [eventsOf_suppress_queued hqueued, List.append_nil]
      exact hstill
    · rw [suppress_announced hqueued]
      obtain ⟨ends, hevents, hbegun⟩ := h.begun stream hget hqueued
      have hid := hnamed _ _ hget
      -- the one event of a call is the end of a side that was not over
      have hreport : ∀ kind, eventsOf k (stream.receive call).2 = [kind] →
          kind.sideOver stream = false → kind.sideOver (stream.receive call).1 = true →
          Tale k { s with streams := s.streams.insert k (stream.receive call).1 }
            (events ++ eventsOf k (stream.receive call).2) := by
        intro kind hkind hbefore hafter
        have hside := hbegun.side hcont hbefore hafter
        have hlist : events ++ eventsOf k (stream.receive call).2 =
            .streamOpened :: (ends ++ [kind]) := by
          rw [hkind, hevents]
          rfl
        rw [hlist]
        refine ⟨fun hmem => absurd hmem hqueued, ?_, ?_⟩
        · intro new hnew _
          rw [OrderedMap.get?_insert_self] at hnew
          cases hnew
          exact ⟨ends ++ [kind], rfl, hside⟩
        · simpa using hside.tale (Or.inl rfl)
      rcases stream.receive_cases with hsilent | ⟨code, rest, heq, hrest, hbefore, hafter⟩ |
        ⟨code, rest, heq, hrest, hbefore, hafter⟩
      · rw [eventsOf_silent hsilent, List.append_nil]
        exact hstill
      · refine hreport .streamResetReceived ?_ hbefore hafter
        rw [heq, ← List.singleton_append, eventsOf_append, eventsOf_silent hrest]
        simp [eventsOf, Effect.streamEvent, hid]
      · refine hreport .streamStopSendingReceived ?_ hbefore hafter
        rw [heq, ← List.singleton_append, eventsOf_append, eventsOf_silent hrest]
        simp [eventsOf, Effect.streamEvent, hid]
  · have hown : ∀ e ∈ (stream.receive call).2, e.isOwn k = true := by
      rw [← hnamed _ _ hget]
      exact stream.receive_own
    rw [eventsOf_suppress_of_ne hown hk, List.append_nil]
    exact hstill

/-- A stream that is dropped is reported as closed if it was announced. -/
theorem Tale.dropped {s : Session} {events : List EventType} (h : Tale streamId s events)
    {k : StreamId} {stream : Stream} (hget : s.streams.get? k = some stream) :
    Tale streamId (s.dropped k) (events ++ eventsOf streamId
      (s.suppressPendingStreamEvents k [.emitStreamEvent k .streamClosed none none none none])) := by
  obtain ⟨_, _, hshape⟩ := s.dropped_shape
  rw [hshape]
  by_cases hk : k = streamId
  · subst hk
    by_cases hqueued : k ∈ s.pendingStreams
    · rw [eventsOf_suppress_queued hqueued, List.append_nil, h.queued hqueued]
      exact ⟨fun _ => rfl, fun _ _ hout => absurd hqueued hout, Or.inl rfl⟩
    · rw [suppress_announced hqueued]
      obtain ⟨ends, hevents, hbegun⟩ := h.begun stream hget hqueued
      refine ⟨fun hmem => absurd hmem hqueued, ?_, ?_⟩
      · intro new hnew
        exact absurd rfl (OrderedMap.get?_erase_some hnew).1
      · have htale := hbegun.tale (Or.inr rfl)
        simpa [hevents, eventsOf, Effect.streamEvent] using htale
  · rw [eventsOf_suppress_closed hk, List.append_nil]
    refine h.still (fun hmem => hmem) fun new hnew => ⟨⟨new, ?_, .refl new⟩, fun hmem => hmem⟩
    exact (OrderedMap.get?_erase_some hnew).2

theorem eventsOf_openedEvents {streams : List StreamId} :
    eventsOf streamId (streams.map s.openedEvent) =
      List.replicate (streams.count streamId) .streamOpened := by
  induction streams with
  | nil => rfl
  | cons k rest ih =>
    rw [List.map_cons, ← List.singleton_append, eventsOf_append, ih, List.count_cons]
    by_cases hk : k = streamId
    · simp [eventsOf, Effect.streamEvent, openedEvent, hk, List.replicate_succ]
    · simp [eventsOf, Effect.streamEvent, openedEvent, hk]

/-- The queued streams that are still there are announced. -/
theorem Tale.announced {events : List EventType} (h : Tale streamId s events)
    (hnodup : s.pendingStreams.Nodup) :
    Tale streamId { s with pendingStreams := [] } (events ++ eventsOf streamId
      ((s.pendingStreams.filter s.hasStream).map s.openedEvent)) := by
  rw [eventsOf_openedEvents]
  by_cases hmem : streamId ∈ s.pendingStreams.filter s.hasStream
  · have hqueued := h.queued (List.mem_of_mem_filter hmem)
    rw [List.count_eq_one_of_mem (hnodup.filter _) hmem, hqueued]
    refine ⟨fun hmem => (nomatch hmem), ?_, streamTale_opened⟩
    exact fun stream _ _ => ⟨[], rfl, begun_nil⟩
  · rw [List.count_eq_zero.mpr hmem, List.replicate_zero, List.append_nil]
    refine h.still (fun hmem => nomatch hmem) fun stream hnew => ⟨⟨stream, hnew, .refl stream⟩, ?_⟩
    intro _ hqueued
    refine hmem (List.mem_filter.mpr ⟨hqueued, ?_⟩)
    rw [hasStream, OrderedMap.contains_eq_true]
    exact ⟨stream, hnew⟩

/-- The queue of streams that are not announced only loses entries. -/
theorem Move.pending_sublist {effects : List Effect} (h : Move op s effects t) :
    t.pendingStreams.Sublist s.pendingStreams := by
  cases h with
  | calm core => rw [core.pendingStreams]
  | grantStreams uni => cases uni <;> exact .refl _
  | dataBlocked core | streamsBlocked core | accepted headers data requestId server waiting core
  | confirmed data named waiting core => rw [core.pendingStreams]
  | @dropped streamId =>
    obtain ⟨_, _, hshape⟩ := s.dropped_shape
    rw [hshape]
  | @written streamId stream result =>
    obtain ⟨_, _, hshape⟩ := s.written_shape result
    rw [hshape]
  | maxDataRaised limit =>
    obtain ⟨_, _, _, _, hshape⟩ := s.maxDataRaised_shape
    rw [hshape]
  | announced => exact List.nil_sublist _
  | cleared gone empty core =>
    rw [core.pendingStreams]
    exact List.nil_sublist _
  | _ => exact .refl _

theorem eventsOf_rounds {effects : List Effect} (h : Chain Round s effects t) :
    eventsOf streamId effects = [] := by
  induction h with
  | refl s => rfl
  | head round _ ih =>
    rw [eventsOf_append, ih, List.append_nil]
    cases round with
    | putBack | stale => rfl
    | flush queue credit present =>
      rw [effects_flushBlockedStream]
      exact eventsOf_silent (Stream.silent_flushWrites _ _) streamId

/-- The moves as far as they are told to the application: the ones that are
not, and three that are. -/
inductive Telling : Session → List Effect → Session → Prop where
  | silent {s t : Session} {effects : List Effect} (events : ∀ k, eventsOf k effects = [])
      (pending : ∀ {k stream}, t.streams.get? k = some stream →
        t.pendingStreams = s.pendingStreams) : Telling s effects t
  | method {s : Session} {streamId : StreamId} {stream : Stream} (call : ReceiveCall)
      (present : s.streams.get? streamId = some stream) :
      Telling s (s.suppressPendingStreamEvents streamId (stream.receive call).2)
        { s with streams := s.streams.insert streamId (stream.receive call).1 }
  | dropped {s : Session} {streamId : StreamId} {stream : Stream}
      (present : s.streams.get? streamId = some stream) :
      Telling s (s.suppressPendingStreamEvents streamId
        [.emitStreamEvent streamId .streamClosed none none none none]) (s.dropped streamId)
  | announced {s : Session} :
      Telling s ((s.pendingStreams.filter s.hasStream).map s.openedEvent)
        { s with pendingStreams := [] }

theorem Move.telling {effects : List Effect} (h : Move op s effects t) : Telling s effects t := by
  cases h with
  | calm core quiet => exact .silent (eventsOf_quiet quiet) fun _ => core.pendingStreams
  | refuse k named refusal =>
    exact .silent (fun _ => eventsOf_eq_nil fun e he => streamEvent_of_refuses (refusal e he))
      fun _ => rfl
  | grantStreams uni => exact .silent (fun _ => rfl) fun _ => by cases uni <;> rfl
  | dataBlocked core | streamsBlocked core =>
    exact .silent (fun _ => rfl) fun _ => core.pendingStreams
  | accepted headers data requestId server waiting core | confirmed data named waiting core =>
    exact .silent (fun _ => rfl) fun _ => core.pendingStreams
  | drained capsules established capsule =>
    refine .silent (fun _ => ?_) fun _ => rfl
    rcases capsule with rfl | rfl <;> rfl
  | method call present plain => exact .method call present
  | dropped present gone => exact .dropped present
  | @written k stream result present named method =>
    obtain ⟨_, _, hshape⟩ := s.written_shape result
    refine .silent (fun j => ?_) fun _ => by rw [hshape]
    rcases method with rfl | ⟨requestId, data, endStream, rfl⟩
    · exact eventsOf_silent stream.silent_completeWrite j
    · exact eventsOf_silent stream.silent_write j
  | maxDataRaised limit =>
    obtain ⟨_, _, _, _, hshape⟩ := s.maxDataRaised_shape
    exact .silent (fun _ => eventsOf_rounds (s.rounds_maxDataRaised limit))
      fun _ => by rw [hshape]
  | announced established => exact .announced
  | cleared gone empty core quiet =>
    refine .silent (eventsOf_quiet quiet) fun hget => ?_
    rw [core.streams] at hget
    exact nomatch (empty _).symm.trans hget
  | _ => exact .silent (fun _ => rfl) fun _ => rfl

theorem Tale.move {effects : List Effect} {events : List EventType} (h : Tale streamId s events)
    (hnamed : s.Named) (hnodup : s.pendingStreams.Nodup) (hmove : Move op s effects t) :
    Tale streamId t (events ++ eventsOf streamId effects) := by
  have hcont : ∀ stream, t.streams.get? streamId = some stream →
      ∃ old, s.streams.get? streamId = some old ∧ Stream.Continues old stream :=
    fun _ hget => hmove.continues hget
  have hsublist := hmove.pending_sublist
  cases hmove.telling with
  | silent hevents hpending =>
    rw [hevents, List.append_nil]
    refine h.still (fun hmem => hsublist.subset hmem) fun stream hget => ⟨hcont stream hget, ?_⟩
    rw [hpending hget]
    exact fun hmem => hmem
  | method call present => exact h.method hnamed present call
  | dropped present => exact h.dropped present
  | announced => exact h.announced hnodup

/-- Nothing is said of a stream that is not there. -/
theorem Move.events_absent {effects : List Effect} (h : Move op s effects t) (hnamed : s.Named)
    (habsent : s.streams.get? streamId = none) : eventsOf streamId effects = [] := by
  have hne : ∀ {k stream}, s.streams.get? k = some stream → k ≠ streamId := by
    rintro k stream hget rfl
    rw [habsent] at hget
    cases hget
  cases h.telling with
  | silent hevents => exact hevents streamId
  | @method k stream call present =>
    refine eventsOf_suppress_of_ne (fun e he => ?_) (hne present)
    rw [← hnamed _ _ present]
    exact stream.receive_own e he
  | dropped present => exact eventsOf_suppress_closed (hne present)
  | announced =>
    rw [eventsOf_openedEvents, List.count_eq_zero.mpr, List.replicate_zero]
    intro hmem
    have hhas := (List.mem_filter.mp hmem).2
    rw [hasStream, OrderedMap.contains_eq_true] at hhas
    obtain ⟨stream, hget⟩ := hhas
    exact hne hget rfl

/-- Other streams are where they were. -/
theorem Opening.others {effects : List Effect} (h : Opening op s effects t)
    (hadds : streamId ∉ op.adds) :
    (streamId ∈ t.pendingStreams ↔ streamId ∈ s.pendingStreams) ∧
      t.streams.get? streamId = s.streams.get? streamId := by
  cases h with
  | bound k requestId uni now named =>
    have hk : k ≠ streamId := by
      rintro rfl
      exact hadds (by simp [named, SessionOp.adds])
    exact ⟨Iff.rfl, OrderedMap.get?_insert_of_ne _ _ hk⟩
  | @admitted k now direction named =>
    have hk : k ≠ streamId := by
      rintro rfl
      exact hadds (by simp [named, SessionOp.adds])
    obtain ⟨_, _, hshape⟩ := s.admitted_shape
    rw [hshape]
    refine ⟨?_, OrderedMap.get?_insert_of_ne _ _ hk⟩
    change streamId ∈ (if s.state = .connecting then _ else _) ↔ _
    split
    · simp [Ne.symm hk]
    · rfl
  | @turnedAway _ k now direction =>
    obtain ⟨_, _, _, _, hshape⟩ := s.turnedAway_shape
    rw [hshape]
    exact ⟨Iff.rfl, rfl⟩

/-- What is said when a stream is added: that it is open, or nothing. -/
theorem Opening.events {effects : List Effect} (h : Opening op s effects t) (streamId : StreamId) :
    eventsOf streamId effects = [] ∨
      streamId ∈ op.adds ∧ eventsOf streamId effects = [.streamOpened] := by
  cases h with
  | bound k requestId uni now named =>
    by_cases hk : k = streamId
    · exact Or.inr ⟨by simp [named, SessionOp.adds, hk], by simp [eventsOf, Effect.streamEvent, hk]⟩
    · exact Or.inl (by simp [eventsOf, Effect.streamEvent, hk])
  | @admitted k now direction named =>
    split
    · exact Or.inl rfl
    · by_cases hk : k = streamId
      · exact Or.inr ⟨by simp [named, SessionOp.adds, hk],
          by simp [eventsOf, Effect.streamEvent, hk]⟩
      · exact Or.inl (by simp [eventsOf, Effect.streamEvent, hk])
  | turnedAway named waiting directed incoming within refusal =>
    exact Or.inl (eventsOf_eq_nil fun e he => streamEvent_of_refuses (refusal e he))

/-- A stream id that is added was not heard of before; it is announced or
queued. -/
theorem Tale.opening {s t : Session} {effects : List Effect} {events : List EventType}
    (h : Tale streamId s events) (hfirst : Opening op s effects t)
    (hfresh : streamId ∈ op.adds → events = [] ∧ streamId ∉ s.pendingStreams) :
    Tale streamId t (events ++ eventsOf streamId effects) := by
  by_cases hadds : streamId ∈ op.adds
  · obtain ⟨rfl, hout⟩ := hfresh hadds
    rw [List.nil_append]
    cases hfirst with
    | bound k requestId uni now named opened =>
      have hk : streamId = k := by simpa [named, SessionOp.adds] using hadds
      have hevents : eventsOf streamId [.emitStreamEvent k .streamOpened (some s.id)
          (some (if uni then .sendOnly else .bidirectional)) (some false) none,
          .notifyRequestDone requestId (.streamId k)] = [.streamOpened] := by
        simp [eventsOf, Effect.streamEvent, hk]
      rw [hevents]
      exact ⟨fun hmem => absurd hmem hout, fun _ _ _ => ⟨[], rfl, begun_nil⟩, streamTale_opened⟩
    | @admitted k now direction named opened =>
      have hk : streamId = k := by simpa [named, SessionOp.adds] using hadds
      obtain ⟨_, _, hshape⟩ := s.admitted_shape
      rw [hshape]
      by_cases hearly : s.state = .connecting
      · simp only [hearly, if_true, eventsOf_nil]
        refine ⟨fun _ => rfl, fun _ _ hnot => absurd ?_ hnot, Or.inl rfl⟩
        exact List.mem_append_right _ (by simp [hk])
      · have hevents : eventsOf streamId [.emitStreamEvent k .streamOpened (some s.id)
            (some direction) (some true) none] = [.streamOpened] := by
          simp [eventsOf, Effect.streamEvent, hk]
        simp only [hearly, if_false, hevents]
        exact ⟨fun hmem => absurd hmem hout, fun _ _ _ => ⟨[], rfl, begun_nil⟩,
          streamTale_opened⟩
    | @turnedAway _ k now direction named waiting directed incoming within refusal =>
      rw [eventsOf_eq_nil fun e he => streamEvent_of_refuses (refusal e he)]
      obtain ⟨_, _, _, _, hshape⟩ := s.turnedAway_shape
      rw [hshape]
      exact h.still (fun hm => hm) fun stream hget => ⟨⟨stream, hget, .refl stream⟩, fun hm => hm⟩
  · rcases hfirst.events streamId with hnone | ⟨hmem, -⟩
    · rw [hnone, List.append_nil]
      obtain ⟨hpending, hstreams⟩ := hfirst.others hadds
      exact h.still hpending.mp fun stream hget =>
        ⟨⟨stream, hstreams ▸ hget, .refl stream⟩, mt hpending.mpr⟩
    · exact absurd hmem hadds

theorem Farewell.events {last answers : List Effect} (h : Farewell op s last)
    (hquiet : ∀ e ∈ answers, e.isQuiet = true) (data : SessionEventData) (streamId : StreamId) :
    eventsOf streamId (last ++ .emitSessionEvent s.id .sessionClosed data :: answers) = [] := by
  have hlast : eventsOf streamId last = [] := by
    cases h with
    | close named hlast => rcases hlast with rfl | ⟨_, _, rfl⟩ <;> rfl
    | _ => rfl
  rw [eventsOf_append, hlast, List.nil_append]
  exact eventsOf_quiet hquiet streamId

/-- What was said of all streams so far, if `used` are the ids the session
was given. -/
structure Annals (used : List StreamId) (s : Session) (history : List Effect) : Prop where
  within : s.Within used
  named : s.Named
  nodup : s.pendingStreams.Nodup
  unused : ∀ k, k ∉ used → eventsOf k history = []
  tales : ∀ k, s.Tale k (eventsOf k history)

theorem Annals.absent {history : List Effect} (h : Annals used s history) (hk : k ∉ used) :
    s.streams.get? k = none := by
  cases hget : s.streams.get? k with
  | none => rfl
  | some stream => exact absurd (h.within.streams hget) hk

theorem Annals.move {history effects : List Effect} (h : Annals used s history)
    (hmove : Move op s effects t) : Annals used t (history ++ effects) where
  within := h.within.move hmove
  named := h.named.move hmove
  nodup := h.nodup.sublist hmove.pending_sublist
  unused k hk := by
    rw [eventsOf_append, h.unused k hk, hmove.events_absent h.named (h.absent hk)]
    rfl
  tales k := by
    rw [eventsOf_append]
    exact (h.tales k).move h.named h.nodup hmove

theorem Annals.opening {used : List StreamId} {s t : Session} {history effects : List Effect}
    (h : Annals used s history) (hfirst : Opening op s effects t)
    (hfresh : ∀ k ∈ op.adds, k ∉ used) : Annals (op.adds ++ used) t (history ++ effects) where
  within := (h.within.weaken fun _ hk => List.mem_append_right _ hk).opening hfirst
    fun _ hk => List.mem_append_left _ hk
  named := h.named.opening hfirst
  nodup := by
    cases hfirst with
    | bound => exact h.nodup
    | @admitted k now direction named =>
      obtain ⟨_, _, hshape⟩ := s.admitted_shape
      rw [hshape]
      change (if s.state = .connecting then _ else _ : List StreamId).Nodup
      split
      · rw [← List.concat_eq_append]
        exact h.nodup.concat fun hmem =>
          hfresh k (by simp [named, SessionOp.adds]) (h.within.pending k hmem)
      · exact h.nodup
    | @turnedAway _ k now direction =>
      obtain ⟨_, _, _, _, hshape⟩ := s.turnedAway_shape
      rw [hshape]
      exact h.nodup
  unused k hk := by
    rw [List.mem_append, not_or] at hk
    rw [eventsOf_append, h.unused k hk.2, List.nil_append]
    rcases hfirst.events k with hnone | ⟨hmem, -⟩
    · exact hnone
    · exact absurd hmem hk.1
  tales k := by
    rw [eventsOf_append]
    refine (h.tales k).opening hfirst fun hmem => ?_
    exact ⟨h.unused k (hfresh k hmem), fun hqueued => hfresh k hmem (h.within.pending k hqueued)⟩

/-- Effects without stream events change nothing, nor does a field that no
stream depends on. -/
theorem Annals.quiet {history effects : List Effect} (h : Annals used s history)
    (hevents : ∀ k, eventsOf k effects = []) (hstreams : t.streams = s.streams)
    (hpending : t.pendingStreams = s.pendingStreams)
    (hqueue : t.blockedStreamsQueue = s.blockedStreamsQueue)
    (hblocked : t.blockedStreams = s.blockedStreams) : Annals used t (history ++ effects) where
  within := ⟨fun hget => h.within.streams (hstreams ▸ hget), hqueue ▸ h.within.queue,
    hblocked ▸ h.within.blocked, hpending ▸ h.within.pending⟩
  named _ _ hget := h.named _ _ (hstreams ▸ hget)
  nodup := hpending ▸ h.nodup
  unused k hk := by rw [eventsOf_append, h.unused k hk, hevents k]; rfl
  tales k := by
    rw [eventsOf_append, hevents k, List.append_nil]
    refine (h.tales k).still (fun hmem => hpending ▸ hmem) fun stream hget => ⟨⟨stream, ?_, .refl _⟩, ?_⟩
    · rwa [hstreams] at hget
    · rw [hpending]
      exact fun hmem => hmem

theorem Annals.outcome {history effects : List Effect} (h : Annals used s history)
    (houtcome : Outcome op s effects t) (hfresh : ∀ k ∈ op.adds, k ∉ used) :
    Annals (op.adds ++ used) t (history ++ effects) := by
  have hwide : Annals (op.adds ++ used) s history :=
    ⟨h.within.weaken fun _ hk => List.mem_append_right _ hk, h.named, h.nodup,
      fun k hk => h.unused k fun hmem => hk (List.mem_append_right _ hmem), h.tales⟩
  refine houtcome.carries history ?_ ?_ ?_ ?_ ?_ hwide
  · exact fun _ _ _ _ hmove hu => hu.move hmove
  · exact fun _ _ hfirst => h.opening hfirst hfresh
  · intro u closeCode closeReason closedAt state told _ _ hu
    have hmarked : Annals _ (u.marked closeCode closeReason closedAt state) (told ++ []) :=
      hu.quiet (fun _ => rfl) rfl rfl rfl rfl
    rwa [List.append_nil] at hmarked
  · exact fun _ _ data _ _ _ hlast hquiet hu =>
      hu.quiet (hlast.events hquiet data) rfl rfl rfl rfl
  · exact hwide.quiet (fun _ => rfl) rfl rfl rfl rfl

end Session

/-! ## Whole runs -/

namespace Life

/-- What holds of a session and its events along a run. -/
structure Reported (w : Life) : Prop where
  settled : w.session.Settled
  annals : w.session.Annals w.used w.trace

theorem Reported.step {w : Life} (h : w.Reported) {op : SessionOp} (hop : w.GivesFresh op) :
    (w.step op).Reported where
  settled := (Session.evolves_exec w.session op).settled h.settled
  annals := h.annals.outcome (Session.exec_outcome w.session h.settled op) hop

theorem Reported.of_run {w w' : Life} (h : w.Reported)
    (hrun : Relation.ReflTransGen (Step GivesFresh) w w') : w'.Reported :=
  run_invariant (fun _ _ hw hop => hw.step hop) h hrun

end Life

end PyWebTransport

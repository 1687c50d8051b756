/-
PyWebTransport.Protocol.Session.Lives — runs of a session with the effects
they have, and what holds of the streams in all of them.

A `Life` is a session with the stream ids it was given and all its effects.
`Life.Step ok` is one call that meets the condition `ok`: each result about
runs says what its callers promise there and nothing else. Every stream of a
session is kept under its own id and continues, from one move to the next,
the stream that was there before.
-/
import PyWebTransport.Protocol.Session.Courses

namespace PyWebTransport

open PyWebTransport.Lib

/-! ## Lives -/

structure Life where
  session : Session
  used : List StreamId
  trace : List Effect

namespace Life

def start (session : Session) : Life where
  session := session
  used := []
  trace := []

def step (w : Life) (op : SessionOp) : Life where
  session := (w.session.exec op).1
  used := op.adds ++ w.used
  trace := w.trace ++ (w.session.exec op).2

/-- A call that meets a condition. -/
def Step (ok : Life → SessionOp → Prop) (w w' : Life) : Prop := ∃ op, ok w op ∧ w' = w.step op

/-- A property that every call keeps holds along every run. -/
theorem run_invariant {ok : Life → SessionOp → Prop} {P : Life → Prop}
    (hstep : ∀ w op, P w → ok w op → P (w.step op)) {w w' : Life} (hw : P w)
    (hrun : Relation.ReflTransGen (Step ok) w w') : P w' := by
  induction hrun with
  | refl => exact hw
  | tail _ hlast ih =>
    obtain ⟨op, hok, rfl⟩ := hlast
    exact hstep _ op ih hok

end Life

namespace Session

variable {op : SessionOp} {s t : Session} {streamId k : StreamId} {stream : Stream}
  {effects : List Effect}

variable {id : SessionId} {path : String} {headers : Headers} {client : Bool}
  {parameters : SessionParameters} {createdAt : Timestamp}

/-! ## Whole calls -/

/-- What moves keep, of the session and what it did so far, a call keeps if
the mark of a closed session, its last words and a late reset keep it. -/
theorem Outcome.carries {P : Session → List Effect → Prop} (history : List Effect)
    (hmove : ∀ s effects t history, Move op s effects t → P s history → P t (history ++ effects))
    (hopening : ∀ effects t, Opening op s effects t → P t (history ++ effects))
    (hmarked : ∀ s closeCode closeReason closedAt state history, s.isOpen = true →
      (state = .closed ∨ state = .closing) → P s history →
      P (s.marked closeCode closeReason closedAt state) history)
    (hlast : ∀ s last data answers t history, Farewell op s last →
      (∀ e ∈ answers, e.isQuiet = true) → P t history →
      P t (history ++ (last ++ .emitSessionEvent s.id .sessionClosed data :: answers)))
    (hlate : P s (history ++ [.resetQuicStream s.id errH3MessageError]))
    (h : Outcome op s effects t) (hs : P s history) : P t (history ++ effects) := by
  cases h with
  | course course =>
    cases course with
    | stays moves => exact moves.carries hmove history hs
    | ends moves ending =>
      have hmid := moves.carries hmove history hs
      obtain @⟨_, torn, last, answers, closeCode, closeReason, closedAt, state, data, opened,
        gone, torn_moves, farewell, quiet⟩ := ending
      have htorn := torn_moves.carries hmove _
        (hmarked _ closeCode closeReason closedAt state _ opened gone hmid)
      have hfarewell := hlast _ _ data _ _ _ farewell quiet htorn
      rw [List.append_assoc, List.append_assoc] at hfarewell
      exact hfarewell
  | late gone => exact hlate
  | opening first moves =>
    rw [← List.append_assoc]
    exact moves.carries hmove _ (hopening _ _ first)

/-- The same for a property of the session alone. -/
theorem Outcome.keeps {P : Session → Prop}
    (hmove : ∀ s effects t, Move op s effects t → P s → P t)
    (hopening : ∀ effects t, Opening op s effects t → P t)
    (hmarked : ∀ s closeCode closeReason closedAt state, P s →
      P (s.marked closeCode closeReason closedAt state)) (h : Outcome op s effects t) (hs : P s) : P t :=
  h.carries (P := fun u _ => P u) [] (fun _ _ _ _ move hu => hmove _ _ _ move hu)
    (fun _ _ first => hopening _ _ first) (fun _ _ _ _ _ _ _ _ hu => hmarked _ _ _ _ _ hu)
    (fun _ _ _ _ _ _ _ _ hu => hu) hs hs

theorem suppress_subset (s : Session) :
    ∀ e ∈ s.suppressPendingStreamEvents streamId effects, e ∈ effects := by
  intro e he
  unfold suppressPendingStreamEvents at he
  split at he
  · exact List.mem_of_mem_filter he
  · exact he

/-! ## Rounds of the flush -/

/-- The session with the front of its queue of blocked streams taken off. -/
def popped (s : Session) (streamId : StreamId) (rest : List StreamId) : Session :=
  { s with
    blockedStreamsQueue := rest
    blockedStreams := s.blockedStreams.erase streamId }

/-- One round of the loop that flushes blocked writes. -/
inductive Round : Session → List Effect → Session → Prop where
  | putBack {s : Session} {streamId : StreamId} {rest : List StreamId}
      (queue : s.blockedStreamsQueue = streamId :: rest) (spent : s.sessionCredit = 0) :
      Round s [] { s with blockedStreams := insert streamId s.blockedStreams }
  | stale {s : Session} {streamId : StreamId} {rest : List StreamId}
      (queue : s.blockedStreamsQueue = streamId :: rest)
      (absent : s.streams.get? streamId = none) : Round s [] (s.popped streamId rest)
  | flush {s : Session} {streamId : StreamId} {rest : List StreamId} {stream : Stream}
      (queue : s.blockedStreamsQueue = streamId :: rest) (credit : s.sessionCredit ≠ 0)
      (present : s.streams.get? streamId = some stream) :
      Round s ((s.popped streamId rest).flushBlockedStream streamId stream).2
        ((s.popped streamId rest).flushBlockedStream streamId stream).1

theorem rounds_flushBlockedWritesLoop : ∀ (count : Nat) (s : Session),
    Chain Round s (flushBlockedWritesLoop count s).2 (flushBlockedWritesLoop count s).1
  | 0, s => .refl s
  | count + 1, s => by
      simp only [flushBlockedWritesLoop]
      split
      · exact .refl s
      · rename_i streamId rest hqueue
        split
        · rename_i hspent
          have hback : { s with
              blockedStreamsQueue := streamId :: rest
              blockedStreams := insert streamId (s.blockedStreams.erase streamId) } =
                { s with blockedStreams := insert streamId s.blockedStreams } := by
            have hset : insert streamId (s.blockedStreams.erase streamId) =
                insert streamId s.blockedStreams := by
              ext k
              by_cases hk : k = streamId <;> simp [hk]
            rw [hset, ← hqueue]
          rw [hback]
          exact .single (.putBack hqueue hspent)
        · rename_i hcredit
          split
          · rename_i habsent
            have hrest := Chain.head (Round.stale hqueue habsent)
              (rounds_flushBlockedWritesLoop count _)
            exact hrest
          · rename_i stream hpresent
            exact Chain.head (Round.flush hqueue hcredit hpresent)
              (rounds_flushBlockedWritesLoop count _)

/-- A raised limit is followed by rounds of the flush. -/
theorem rounds_maxDataRaised (s : Session) (limit : Nat) :
    Chain Round { s with peerMaxData := limit } (s.maxDataRaised limit).2
      (s.maxDataRaised limit).1 := by
  unfold maxDataRaised
  dsimp only
  split
  · exact .refl _
  · exact rounds_flushBlockedWritesLoop _ _

theorem streams_flushBlockedStream :
    (s.flushBlockedStream streamId stream).1.streams =
      s.streams.insert streamId (stream.flushWrites s.sessionCredit).1 := by
  simp only [flushBlockedStream]
  split <;> rfl

theorem effects_flushBlockedStream :
    (s.flushBlockedStream streamId stream).2 = (stream.flushWrites s.sessionCredit).2.1 := by
  simp only [flushBlockedStream]
  split <;> rfl

/-! ## Streams across moves -/

/-- A table in which one stream was replaced by one that continues it. -/
theorem continues_of_insert {streams : OrderedMap StreamId Stream} {old new : Stream}
    (hold : streams.get? streamId = some old) (hcont : Stream.Continues old new)
    (hget : (streams.insert streamId new).get? k = some stream) :
    ∃ before, streams.get? k = some before ∧ Stream.Continues before stream := by
  rcases OrderedMap.get?_insert_some hget with ⟨rfl, rfl⟩ | ⟨-, hget⟩
  · exact ⟨old, hold, hcont⟩
  · exact ⟨stream, hget, .refl stream⟩

theorem Round.continues (h : Round s effects t) (hget : t.streams.get? k = some stream) :
    ∃ old, s.streams.get? k = some old ∧ Stream.Continues old stream := by
  cases h with
  | putBack | stale => exact ⟨stream, hget, .refl stream⟩
  | flush queue credit present =>
    rw [streams_flushBlockedStream] at hget
    exact continues_of_insert present (Stream.continues_flushWrites _ _) hget

theorem continues_rounds (h : Chain Round s effects t) (hget : t.streams.get? k = some stream) :
    ∃ old, s.streams.get? k = some old ∧ Stream.Continues old stream := by
  induction h generalizing stream with
  | refl s => exact ⟨stream, hget, .refl stream⟩
  | head round _ ih =>
    obtain ⟨mid, hmid, hlater⟩ := ih hget
    obtain ⟨old, hold, hearlier⟩ := round.continues hmid
    exact ⟨old, hold, hearlier.trans hlater⟩

/-- Every stream after a move continues a stream before it. -/
theorem Move.continues (h : Move op s effects t) (hget : t.streams.get? k = some stream) :
    ∃ old, s.streams.get? k = some old ∧ Stream.Continues old stream := by
  cases h with
  | calm core => exact ⟨stream, core.streams ▸ hget, .refl stream⟩
  | grantStreams uni => cases uni <;> exact ⟨stream, hget, .refl stream⟩
  | dataBlocked core | streamsBlocked core => exact ⟨stream, core.streams ▸ hget, .refl stream⟩
  | accepted headers data requestId server waiting core =>
    exact ⟨stream, core.streams ▸ hget, .refl stream⟩
  | confirmed data named waiting core => exact ⟨stream, core.streams ▸ hget, .refl stream⟩
  | method call present plain =>
    exact continues_of_insert present (Stream.continues_receive _ call) hget
  | @dropped streamId =>
    obtain ⟨_, _, hshape⟩ := s.dropped_shape
    rw [hshape] at hget
    exact ⟨stream, (OrderedMap.get?_erase_some hget).2, .refl stream⟩
  | @written streamId old result present named method =>
    obtain ⟨_, _, hshape⟩ := s.written_shape result
    rw [hshape] at hget
    refine continues_of_insert present ?_ hget
    rcases method with rfl | ⟨_, _, _, rfl⟩
    · exact old.continues_completeWrite
    · exact old.continues_write
  | maxDataRaised limit =>
    have hcont := continues_rounds (s.rounds_maxDataRaised limit) hget
    exact hcont
  | cleared gone empty core => exact ⟨stream, core.streams ▸ hget, .refl stream⟩
  | _ => exact ⟨stream, hget, .refl stream⟩

/-- The streams of a session are kept under their own ids, none of which is
the id of the CONNECT stream. -/
structure Keyed (s : Session) : Prop where
  id : ∀ {k stream}, s.streams.get? k = some stream → stream.id = k
  apart : ∀ {k stream}, s.streams.get? k = some stream → k ≠ s.id

theorem Keyed.move (hs : s.Keyed) (h : Move op s effects t) : t.Keyed where
  id hget := by
    obtain ⟨old, hold, hcont⟩ := h.continues hget
    exact hcont.id.trans (hs.id hold)
  apart hget := by
    obtain ⟨old, hold, -⟩ := h.continues hget
    rw [h.forward.1.id]
    exact hs.apart hold

theorem Keyed.moves (hs : s.Keyed) (h : Chain (Move op) s effects t) : t.Keyed :=
  h.keeps (fun _ _ _ hmove hkeyed => hkeyed.move hmove) hs

theorem Round.id_eq (h : Round s effects t) : t.id = s.id := by
  cases h with
  | putBack | stale => rfl
  | @flush streamId rest stream =>
    obtain ⟨_, _, _, _, hshape⟩ := (s.popped streamId rest).flushBlockedStream_shape
    rw [hshape]
    rfl

theorem Keyed.round (hs : s.Keyed) (h : Round s effects t) : t.Keyed where
  id hget := by
    obtain ⟨old, hold, hcont⟩ := h.continues hget
    exact hcont.id.trans (hs.id hold)
  apart hget := by
    obtain ⟨old, hold, -⟩ := h.continues hget
    rw [h.id_eq]
    exact hs.apart hold

theorem Keyed.opening {s t : Session} {effects : List Effect} (hs : s.Keyed)
    (h : Opening op s effects t) (hadds : ∀ k ∈ op.adds, k ≠ s.id) : t.Keyed := by
  have hinsert : ∀ {streamId : StreamId} {new : Stream} {u : Session}, streamId ≠ s.id →
      new.id = streamId → u.id = s.id → u.streams = s.streams.insert streamId new → u.Keyed := by
    intro streamId new u hne hid huid hstreams
    constructor
    · intro k stream hget
      rw [hstreams] at hget
      rcases OrderedMap.get?_insert_some hget with ⟨rfl, rfl⟩ | ⟨-, hget⟩
      · exact hid
      · exact hs.id hget
    · intro k stream hget
      rw [hstreams] at hget
      rw [huid]
      rcases OrderedMap.get?_insert_some hget with ⟨rfl, -⟩ | ⟨-, hget⟩
      · exact hne
      · exact hs.apart hget
  cases h with
  | bound streamId requestId uni now named =>
    exact hinsert (hadds streamId (by simp [named, SessionOp.adds])) rfl rfl rfl
  | @admitted streamId now direction named =>
    obtain ⟨_, _, hshape⟩ := s.admitted_shape
    rw [hshape]
    exact hinsert (hadds streamId (by simp [named, SessionOp.adds])) rfl rfl rfl
  | @turnedAway _ streamId now direction =>
    obtain ⟨_, _, _, _, hshape⟩ := s.turnedAway_shape
    rw [hshape]
    exact ⟨fun hget => hs.id hget, fun hget => hs.apart hget⟩

theorem Keyed.marked (hs : s.Keyed) {closeCode : Option ErrorCode} {closeReason : Option String}
    {closedAt : Option Timestamp} {state : SessionState} :
    (s.marked closeCode closeReason closedAt state).Keyed :=
  ⟨fun hget => hs.id hget, fun hget => hs.apart hget⟩

theorem Keyed.ending (hs : s.Keyed) (h : Ending op s effects t) : t.Keyed := by
  obtain ⟨_, _, _, _, _, _, _, moves, _, _⟩ := h
  exact hs.marked.moves moves

theorem Keyed.outcome (hs : s.Keyed) (h : Outcome op s effects t)
    (hadds : ∀ k ∈ op.adds, k ≠ s.id) : t.Keyed := by
  have hkept := h.keeps (P := fun u => u.id = s.id ∧ u.Keyed)
    (fun _ _ _ hmove ⟨hid, hu⟩ => ⟨hmove.forward.1.id.trans hid, hu.move hmove⟩)
    (fun _ _ hfirst => ⟨hfirst.forward.1.id, hs.opening hfirst hadds⟩)
    (fun _ _ _ _ _ ⟨hid, hu⟩ => ⟨hid, hu.marked⟩) ⟨rfl, hs⟩
  exact hkept.2

theorem keyed_new (protocols : Option (List String)) :
    (Session.new id path headers protocols client parameters createdAt).Keyed :=
  ⟨(fun hget => nomatch hget), (fun hget => nomatch hget)⟩

/-! ## Stream ids -/

/-- Every stream id a session knows was given to it. -/
structure Within (used : List StreamId) (s : Session) : Prop where
  streams : ∀ {k stream}, s.streams.get? k = some stream → k ∈ used
  queue : ∀ k ∈ s.blockedStreamsQueue, k ∈ used
  blocked : ∀ k ∈ s.blockedStreams, k ∈ used
  pending : ∀ k ∈ s.pendingStreams, k ∈ used

variable {used : List StreamId}

section

variable (hs : s.Within used)
include hs

theorem Within.core (core : SameCore s t) : t.Within used where
  streams hget := hs.streams (core.streams ▸ hget)
  queue := core.blockedStreamsQueue ▸ hs.queue
  blocked := core.blockedStreams ▸ hs.blocked
  pending := core.pendingStreams ▸ hs.pending

theorem Within.insert (hused : streamId ∈ used) (stream : Stream) :
    Within used { s with streams := s.streams.insert streamId stream } where
  streams hget := by
    rcases OrderedMap.get?_insert_some hget with ⟨rfl, -⟩ | ⟨-, hget⟩
    · exact hused
    · exact hs.streams hget
  queue := hs.queue
  blocked := hs.blocked
  pending := hs.pending

/-- A stream that is put into the set and the queue was given before. -/
theorem Within.queued (hused : streamId ∈ used) :
    Within used { s with
      blockedStreams := Insert.insert streamId s.blockedStreams
      blockedStreamsQueue := s.blockedStreamsQueue ++ [streamId] } where
  streams := hs.streams
  queue k hk := by
    rcases List.mem_append.mp hk with hk | hk
    · exact hs.queue k hk
    · rw [List.mem_singleton.mp hk]
      exact hused
  blocked k hk := by
    rcases Finset.mem_insert.mp hk with rfl | hk
    · exact hused
    · exact hs.blocked k hk
  pending := hs.pending

theorem Within.popped {rest : List StreamId}
    (hqueue : s.blockedStreamsQueue = streamId :: rest) : (s.popped streamId rest).Within used where
  streams := hs.streams
  queue k hk := hs.queue k (by rw [hqueue]; exact List.mem_cons_of_mem _ hk)
  blocked k hk := hs.blocked k (Finset.mem_of_mem_erase hk)
  pending := hs.pending

theorem Within.round (h : Round s effects t) : t.Within used := by
  cases h with
  | @putBack streamId rest queue spent =>
    refine ⟨hs.streams, hs.queue, ?_, hs.pending⟩
    intro k hk
    rcases Finset.mem_insert.mp hk with rfl | hk
    · exact hs.queue k (by rw [queue]; exact List.mem_cons_self)
    · exact hs.blocked k hk
  | stale queue absent => exact hs.popped queue
  | @flush streamId rest stream queue credit present =>
    have hused := hs.streams present
    have hsent := (hs.popped queue).insert hused
      (stream.flushWrites (s.popped streamId rest).sessionCredit).1
    simp only [flushBlockedStream]
    split
    · have hqueued := hsent.queued hused
      exact ⟨hqueued.streams, hqueued.queue, hqueued.blocked, hqueued.pending⟩
    · exact ⟨hsent.streams, hsent.queue, hsent.blocked, hsent.pending⟩

theorem Within.move (h : Move op s effects t) : t.Within used := by
  cases h with
  | calm core => exact hs.core core
  | grantStreams uni => cases uni <;> exact ⟨hs.streams, hs.queue, hs.blocked, hs.pending⟩
  | dataBlocked core | streamsBlocked core => exact hs.core core
  | accepted headers data requestId server waiting core | confirmed data named waiting core =>
    have hset : Within used { s with state := .connected } :=
      ⟨hs.streams, hs.queue, hs.blocked, hs.pending⟩
    exact hset.core core
  | method call present plain => exact hs.insert (hs.streams present) _
  | @dropped streamId =>
    obtain ⟨_, _, hshape⟩ := s.dropped_shape
    rw [hshape]
    refine ⟨fun hget => ?_, hs.queue, fun k hk => hs.blocked k (Finset.mem_of_mem_erase hk),
      hs.pending⟩
    exact hs.streams (OrderedMap.get?_erase_some hget).2
  | @written streamId stream result present =>
    have hsent := hs.insert (hs.streams present) result.1
    unfold Session.written
    dsimp only
    split
    · have hqueued := hsent.queued (hs.streams present)
      exact ⟨hqueued.streams, hqueued.queue, hqueued.blocked, hqueued.pending⟩
    · exact ⟨hsent.streams, hsent.queue, hsent.blocked, hsent.pending⟩
  | maxDataRaised limit =>
    have hraised : Within used { s with peerMaxData := limit } :=
      ⟨hs.streams, hs.queue, hs.blocked, hs.pending⟩
    exact (s.rounds_maxDataRaised limit).keeps (fun _ _ _ hround hu => hu.round hround) hraised
  | announced => exact ⟨hs.streams, hs.queue, hs.blocked, fun k hk => nomatch hk⟩
  | cleared gone empty core =>
    have hset : Within used
        { s with blockedStreams := ∅, blockedStreamsQueue := [], pendingStreams := [] } :=
      ⟨hs.streams, (fun k hk => nomatch hk), (fun k hk => absurd hk (Finset.notMem_empty k)),
        (fun k hk => nomatch hk)⟩
    exact hset.core core
  | _ => exact ⟨hs.streams, hs.queue, hs.blocked, hs.pending⟩

theorem Within.weaken {more : List StreamId} (hmore : ∀ k ∈ used, k ∈ more) : s.Within more where
  streams hget := hmore _ (hs.streams hget)
  queue k hk := hmore k (hs.queue k hk)
  blocked k hk := hmore k (hs.blocked k hk)
  pending k hk := hmore k (hs.pending k hk)

end

theorem Within.opening {s t : Session} {effects : List Effect} (hs : s.Within used)
    (h : Opening op s effects t) (hadds : ∀ k ∈ op.adds, k ∈ used) : t.Within used := by
  cases h with
  | bound streamId requestId uni now named =>
    exact hs.insert (hadds streamId (by simp [named, SessionOp.adds])) _
  | @admitted streamId now direction named =>
    have hused := hadds streamId (by simp [named, SessionOp.adds])
    obtain ⟨_, _, hshape⟩ := s.admitted_shape
    rw [hshape]
    have hinsert := hs.insert hused
      (Stream.new streamId s.id direction true ⟨s.maxWriteBufferSize⟩ now)
    refine ⟨hinsert.streams, hs.queue, hs.blocked, fun k hk => ?_⟩
    change k ∈ (if s.state = .connecting then _ else _) at hk
    split at hk
    · rcases List.mem_append.mp hk with hk | hk
      · exact hs.pending k hk
      · rw [List.mem_singleton.mp hk]
        exact hused
    · exact hs.pending k hk
  | @turnedAway _ streamId now direction =>
    obtain ⟨_, _, _, _, hshape⟩ := s.turnedAway_shape
    rw [hshape]
    exact ⟨hs.streams, hs.queue, hs.blocked, hs.pending⟩

theorem Within.outcome (hs : s.Within used) (h : Outcome op s effects t)
    (hadds : ∀ k ∈ op.adds, k ∈ used) : t.Within used :=
  h.keeps (fun _ _ _ hmove hu => hu.move hmove) (fun _ _ hfirst => hs.opening hfirst hadds)
    (fun _ _ _ _ _ hu => ⟨hu.streams, hu.queue, hu.blocked, hu.pending⟩) hs

theorem within_new (protocols : Option (List String)) :
    (Session.new id path headers protocols client parameters createdAt).Within [] where
  streams hget := nomatch hget
  queue _ hk := nomatch hk
  blocked k hk := absurd hk (Finset.notMem_empty k)
  pending _ hk := nomatch hk

end Session

end PyWebTransport

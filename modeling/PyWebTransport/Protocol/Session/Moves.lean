/-
PyWebTransport.Protocol.Session.Moves — every operation of a session as a
chain of a few kinds of moves.

The operations share their helpers, and each helper does little: it raises
a limit, announces something, replaces or drops a stream. `Move` lists these
as one relation between the session before, the effects, and the session
after, with the guard under which the source makes the move. An operation is
a chain of moves, at the end of which the session may close (`Course`), or it
adds a stream first (`Outcome`). This module says what the moves are, what
none of them changes, and that the helpers are chains of moves;
`Session.Courses` does the operations.
-/
import PyWebTransport.Lib.Chain
import PyWebTransport.Protocol.StreamEvents
import PyWebTransport.Protocol.Session.OperationsAccounting

namespace PyWebTransport

open PyWebTransport.Lib

/-! ## Kinds of effects -/

namespace Effect

/-- Effects that report to requests or leave by another stream: they are no
events of the session or of its streams, put nothing on its streams and are
not the connection's own. -/
def isQuiet : Effect → Bool
  | .emitSessionEvent .. | .emitStreamEvent .. | .sendH3Headers .. | .sendH3Capsule ..
  | .sendQuicData .. | .resetQuicStream .. | .stopQuicStream .. => false
  | .closeQuicConnection .. | .createH3ConnectStream .. | .createH3LocalStreams
  | .emitConnectionEvent .. | .sendH3Goaway _ => false
  | _ => true

/-- Effects that refuse a stream. -/
def refuses (streamId : StreamId) : Effect → Bool
  | .resetQuicStream k _ => k = streamId
  | .stopQuicStream k _ => k = streamId
  | _ => false

end Effect

/-- The calls that report a write to a stream. They need the credit of the
session. -/
def SendCall.isWriter : SendCall → Bool
  | .write .. | .flushWrites .. | .completeWrite .. => true
  | _ => false

def ReceiveCall.isWriter : ReceiveCall → Bool
  | .send call => call.isWriter
  | _ => false

/-- The calls that give up what a stream still has to send. -/
def ReceiveCall.cuts : ReceiveCall → Bool
  | .send (.reset ..) | .send (.recvStopSending ..) | .send (.abort ..) => true
  | _ => false

namespace Session

/-- The fields that runs are judged by: all but the queues of requests,
capsules and datagrams and what is kept for diagnostics. -/
structure SameCore (s t : Session) : Prop where
  blockedStreams : t.blockedStreams = s.blockedStreams
  blockedStreamsQueue : t.blockedStreamsQueue = s.blockedStreamsQueue
  dataSent : t.dataSent = s.dataSent
  flowControlNegotiated : t.flowControlNegotiated = s.flowControlNegotiated
  id : t.id = s.id
  initialMaxStreamsBidi : t.initialMaxStreamsBidi = s.initialMaxStreamsBidi
  initialMaxStreamsUni : t.initialMaxStreamsUni = s.initialMaxStreamsUni
  isClient : t.isClient = s.isClient
  localMaxData : t.localMaxData = s.localMaxData
  localMaxStreamsBidi : t.localMaxStreamsBidi = s.localMaxStreamsBidi
  localMaxStreamsUni : t.localMaxStreamsUni = s.localMaxStreamsUni
  peerMaxData : t.peerMaxData = s.peerMaxData
  peerStreamsBidiClosed : t.peerStreamsBidiClosed = s.peerStreamsBidiClosed
  peerStreamsBidiOpened : t.peerStreamsBidiOpened = s.peerStreamsBidiOpened
  peerStreamsUniClosed : t.peerStreamsUniClosed = s.peerStreamsUniClosed
  peerStreamsUniOpened : t.peerStreamsUniOpened = s.peerStreamsUniOpened
  pendingStreams : t.pendingStreams = s.pendingStreams
  state : t.state = s.state
  streams : t.streams = s.streams

theorem SameCore.refl (s : Session) : SameCore s s := by
  constructor <;> rfl

/-- A limit that was reported last, below which nothing was reported yet. -/
def markOf (last : Option Nat) : WithBot Nat := last

/-- The limit that the last DATA_BLOCKED capsule reported, if there was one. -/
def dataMark (s : Session) : WithBot Nat := markOf s.lastDataBlockedSent

/-- The same for the STREAMS_BLOCKED capsules of a direction. -/
def streamsMark (s : Session) (uni : Bool) : WithBot Nat := markOf (s.lastStreamsBlockedSent uni)

/-- No mark is lowered. -/
structure KeepsMarks (s t : Session) : Prop where
  data : s.dataMark ≤ t.dataMark
  streams : ∀ uni, s.streamsMark uni ≤ t.streamsMark uni

theorem KeepsMarks.of_eq {s t : Session} (hdata : t.lastDataBlockedSent = s.lastDataBlockedSent)
    (hbidi : t.lastStreamsBlockedBidiSent = s.lastStreamsBlockedBidiSent)
    (huni : t.lastStreamsBlockedUniSent = s.lastStreamsBlockedUniSent) : KeepsMarks s t := by
  refine ⟨le_of_eq ?_, fun uni => le_of_eq ?_⟩
  · unfold dataMark
    rw [hdata]
  · unfold streamsMark lastStreamsBlockedSent
    rw [hbidi, huni]

theorem KeepsMarks.refl (s : Session) : KeepsMarks s s := .of_eq rfl rfl rfl

/-- The session without a stream that is closed. -/
def removed (s : Session) (streamId : StreamId) : Session :=
  { s with
    streams := s.streams.erase streamId
    blockedStreams := s.blockedStreams.erase streamId }

/-- The session without a stream that is closed, which counts if the peer
had opened it. -/
def dropped (s : Session) (streamId : StreamId) : Session :=
  if isPeerInitiatedStream streamId s.isClient then
    (s.removed streamId).setPeerStreamsClosed (isUnidirectionalStream streamId)
      (s.peerStreamsClosed (isUnidirectionalStream streamId) + 1)
  else s.removed streamId

/-- The session after a writing method, which is charged, with the stream
queued if it waits for credit. -/
def written (s : Session) (streamId : StreamId) (result : Stream × List Effect × Nat) : Session :=
  let sent : Session :=
    { s with
      streams := s.streams.insert streamId result.1
      dataSent := s.dataSent + result.2.2 }
  if result.1.isBlocked && decide (streamId ∉ sent.blockedStreams) then
    { sent with
      blockedStreams := insert streamId sent.blockedStreams
      blockedStreamsQueue := sent.blockedStreamsQueue ++ [streamId] }
  else sent

/-- A new limit on the data and the flush it allows. -/
def maxDataRaised (s : Session) (limit : Nat) : Session × List Effect :=
  let raised : Session := { s with peerMaxData := limit }
  if raised.flowControlNegotiated && raised.dataSent ≥ raised.peerMaxData then (raised, [])
  else flushBlockedWritesLoop raised.blockedStreamsQueue.length raised

/-- A peer stream within the limit, which is counted and queued or announced. -/
def admitted (s : Session) (streamId : StreamId) (direction : StreamDirection) (now : Timestamp) :
    Session :=
  let uni := decide (direction = .receiveOnly)
  { s.setPeerStreamsOpened uni (s.peerStreamsOpened uni + 1) with
    pendingStreams :=
      if s.state = .connecting then s.pendingStreams ++ [streamId] else s.pendingStreams
    streams := s.streams.insert streamId
      (Stream.new streamId s.id direction true ⟨s.maxWriteBufferSize⟩ now) }

/-- A peer stream within the limit that finds the queue full: it is counted
as opened and as closed. -/
def turnedAway (s : Session) (direction : StreamDirection) : Session :=
  let uni := decide (direction = .receiveOnly)
  (s.setPeerStreamsOpened uni (s.peerStreamsOpened uni + 1)).setPeerStreamsClosed uni
    (s.peerStreamsClosed uni + 1)

/-- The session marked as over. -/
def marked (s : Session) (closeCode : Option ErrorCode) (closeReason : Option String)
    (closedAt : Option Timestamp) (state : SessionState) : Session :=
  { s with
    closeCode := closeCode
    closeReason := closeReason
    closedAt := closedAt
    state := state }

end Session

namespace SessionOp

/-- The stream a call writes to. -/
def writesTo : SessionOp → Option StreamId
  | .completeStreamWrite streamId => some streamId
  | .writeStream streamId _ _ _ => some streamId
  | _ => none

/-- The calls that may find no room for a stream. -/
def asksForStreams : SessionOp → Bool
  | .createStream .. | .flushBlockedStreamRequests .. => true
  | _ => false

/-- The calls that work through capsules of the peer. -/
def takesCapsules : SessionOp → Bool
  | .accept .. | .confirm .. | .recvCapsule .. => true
  | _ => false

/-- The stream whose sending side a call gives up. -/
def givesUp : SessionOp → Option StreamId
  | .recvStopSending streamId _ => some streamId
  | .resetStream streamId _ _ => some streamId
  | _ => none

end SessionOp

namespace Session

variable {s t : Session} {effects : List Effect} {e : Effect} {mark : Option Nat} {limit : Nat}

variable {streamId : StreamId} {direction : StreamDirection}

/-! ## Moves -/

/-- One move within the call `op`. -/
inductive Move (op : SessionOp) : Session → List Effect → Session → Prop where
  | calm {s t : Session} {effects : List Effect} (core : SameCore s t)
      (quiet : ∀ e ∈ effects, e.isQuiet = true) (marks : KeepsMarks s t) : Move op s effects t
  | refuse {s : Session} {effects : List Effect} (streamId : StreamId)
      (named : streamId ∈ op.adds) (refusal : ∀ e ∈ effects, e.refuses streamId = true) :
      Move op s effects s
  | notice {s : Session} (eventType : EventType) (data : SessionEventData)
      (established : s.state = .connected ∨ s.state = .draining)
      (kind : eventType ≠ .sessionReady ∧ eventType ≠ .sessionDraining ∧
        eventType ≠ .sessionClosed) :
      Move op s [.emitSessionEvent s.id eventType data] s
  | grantData {s : Session} {value : Bytes}
      (encoded : writeVarint (saturatingAdd s.dataConsumed s.receiveWindow) = .ok value)
      (negotiated : s.flowControlNegotiated = true) (may : s.mayReplenish = true)
      (more : s.localMaxData < saturatingAdd s.dataConsumed s.receiveWindow) :
      Move op s [.sendH3Capsule s.id wtCapsuleTypeMaxData value false]
        { s with localMaxData := saturatingAdd s.dataConsumed s.receiveWindow }
  | grantStreams {s : Session} {value : Bytes} (uni : Bool)
      (encoded : writeVarint (saturatingAdd (s.peerStreamsClosed uni) (s.initialMaxStreams uni)) =
        .ok value)
      (negotiated : s.flowControlNegotiated = true) (may : s.mayReplenish = true)
      (more : s.localMaxStreams uni <
        saturatingAdd (s.peerStreamsClosed uni) (s.initialMaxStreams uni)) :
      Move op s [.sendH3Capsule s.id
          (if uni then wtCapsuleTypeMaxStreamsUni else wtCapsuleTypeMaxStreamsBidi) value false]
        (s.setLocalMaxStreams uni (saturatingAdd (s.peerStreamsClosed uni) (s.initialMaxStreams uni)))
  | dataBlocked {s t : Session} {value : Bytes} (core : SameCore s t) (opened : s.isOpen = true)
      (full : s.peerMaxData ≤ s.dataSent) (waiting : s.blockedStreams ≠ ∅)
      (asked : op.writesTo ≠ none ∨ op.takesCapsules = true)
      (encoded : writeVarint s.peerMaxData = .ok value) (fresh : s.dataMark < s.peerMaxData)
      (reported : t.dataMark = s.peerMaxData)
      (kept : ∀ uni, s.streamsMark uni ≤ t.streamsMark uni) :
      Move op s [.sendH3Capsule s.id wtCapsuleTypeDataBlocked value false] t
  | streamsBlocked {s t : Session} {uni : Bool} {value : Bytes} (core : SameCore s t)
      (opened : s.isOpen = true) (early : s.state = .connecting → op.asksForStreams = true)
      (asked : op.asksForStreams = true ∨ op.takesCapsules = true)
      (encoded : writeVarint (s.peerMaxStreams uni) = .ok value)
      (fresh : s.streamsMark uni < s.peerMaxStreams uni)
      (reported : t.streamsMark uni = s.peerMaxStreams uni) (kept : KeepsMarks s t) :
      Move op s [.sendH3Capsule s.id
        (if uni then wtCapsuleTypeStreamsBlockedUni else wtCapsuleTypeStreamsBlockedBidi) value
        false] t
  | accepted {s t : Session} (headers : Headers) (data : SessionEventData) (requestId : RequestId)
      (server : s.isClient = false) (waiting : s.state = .connecting)
      (core : SameCore { s with state := .connected } t) (marks : KeepsMarks s t) :
      Move op s [.sendH3Headers s.id headers false, .emitSessionEvent s.id .sessionReady data,
        .notifyRequestDone requestId .none] t
  | confirmed {s t : Session} (data : SessionEventData)
      (named : ∃ protocol now, op = .confirm protocol now) (waiting : s.state = .connecting)
      (core : SameCore { s with state := .connected } t) (marks : KeepsMarks s t) :
      Move op s [.emitSessionEvent s.id .sessionReady data] t
  | drained {s : Session} (capsules : List Effect) (established : s.state = .connected)
      (capsule : capsules = [] ∨
        capsules = [.sendH3Capsule s.id wtCapsuleTypeDrainSession [] false]) :
      Move op s (capsules ++ [.emitSessionEvent s.id .sessionDraining {}])
        { s with state := .draining }
  | closed {s : Session} (closing : s.state = .closing) : Move op s [] { s with state := .closed }
  | method {s : Session} {streamId : StreamId} {stream : Stream} (call : ReceiveCall)
      (present : s.streams.get? streamId = some stream) (plain : call.isWriter = false)
      (cut : call.cuts = true → op.givesUp = some streamId ∨ s.isOpen = false) :
      Move op s (s.suppressPendingStreamEvents streamId (stream.receive call).2)
        { s with streams := s.streams.insert streamId (stream.receive call).1 }
  | dropped {s : Session} {streamId : StreamId} {stream : Stream}
      (present : s.streams.get? streamId = some stream) (gone : stream.isClosed = true) :
      Move op s (s.suppressPendingStreamEvents streamId
        [.emitStreamEvent streamId .streamClosed none none none none]) (s.dropped streamId)
  | written {s : Session} {streamId : StreamId} {stream : Stream}
      {result : Stream × List Effect × Nat}
      (present : s.streams.get? streamId = some stream) (named : op.writesTo = some streamId)
      (method : result = stream.completeWrite s.sessionCredit ∨
        ∃ requestId data endStream, result = stream.write requestId data endStream s.sessionCredit) :
      Move op s result.2.1 (s.written streamId result)
  | maxDataRaised {s : Session} (limit : Nat)
      (established : s.state = .connected ∨ s.state = .draining)
      (negotiated : s.flowControlNegotiated = true) (more : s.peerMaxData < limit) :
      Move op s (s.maxDataRaised limit).2 (s.maxDataRaised limit).1
  | announced {s : Session} (established : s.state = .connected) :
      Move op s ((s.pendingStreams.filter s.hasStream).map s.openedEvent)
        { s with pendingStreams := [] }
  | cleared {s t : Session} {effects : List Effect} (gone : s.isOpen = false)
      (empty : ∀ streamId, s.streams.get? streamId = none)
      (core : SameCore
        { s with blockedStreams := ∅, blockedStreamsQueue := [], pendingStreams := [] } t)
      (quiet : ∀ e ∈ effects, e.isQuiet = true) (marks : KeepsMarks s t) : Move op s effects t

/-- The move that a call makes first if it adds a stream. -/
inductive Opening (op : SessionOp) : Session → List Effect → Session → Prop where
  | bound {s : Session} (streamId : StreamId) (requestId : RequestId) (uni : Bool)
      (now : Timestamp) (named : op = .bindStream streamId requestId uni now)
      (opened : s.isOpen = true) :
      Opening op s
        [.emitStreamEvent streamId .streamOpened (some s.id)
            (some (if uni then .sendOnly else .bidirectional)) (some false) none,
          .notifyRequestDone requestId (.streamId streamId)]
        { s with
          streams := s.streams.insert streamId (Stream.new streamId s.id
            (if uni then .sendOnly else .bidirectional) false ⟨s.maxWriteBufferSize⟩ now) }
  | admitted {s : Session} {streamId : StreamId} {now : Timestamp} {direction : StreamDirection}
      (named : op = .handleStreamOpened streamId now) (opened : s.isOpen = true)
      (directed : streamDirectionFromId streamId s.isClient = direction)
      (incoming : direction ≠ .sendOnly)
      (within : s.flowControlNegotiated = true →
        s.peerStreamsOpened (decide (direction = .receiveOnly)) <
          s.localMaxStreams (decide (direction = .receiveOnly))) :
      Opening op s
        (if s.state = .connecting then []
          else [.emitStreamEvent streamId .streamOpened (some s.id) (some direction) (some true)
            none])
        (s.admitted streamId direction now)
  | turnedAway {s : Session} {effects : List Effect} {streamId : StreamId} {now : Timestamp}
      {direction : StreamDirection} (named : op = .handleStreamOpened streamId now)
      (waiting : s.state = .connecting)
      (directed : streamDirectionFromId streamId s.isClient = direction)
      (incoming : direction ≠ .sendOnly)
      (within : s.flowControlNegotiated = true →
        s.peerStreamsOpened (decide (direction = .receiveOnly)) <
          s.localMaxStreams (decide (direction = .receiveOnly)))
      (refusal : ∀ e ∈ effects, e.refuses streamId = true) :
      Opening op s effects (s.turnedAway direction)

/-- The last thing a session puts on its CONNECT stream, if anything. -/
inductive Farewell (op : SessionOp) (s : Session) : List Effect → Prop where
  | silent : Farewell op s []
  | reset (errorCode : ErrorCode) : Farewell op s [.resetQuicStream s.id errorCode]
  | finish (established : s.state = .connected ∨ s.state = .draining) :
      Farewell op s [.sendQuicData s.id [] true]
  | close {e : Effect} (named : ∃ requestId errorCode reason now,
        op = .close requestId errorCode reason now)
      (last : e = .sendQuicData s.id [] true ∨
        ∃ value, e = .sendH3Capsule s.id wtCapsuleTypeCloseSession value true) : Farewell op s [e]
  | reject (headers : Headers) (server : s.isClient = false) (waiting : s.state = .connecting) :
      Farewell op s [.sendH3Headers s.id headers true]

/-- An open session closes: it is marked as closed, its streams are given
up, and it reports its end. -/
inductive Ending (op : SessionOp) : Session → List Effect → Session → Prop where
  | shut {s t : Session} {torn last answers : List Effect} (closeCode : Option ErrorCode)
      (closeReason : Option String) (closedAt : Option Timestamp) (state : SessionState)
      (data : SessionEventData) (opened : s.isOpen = true)
      (gone : state = .closed ∨ state = .closing)
      (moves : Chain (Move op) (s.marked closeCode closeReason closedAt state) torn t)
      (farewell : Farewell op s last) (quiet : ∀ e ∈ answers, e.isQuiet = true) :
      Ending op s (torn ++ (last ++ .emitSessionEvent s.id .sessionClosed data :: answers)) t

/-- Moves at the end of which the session may close. -/
inductive Course (op : SessionOp) : Session → List Effect → Session → Prop where
  | stays {s t : Session} {effects : List Effect} (moves : Chain (Move op) s effects t) :
      Course op s effects t
  | ends {s mid t : Session} {before after : List Effect} (moves : Chain (Move op) s before mid)
      (ending : Ending op mid after t) : Course op s (before ++ after) t

/-- A whole call: a course of moves, a new stream and the credit that goes
with it, or a capsule for a session that is closed. -/
inductive Outcome (op : SessionOp) : Session → List Effect → Session → Prop where
  | course {s t : Session} {effects : List Effect} (course : Course op s effects t) :
      Outcome op s effects t
  | late {s : Session} (gone : s.state = .closed) :
      Outcome op s [.resetQuicStream s.id errH3MessageError] s
  | opening {s mid t : Session} {before after : List Effect} (first : Opening op s before mid)
      (moves : Chain (Move op) mid after t) : Outcome op s (before ++ after) t

/-! ## What no move changes -/

theorem dropped_shape (s : Session) :
    ∃ b u, s.dropped streamId =
      { s with
        streams := s.streams.erase streamId
        blockedStreams := s.blockedStreams.erase streamId
        peerStreamsBidiClosed := b
        peerStreamsUniClosed := u } := by
  unfold dropped
  split
  · obtain ⟨b, u, h⟩ := (s.removed streamId).setPeerStreamsClosed_shape
      (isUnidirectionalStream streamId) (s.peerStreamsClosed (isUnidirectionalStream streamId) + 1)
    exact ⟨b, u, h⟩
  · exact ⟨_, _, rfl⟩

theorem written_shape (s : Session) (result : Stream × List Effect × Nat) :
    ∃ blocked queue, s.written streamId result =
      { s with
        streams := s.streams.insert streamId result.1
        dataSent := s.dataSent + result.2.2
        blockedStreams := blocked
        blockedStreamsQueue := queue } := by
  unfold written
  dsimp only
  split
  · exact ⟨_, _, rfl⟩
  · exact ⟨_, _, rfl⟩

theorem maxDataRaised_shape (s : Session) :
    ∃ streams sent queue blocked, (s.maxDataRaised limit).1 =
      { s with
        peerMaxData := limit
        streams := streams
        dataSent := sent
        blockedStreamsQueue := queue
        blockedStreams := blocked } := by
  unfold maxDataRaised
  dsimp only
  split
  · exact ⟨_, _, _, _, rfl⟩
  · obtain ⟨_, _, _, _, h⟩ := flushBlockedWritesLoop_shape s.blockedStreamsQueue.length
      { s with peerMaxData := limit }
    exact ⟨_, _, _, _, h⟩

theorem admitted_shape (s : Session) {now : Timestamp} :
    ∃ b u, s.admitted streamId direction now =
      { s with
        peerStreamsBidiOpened := b
        peerStreamsUniOpened := u
        pendingStreams :=
          if s.state = .connecting then s.pendingStreams ++ [streamId] else s.pendingStreams
        streams := s.streams.insert streamId
          (Stream.new streamId s.id direction true ⟨s.maxWriteBufferSize⟩ now) } := by
  cases direction <;> exact ⟨_, _, rfl⟩

theorem turnedAway_shape (s : Session) :
    ∃ ob ou cb cu, s.turnedAway direction =
      { s with
        peerStreamsBidiOpened := ob
        peerStreamsUniOpened := ou
        peerStreamsBidiClosed := cb
        peerStreamsUniClosed := cu } := by
  cases direction <;> exact ⟨_, _, _, _, rfl⟩

theorem isOpen_iff_rank (s : Session) : s.isOpen = true ↔ s.state.rank ≤ 2 := by
  unfold isOpen
  cases s.state <;> simp [SessionState.rank]

theorem isOpen_of_state {state : SessionState} (h : s.state = state) (hrank : state.rank ≤ 2) :
    s.isOpen = true :=
  s.isOpen_iff_rank.mpr (h ▸ hrank)

theorem isOpen_of_established (h : s.state = .connected ∨ s.state = .draining) :
    s.isOpen = true := by
  rcases h with h | h <;> exact isOpen_of_state h (by decide)

variable {op : SessionOp}

/-- A session keeps its name, its role and its flow control. -/
structure SameIdentity (s t : Session) : Prop where
  id : t.id = s.id
  isClient : t.isClient = s.isClient
  flowControlNegotiated : t.flowControlNegotiated = s.flowControlNegotiated

theorem SameCore.identity (h : SameCore s t) : SameIdentity s t :=
  ⟨h.id, h.isClient, h.flowControlNegotiated⟩

/-- No move renames the session, and its state only moves forward. -/
theorem Move.forward (h : Move op s effects t) :
    SameIdentity s t ∧ s.state.rank ≤ t.state.rank := by
  cases h with
  | calm core => exact ⟨core.identity, by rw [core.state]⟩
  | grantStreams uni => cases uni <;> exact ⟨⟨rfl, rfl, rfl⟩, Nat.le_refl _⟩
  | dataBlocked core | streamsBlocked core => exact ⟨core.identity, by rw [core.state]⟩
  | accepted headers data requestId server waiting core | confirmed data named waiting core =>
    exact ⟨⟨core.id, core.isClient, core.flowControlNegotiated⟩, by
      rw [core.state, waiting]
      exact Nat.zero_le _⟩
  | drained capsules established =>
    refine ⟨⟨rfl, rfl, rfl⟩, ?_⟩
    rw [established]
    exact Nat.le_succ 1
  | closed closing => exact ⟨⟨rfl, rfl, rfl⟩, rank_le_closed⟩
  | @dropped streamId =>
    obtain ⟨_, _, hshape⟩ := s.dropped_shape
    rw [hshape]
    exact ⟨⟨rfl, rfl, rfl⟩, Nat.le_refl _⟩
  | @written streamId stream result =>
    obtain ⟨_, _, hshape⟩ := s.written_shape result
    rw [hshape]
    exact ⟨⟨rfl, rfl, rfl⟩, Nat.le_refl _⟩
  | maxDataRaised limit =>
    obtain ⟨_, _, _, _, hshape⟩ := s.maxDataRaised_shape
    rw [hshape]
    exact ⟨⟨rfl, rfl, rfl⟩, Nat.le_refl _⟩
  | cleared gone empty core =>
    exact ⟨⟨core.id, core.isClient, core.flowControlNegotiated⟩, by rw [core.state]⟩
  | _ => exact ⟨⟨rfl, rfl, rfl⟩, Nat.le_refl _⟩

theorem Opening.forward (h : Opening op s effects t) : SameIdentity s t ∧ t.state = s.state := by
  cases h with
  | bound => exact ⟨⟨rfl, rfl, rfl⟩, rfl⟩
  | @admitted streamId now direction =>
    obtain ⟨_, _, hshape⟩ := s.admitted_shape
    rw [hshape]
    exact ⟨⟨rfl, rfl, rfl⟩, rfl⟩
  | @turnedAway _ streamId now direction =>
    obtain ⟨_, _, _, _, hshape⟩ := s.turnedAway_shape
    rw [hshape]
    exact ⟨⟨rfl, rfl, rfl⟩, rfl⟩

/-- No move opens or closes a session: a session closes at the end of a
course. -/
theorem Move.isOpen_eq (h : Move op s effects t) : t.isOpen = s.isOpen := by
  cases h with
  | calm core => exact isOpen_congr core.state
  | grantStreams uni => cases uni <;> rfl
  | dataBlocked core | streamsBlocked core => exact isOpen_congr core.state
  | accepted headers data requestId server waiting core | confirmed data named waiting core =>
    simp [isOpen, core.state, waiting]
  | drained capsules established => simp [isOpen, established]
  | closed closing => simp [isOpen, closing]
  | @dropped streamId =>
    obtain ⟨_, _, hshape⟩ := s.dropped_shape
    rw [hshape]
    rfl
  | @written streamId stream result =>
    obtain ⟨_, _, hshape⟩ := s.written_shape result
    rw [hshape]
    rfl
  | maxDataRaised limit =>
    obtain ⟨_, _, _, _, hshape⟩ := s.maxDataRaised_shape
    rw [hshape]
    rfl
  | cleared gone empty core => exact isOpen_congr core.state
  | _ => rfl

theorem isOpen_of_moves (h : Chain (Move op) s effects t) : t.isOpen = s.isOpen := by
  induction h with
  | refl s => rfl
  | head move _ ih => exact ih.trans move.isOpen_eq

/-! ## Helpers as chains -/

theorem isQuiet_singleton (h : e.isQuiet = true) : ∀ x ∈ [e], x.isQuiet = true := by
  exact List.forall_mem_singleton.mpr h

theorem Move.quiet (h : ∀ e ∈ effects, e.isQuiet = true) : Move op s effects s :=
  .calm (SameCore.refl s) h (.refl s)

/-- A change outside the core, without effects. -/
theorem moves_of_core (h : SameCore s t) (hmarks : KeepsMarks s t) : Chain (Move op) s [] t :=
  .single (.calm h (by simp) hmarks)

/-- A request is answered and nothing else happens. -/
theorem moves_answer (h : e.isQuiet = true) : Chain (Move op) s [e] s :=
  .single (.quiet (isQuiet_singleton h))

theorem moves_replenishDataCredit (s : Session) (force : Bool) :
    Chain (Move op) s (s.replenishDataCredit force).2.toList (s.replenishDataCredit force).1 := by
  rcases s.replenishDataCredit_cases force with h | ⟨value, hvalue, hfc, hmay, hmore, h⟩ <;> rw [h]
  · exact .refl s
  · exact .single (.grantData hvalue hfc hmay hmore)

theorem moves_replenishStreamsCredit (s : Session) (uni force : Bool) :
    Chain (Move op) s (s.replenishStreamsCredit uni force).2.toList
      (s.replenishStreamsCredit uni force).1 := by
  rcases s.replenishStreamsCredit_cases uni force with h | ⟨value, hvalue, hfc, hmay, hmore, h⟩ <;>
    rw [h]
  · exact .refl s
  · exact .single (.grantStreams uni hvalue hfc hmay hmore)

/-- What the source asks of a mark before it raises it. -/
theorem mark_lt_of_all (h : mark.all (fun last => limit > last) = true) : markOf mark < limit := by
  cases mark with
  | none => exact WithBot.bot_lt_coe limit
  | some last => exact WithBot.coe_lt_coe.mpr (by simpa using h)

theorem mark_lt_of_not_any (h : ¬ mark.any (fun last => limit ≤ last) = true) :
    markOf mark < limit := by
  cases mark with
  | none => exact WithBot.bot_lt_coe limit
  | some last => exact WithBot.coe_lt_coe.mpr (by simpa using h)

theorem moves_emitDataBlocked (hopen : s.isOpen = true)
    (hasked : op.writesTo ≠ none ∨ op.takesCapsules = true) :
    Chain (Move op) s s.emitDataBlocked.2.toList s.emitDataBlocked.1 := by
  unfold emitDataBlocked
  split
  · exact .refl s
  · split
    · rename_i hfull
      have hfresh : s.dataMark < s.peerMaxData := mark_lt_of_all hfull.2.2
      unfold varintCapsule
      split
      · rename_i value hvalue
        exact .single (.dataBlocked (by constructor <;> rfl) hopen hfull.1 hfull.2.1 hasked hvalue
          hfresh rfl fun _ => le_refl _)
      · -- the limit cannot be written: the mark rises and nothing is sent
        exact moves_of_core (by constructor <;> rfl) ⟨hfresh.le, fun _ => le_refl _⟩
    · exact .refl s

theorem moves_emitStreamsBlocked {uni : Bool} (hopen : s.isOpen = true)
    (hearly : s.state = .connecting → op.asksForStreams = true)
    (hasked : op.asksForStreams = true ∨ op.takesCapsules = true) :
    Chain (Move op) s (s.emitStreamsBlocked uni).2.toList (s.emitStreamsBlocked uni).1 := by
  simp only [emitStreamsBlocked]
  split
  · exact .refl s
  · split
    · exact .refl s
    · rename_i hblocked
      simp only [not_or] at hblocked
      have hfresh : s.streamsMark uni < s.peerMaxStreams uni := mark_lt_of_not_any hblocked.2.2
      unfold varintCapsule
      split
      · exact .refl s
      · rename_i capsule hcapsule
        split at hcapsule
        · rename_i value hvalue
          cases hcapsule
          refine .single (.streamsBlocked ?_ hopen hearly hasked hvalue hfresh ?_ ?_)
          · cases uni <;> constructor <;> rfl
          · cases uni <;> rfl
          · cases uni
            · exact ⟨le_refl _, fun other => by cases other; exacts [hfresh.le, le_refl _]⟩
            · exact ⟨le_refl _, fun other => by cases other; exacts [le_refl _, hfresh.le]⟩
        · cases hcapsule

theorem moves_handleClosed (s : Session) (streamId : StreamId) :
    Chain (Move op) s (s.handleClosed streamId).2 (s.handleClosed streamId).1 := by
  simp only [handleClosed]
  split
  · exact .refl s
  · rename_i hclosed
    simp only [Bool.not_eq_true', Bool.not_eq_false, Option.any_eq_true] at hclosed
    obtain ⟨stream, hget, hclosed⟩ := hclosed
    have hdropped : Move op s (s.suppressPendingStreamEvents streamId
        [.emitStreamEvent streamId .streamClosed none none none none]) (s.dropped streamId) :=
      .dropped hget hclosed
    rw [dropped] at hdropped
    split
    · rename_i hpeer
      rw [if_pos hpeer] at hdropped
      exact (Chain.single hdropped).trans (moves_replenishStreamsCredit _ _ _)
    · rename_i hpeer
      rw [if_neg hpeer] at hdropped
      exact .single hdropped

/-- A method of one stream, and the end of the stream if that closed it. -/
theorem moves_method {stream : Stream} {call : ReceiveCall}
    (hget : s.streams.get? streamId = some stream) (hplain : call.isWriter = false)
    (hcut : call.cuts = true → op.givesUp = some streamId ∨ s.isOpen = false) :
    Chain (Move op) s
      (s.suppressPendingStreamEvents streamId (stream.receive call).2 ++
        ({ s with streams := s.streams.insert streamId (stream.receive call).1 }.handleClosed
          streamId).2)
      ({ s with streams := s.streams.insert streamId (stream.receive call).1 }.handleClosed
        streamId).1 :=
  (Chain.single (.method call hget hplain hcut)).trans (moves_handleClosed _ streamId)

theorem moves_abortStream (hclosed : s.isOpen = false) (streamId : StreamId) :
    Chain (Move op) s (s.abortStream streamId).2 (s.abortStream streamId).1 := by
  unfold abortStream
  split
  · exact .refl s
  · rename_i stream hget
    exact .single (.method (.send (.abort errWtSessionGone)) hget rfl fun _ => Or.inr hclosed)

theorem moves_abortStreamsLoop : ∀ (ids : List StreamId) {s : Session}, s.isOpen = false →
    Chain (Move op) s (abortStreamsLoop ids s).2 (abortStreamsLoop ids s).1
  | [], s, _ => .refl s
  | streamId :: rest, s, hclosed => by
      have hfirst : Chain (Move op) s _ _ :=
        (moves_abortStream hclosed streamId).trans (moves_handleClosed _ streamId)
      exact hfirst.trans (moves_abortStreamsLoop rest ((isOpen_of_moves hfirst).trans hclosed))

theorem isQuiet_map_failAborted {l : List RequestId} :
    ∀ e ∈ l.map failAborted, e.isQuiet = true := by
  intro e he
  obtain ⟨r, -, rfl⟩ := List.mem_map.mp he
  rfl

theorem moves_abortStreams (hclosed : s.isOpen = false) :
    Chain (Move op) s s.abortStreams.2 s.abortStreams.1 := by
  obtain ⟨_, _, _, _, hshape⟩ := abortStreamsLoop_shape s.streams.keys s
  have hgone : (abortStreamsLoop s.streams.keys s).1.isOpen = false := by
    rw [hshape]
    exact hclosed
  simp only [abortStreams, List.append_assoc]
  refine (moves_abortStreamsLoop s.streams.keys hclosed).trans
    (.single (.cleared hgone get?_abortStreamsLoop_keys ?_ ?_ (.of_eq rfl rfl rfl)))
  · constructor <;> rfl
  · intro e he
    rcases List.mem_append.mp he with he | he <;> exact isQuiet_map_failAborted e he

/-- Giving up a session that is marked as closed. -/
theorem moves_tearDown (hclosed : s.isOpen = false) :
    Chain (Move op) s s.tearDown.2 s.tearDown.1 := by
  have hforgotten : Chain (Move op) s [] { s with pendingCapsules := [], pendingDatagrams := [] } :=
    moves_of_core (by constructor <;> rfl) (.of_eq rfl rfl rfl)
  refine (hforgotten.trans (moves_abortStreams hclosed)).trans
    (.single (.calm ?_ ?_ (.of_eq rfl rfl rfl)))
  · constructor <;> rfl
  · exact isQuiet_map_failAborted

end Session

end PyWebTransport

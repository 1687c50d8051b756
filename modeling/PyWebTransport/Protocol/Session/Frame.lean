/-
PyWebTransport.Protocol.Session.Frame — what each helper of a session can
change.

A session has some fifty fields and a helper touches a few of them. For
each helper one lemma gives the SHAPE of its result: the old session with
new values in exactly the fields the helper may write. Every statement that
some other field is unchanged is then `rfl` after one rewrite, and
`Frame` collects the fields that no helper ever writes.
-/
import PyWebTransport.Protocol.Session.Operations

namespace PyWebTransport

open PyWebTransport.Lib

namespace Session

variable {uni : Bool} {n : Nat} {s : Session} {streamId : StreamId}

/-! ## The direction setters -/

theorem setLocalStreamsOpened_shape (s : Session) (uni : Bool) (n : Nat) :
    ∃ b u, s.setLocalStreamsOpened uni n =
      { s with localStreamsBidiOpened := b, localStreamsUniOpened := u } := by
  cases uni
  · exact ⟨n, s.localStreamsUniOpened, rfl⟩
  · exact ⟨s.localStreamsBidiOpened, n, rfl⟩

theorem setBlockedStreamRequests_shape (s : Session) (uni : Bool) (l : List RequestId) :
    ∃ b u, s.setBlockedStreamRequests uni l =
      { s with blockedStreamRequestsBidi := b, blockedStreamRequestsUni := u } := by
  cases uni
  · exact ⟨l, s.blockedStreamRequestsUni, rfl⟩
  · exact ⟨s.blockedStreamRequestsBidi, l, rfl⟩

theorem setLastStreamsBlockedSent_shape (s : Session) :
    ∃ b u, s.setLastStreamsBlockedSent uni n =
      { s with lastStreamsBlockedBidiSent := b, lastStreamsBlockedUniSent := u } := by
  cases uni
  · exact ⟨some n, s.lastStreamsBlockedUniSent, rfl⟩
  · exact ⟨s.lastStreamsBlockedBidiSent, some n, rfl⟩

theorem setLocalMaxStreams_shape (s : Session) (uni : Bool) (n : Nat) :
    ∃ b u, s.setLocalMaxStreams uni n =
      { s with localMaxStreamsBidi := b, localMaxStreamsUni := u } := by
  cases uni
  · exact ⟨n, s.localMaxStreamsUni, rfl⟩
  · exact ⟨s.localMaxStreamsBidi, n, rfl⟩

theorem setPeerMaxStreams_shape (s : Session) :
    ∃ b u, s.setPeerMaxStreams uni n =
      { s with peerMaxStreamsBidi := b, peerMaxStreamsUni := u } := by
  cases uni
  · exact ⟨n, s.peerMaxStreamsUni, rfl⟩
  · exact ⟨s.peerMaxStreamsBidi, n, rfl⟩

theorem setPeerStreamsOpened_shape (s : Session) :
    ∃ b u, s.setPeerStreamsOpened uni n =
      { s with peerStreamsBidiOpened := b, peerStreamsUniOpened := u } := by
  cases uni
  · exact ⟨n, s.peerStreamsUniOpened, rfl⟩
  · exact ⟨s.peerStreamsBidiOpened, n, rfl⟩

theorem setPeerStreamsClosed_shape (s : Session) (uni : Bool) (n : Nat) :
    ∃ b u, s.setPeerStreamsClosed uni n =
      { s with peerStreamsBidiClosed := b, peerStreamsUniClosed := u } := by
  cases uni
  · exact ⟨n, s.peerStreamsUniClosed, rfl⟩
  · exact ⟨s.peerStreamsBidiClosed, n, rfl⟩

/-! ## Capsules and credit -/

theorem emitDataBlocked_shape (s : Session) :
    ∃ last, s.emitDataBlocked.1 = { s with lastDataBlockedSent := last } := by
  unfold emitDataBlocked
  split
  · exact ⟨_, rfl⟩
  · split
    · exact ⟨_, rfl⟩
    · exact ⟨_, rfl⟩

theorem emitStreamsBlocked_shape (s : Session) (uni : Bool) :
    ∃ b u, (s.emitStreamsBlocked uni).1 =
      { s with lastStreamsBlockedBidiSent := b, lastStreamsBlockedUniSent := u } := by
  simp only [emitStreamsBlocked]
  split
  · exact ⟨_, _, rfl⟩
  · split
    · exact ⟨_, _, rfl⟩
    · split
      · exact ⟨_, _, rfl⟩
      · exact s.setLastStreamsBlockedSent_shape

/-- The data limit is raised with a capsule that says so, or not at all. -/
theorem replenishDataCredit_cases (s : Session) (force : Bool) :
    s.replenishDataCredit force = (s, none) ∨
    ∃ value, writeVarint (saturatingAdd s.dataConsumed s.receiveWindow) = .ok value ∧
      s.flowControlNegotiated = true ∧ s.mayReplenish = true ∧
      s.localMaxData < saturatingAdd s.dataConsumed s.receiveWindow ∧
      s.replenishDataCredit force =
        ({ s with localMaxData := saturatingAdd s.dataConsumed s.receiveWindow },
          some (.sendH3Capsule s.id wtCapsuleTypeMaxData value false)) := by
  simp only [replenishDataCredit]
  generalize (if force = true then 0 else s.receiveWindow / 2) = threshold
  split
  · exact Or.inl rfl
  · rename_i hopen
    split
    · exact Or.inl rfl
    · rename_i hless
      unfold varintCapsule
      cases hw : writeVarint (saturatingAdd s.dataConsumed s.receiveWindow) with
      | error e => exact Or.inl rfl
      | ok value =>
        simp only [Bool.or_eq_true, Bool.not_eq_true', not_or, Bool.not_eq_false] at hopen
        refine Or.inr ⟨value, rfl, hopen.1, hopen.2, ?_, rfl⟩
        simp only [saturatingAdd] at hless ⊢
        omega

theorem replenishDataCredit_shape {force : Bool} :
    ∃ limit, (s.replenishDataCredit force).1 = { s with localMaxData := limit } := by
  rcases s.replenishDataCredit_cases force with h | ⟨value, -, -, -, -, h⟩
  · exact ⟨s.localMaxData, by rw [h]⟩
  · exact ⟨_, by rw [h]⟩

/-- The stream limit is raised with a capsule that says so, or not at all. -/
theorem replenishStreamsCredit_cases (s : Session) (uni force : Bool) :
    s.replenishStreamsCredit uni force = (s, none) ∨
    ∃ value, writeVarint (saturatingAdd (s.peerStreamsClosed uni) (s.initialMaxStreams uni)) =
        .ok value ∧
      s.flowControlNegotiated = true ∧ s.mayReplenish = true ∧
      s.localMaxStreams uni < saturatingAdd (s.peerStreamsClosed uni) (s.initialMaxStreams uni) ∧
      s.replenishStreamsCredit uni force =
        (s.setLocalMaxStreams uni
            (saturatingAdd (s.peerStreamsClosed uni) (s.initialMaxStreams uni)),
          some (.sendH3Capsule s.id
            (if uni then wtCapsuleTypeMaxStreamsUni else wtCapsuleTypeMaxStreamsBidi)
            value false)) := by
  simp only [replenishStreamsCredit]
  generalize (if force = true then 0 else s.initialMaxStreams uni / 2) = threshold
  split
  · exact Or.inl rfl
  · rename_i hopen
    split
    · exact Or.inl rfl
    · rename_i hless
      unfold varintCapsule
      cases hw : writeVarint
          (saturatingAdd (s.peerStreamsClosed uni) (s.initialMaxStreams uni)) with
      | error e => exact Or.inl rfl
      | ok value =>
        simp only [Bool.or_eq_true, Bool.not_eq_true', not_or, Bool.not_eq_false] at hopen
        refine Or.inr ⟨value, rfl, hopen.1, hopen.2, ?_, rfl⟩
        omega

theorem replenishStreamsCredit_shape (s : Session) (uni force : Bool) :
    ∃ b u, (s.replenishStreamsCredit uni force).1 =
      { s with localMaxStreamsBidi := b, localMaxStreamsUni := u } := by
  rcases s.replenishStreamsCredit_cases uni force with h | ⟨value, -, -, -, -, h⟩
  · exact ⟨s.localMaxStreamsBidi, s.localMaxStreamsUni, by rw [h]⟩
  · rw [h]
    exact s.setLocalMaxStreams_shape uni _

/-! ## Closing streams -/

/-- The session after a peer stream was counted as closed. -/
def counted (s : Session) (limits : Nat × Nat) (closed : Nat × Nat) : Session :=
  { s with
    localMaxStreamsBidi := limits.1
    localMaxStreamsUni := limits.2
    peerStreamsBidiClosed := closed.1
    peerStreamsUniClosed := closed.2 }

theorem closePeerStream_shape (s : Session) (uni : Bool) :
    ∃ limits closed, (s.closePeerStream uni).1 = s.counted limits closed := by
  obtain ⟨cb, cu, hc⟩ := s.setPeerStreamsClosed_shape uni (s.peerStreamsClosed uni + 1)
  simp only [closePeerStream, hc]
  obtain ⟨b, u, hl⟩ := replenishStreamsCredit_shape
    { s with peerStreamsBidiClosed := cb, peerStreamsUniClosed := cu } uni false
  rw [hl]
  exact ⟨(b, u), (cb, cu), rfl⟩

theorem handleClosed_shape (s : Session) (streamId : StreamId) :
    ∃ streams blocked limits closed, (s.handleClosed streamId).1 =
      { s with streams := streams, blockedStreams := blocked }.counted limits closed := by
  simp only [handleClosed]
  split
  · exact ⟨s.streams, s.blockedStreams, (_, _), (_, _), rfl⟩
  · split
    · obtain ⟨limits, closed, h⟩ := closePeerStream_shape
        { s with
          streams := s.streams.erase streamId
          blockedStreams := s.blockedStreams.erase streamId } (isUnidirectionalStream streamId)
      exact ⟨_, _, limits, closed, h⟩
    · exact ⟨s.streams.erase streamId, s.blockedStreams.erase streamId, (_, _), (_, _), rfl⟩

theorem abortStream_shape (s : Session) :
    ∃ streams, (s.abortStream streamId).1 = { s with streams := streams } := by
  unfold abortStream
  split
  · exact ⟨_, rfl⟩
  · exact ⟨_, rfl⟩

theorem abortStreamsLoop_shape : ∀ (ids : List StreamId) (s : Session),
    ∃ streams blocked limits closed, (abortStreamsLoop ids s).1 =
      { s with streams := streams, blockedStreams := blocked }.counted limits closed
  | [], s => ⟨s.streams, s.blockedStreams, (_, _), (_, _), rfl⟩
  | streamId :: rest, s => by
      simp only [abortStreamsLoop]
      obtain ⟨streams, hstreams⟩ := s.abortStream_shape
      obtain ⟨_, _, _, _, hclosed⟩ := handleClosed_shape { s with streams := streams } streamId
      obtain ⟨_, _, _, _, hrest⟩ := abortStreamsLoop_shape rest
        ({ s with streams := streams }.handleClosed streamId).1
      rw [hstreams, hrest, hclosed]
      exact ⟨_, _, _, _, rfl⟩

theorem abortStreams_shape (s : Session) :
    ∃ streams limits closed, s.abortStreams.1 =
      { s with
        streams := streams
        blockedStreams := ∅
        blockedStreamsQueue := []
        pendingStreams := []
        blockedStreamRequestsBidi := []
        blockedStreamRequestsUni := [] }.counted limits closed := by
  obtain ⟨streams, _, limits, closed, h⟩ := abortStreamsLoop_shape s.streams.keys s
  refine ⟨streams, limits, closed, ?_⟩
  simp only [abortStreams, h]
  rfl

theorem tearDown_shape (s : Session) :
    ∃ streams limits closed, s.tearDown.1 =
      { s with
        pendingCapsules := []
        pendingDatagrams := []
        pendingDatagramRequests := []
        streams := streams
        blockedStreams := ∅
        blockedStreamsQueue := []
        pendingStreams := []
        blockedStreamRequestsBidi := []
        blockedStreamRequestsUni := [] }.counted limits closed := by
  obtain ⟨streams, limits, closed, h⟩ := abortStreams_shape
    { s with pendingCapsules := [], pendingDatagrams := [] }
  refine ⟨streams, limits, closed, ?_⟩
  simp only [tearDown, h]
  rfl

/-! ## Flushing -/

theorem flushBlockedStream_shape (s : Session) {stream : Stream} :
    ∃ streams sent queue blocked, (s.flushBlockedStream streamId stream).1 =
      { s with
        streams := streams
        dataSent := sent
        blockedStreamsQueue := queue
        blockedStreams := blocked } := by
  simp only [flushBlockedStream]
  split
  · exact ⟨_, _, _, _, rfl⟩
  · exact ⟨_, _, _, _, rfl⟩

theorem flushBlockedWritesLoop_shape : ∀ (count : Nat) (s : Session),
    ∃ streams sent queue blocked, (flushBlockedWritesLoop count s).1 =
      { s with
        streams := streams
        dataSent := sent
        blockedStreamsQueue := queue
        blockedStreams := blocked }
  | 0, _ => ⟨_, _, _, _, rfl⟩
  | count + 1, s => by
      simp only [flushBlockedWritesLoop]
      split
      · exact ⟨_, _, _, _, rfl⟩
      · split
        · exact ⟨_, _, _, _, rfl⟩
        · split
          · obtain ⟨_, _, _, _, h⟩ := flushBlockedWritesLoop_shape count _
            rw [h]
            exact ⟨_, _, _, _, rfl⟩
          · obtain ⟨_, _, _, _, h⟩ := flushBlockedWritesLoop_shape count _
            obtain ⟨_, _, _, _, h'⟩ := flushBlockedStream_shape _
            rw [h, h']
            exact ⟨_, _, _, _, rfl⟩

theorem flushBlockedWrites_shape :
    ∃ streams sent queue blocked last, s.flushBlockedWrites.1 =
      { s with
        streams := streams
        dataSent := sent
        blockedStreamsQueue := queue
        blockedStreams := blocked
        lastDataBlockedSent := last } := by
  simp only [flushBlockedWrites]
  split
  · exact ⟨_, _, _, _, _, rfl⟩
  · obtain ⟨_, _, _, _, h⟩ := flushBlockedWritesLoop_shape s.blockedStreamsQueue.length s
    obtain ⟨_, h'⟩ := emitDataBlocked_shape (flushBlockedWritesLoop s.blockedStreamsQueue.length s).1
    rw [h', h]
    exact ⟨_, _, _, _, _, rfl⟩

theorem flushBlockedStreamRequestsLoop_shape : ∀ (l : List RequestId) (s : Session),
    ∃ ob ou rb ru, (flushBlockedStreamRequestsLoop uni l s).1 =
      { s with
        localStreamsBidiOpened := ob
        localStreamsUniOpened := ou
        blockedStreamRequestsBidi := rb
        blockedStreamRequestsUni := ru }
  | [], s => by
      obtain ⟨_, _, h⟩ := s.setBlockedStreamRequests_shape uni []
      simp only [flushBlockedStreamRequestsLoop, h]
      exact ⟨_, _, _, _, rfl⟩
  | requestId :: rest, s => by
      simp only [flushBlockedStreamRequestsLoop]
      split
      · obtain ⟨_, _, ho⟩ := s.setLocalStreamsOpened_shape uni (s.localStreamsOpened uni + 1)
        obtain ⟨_, _, _, _, h⟩ := flushBlockedStreamRequestsLoop_shape rest
          (s.setLocalStreamsOpened uni (s.localStreamsOpened uni + 1))
        rw [h, ho]
        exact ⟨_, _, _, _, rfl⟩
      · obtain ⟨_, _, h⟩ := s.setBlockedStreamRequests_shape uni (requestId :: rest)
        rw [h]
        exact ⟨_, _, _, _, rfl⟩

theorem flushBlockedStreamRequests_shape (s : Session) :
    ∃ ob ou rb ru lb lu, (s.flushBlockedStreamRequests uni).1 =
      { s with
        localStreamsBidiOpened := ob
        localStreamsUniOpened := ou
        blockedStreamRequestsBidi := rb
        blockedStreamRequestsUni := ru
        lastStreamsBlockedBidiSent := lb
        lastStreamsBlockedUniSent := lu } := by
  obtain ⟨_, _, _, _, h⟩ :=
    flushBlockedStreamRequestsLoop_shape (s.blockedStreamRequests uni) s
  obtain ⟨_, _, h'⟩ := emitStreamsBlocked_shape
    (flushBlockedStreamRequestsLoop uni (s.blockedStreamRequests uni) s).1 uni
  simp only [flushBlockedStreamRequests]
  rw [h', h]
  exact ⟨_, _, _, _, _, _, rfl⟩

end Session

end PyWebTransport

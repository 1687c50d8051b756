/-
PyWebTransport.Protocol.Session.SendCredit — what a session sends against
the credit of its peer, and the streams that wait for more.

A stream that has data but no write in flight is blocked. `Funded` says of a
session that it never sends more than it may, that a blocked stream is
queued exactly once, and that no stream is blocked while credit is left. All
moves keep it. Raising the limit is the one that needs care: while the queue
is worked off, streams are blocked although there is credit, and only at the
end of the loop either the queue or the credit is used up
(`funded_flushBlockedWritesLoop`).
-/
import PyWebTransport.Protocol.Session.Lives
import PyWebTransport.Protocol.Session.RequestRuns

namespace PyWebTransport

open PyWebTransport.Lib

/-! ## The buffer of one stream -/

namespace Stream

variable {s : Stream} {call : ReceiveCall}

variable {credit : Nat} {data : Bytes} {requestId : RequestId} {endStream : Bool}

/-- Only a stream that may still send keeps data, and a finish is the last
thing it keeps. -/
structure Steady (s : Stream) : Prop where
  ready : s.writeBuffer ≠ [] → s.sendState = some .ready
  finishLast : ∀ entry ∈ s.writeBuffer.dropLast, entry.endStream = false

theorem steady_of_empty (h : s.writeBuffer = []) : s.Steady := by
  constructor <;> simp [h]

theorem steady_flushWrites (h : s.Steady) : (s.flushWrites credit).1.Steady := by
  rcases flushWrites_cases s credit with heq | ⟨entry, rest, -, hstate, hbuf, hcase⟩
  · rw [heq]
    exact h
  · have hlast := h.finishLast
    rw [hbuf] at hlast
    rcases hcase with ⟨-, heq⟩ | ⟨-, -, heq⟩ <;> rw [heq]
    · refine ⟨?_, ?_⟩
      · intro hne
        have hend : entry.endStream = false :=
          hlast entry (by rw [List.dropLast_cons_of_ne_nil hne]; exact List.mem_cons_self)
        simp [hend]
      · intro e he
        have hne : rest ≠ [] := by
          rintro rfl
          cases he
        exact hlast e (by rw [List.dropLast_cons_of_ne_nil hne]; exact List.mem_cons_of_mem _ he)
    · refine ⟨fun _ => hstate, ?_⟩
      intro e he
      cases rest with
      | nil => cases he
      | cons e' rest' =>
        rw [List.dropLast_cons_of_ne_nil (by simp)] at he hlast
        rcases List.mem_cons.mp he with rfl | he
        · exact hlast entry List.mem_cons_self
        · exact hlast e (List.mem_cons_of_mem _ he)

/-- Only without credit a flush leaves a stream blocked, and then for the
data at the front of its buffer. -/
theorem stuck_of_isBlocked_flushWrites (h : s.Steady)
    (hblocked : (s.flushWrites credit).1.isBlocked = true) :
    credit = 0 ∧ s.pendingWriteRequest = none ∧
      ∃ entry rest, s.writeBuffer = entry :: rest ∧ entry.data ≠ [] := by
  rcases flushWrites_cases s credit with heq |
    ⟨entry, rest, -, -, -, ⟨-, heq⟩ | ⟨-, -, heq⟩⟩
  · rw [heq] at hblocked
    simp only [isBlocked, Bool.and_eq_true, Option.isNone_iff_eq_none, Bool.not_eq_true',
      List.isEmpty_eq_false_iff] at hblocked
    obtain ⟨hidle, hbuffer⟩ := hblocked
    cases hentries : s.writeBuffer with
    | nil => exact absurd hentries hbuffer
    | cons entry rest =>
      -- a flush that does nothing although it may: the front has data and there is no credit
      have hstuck : entry.data ≠ [] ∧ credit = 0 := by
        by_contra hgo
        simp [flushWrites, hidle, h.ready hbuffer, hentries, List.length_pos_iff, hgo] at heq
      exact ⟨hstuck.2, hidle, entry, rest, rfl, hstuck.1⟩
  · rw [heq] at hblocked
    cases hblocked
  · rw [heq] at hblocked
    cases hblocked

theorem steady_enqueueWrite (h : s.Steady) (htakes : s.takesWrite data = true)
    (entry : WriteEntry) : (s.enqueueWrite entry).Steady := by
  simp only [takesWrite, Bool.and_eq_true, decide_eq_true_eq, Bool.not_eq_true'] at htakes
  refine ⟨fun _ => htakes.1.1, ?_⟩
  intro e he
  rw [enqueueWrite, List.dropLast_concat] at he
  exact endStream_of_not_isFinishPending h.finishLast htakes.1.2 he

theorem steady_detach (h : s.Steady) : { s with pendingWriteRequest := none }.Steady :=
  ⟨h.ready, h.finishLast⟩

/-- What the methods that write can do to the stream and the credit. -/
structure Writes (s : Stream) (credit : Nat) (result : Stream × List Effect × Nat) : Prop where
  steady : result.1.Steady
  within : result.2.2 ≤ credit
  blocked : result.1.isBlocked = true → credit = 0 ∨ s.isBlocked = true

theorem writes_completeWrite (h : s.Steady) : Writes s credit (s.completeWrite credit) := by
  unfold completeWrite
  split
  · exact ⟨h, Nat.zero_le _, Or.inr⟩
  · exact ⟨steady_flushWrites (steady_detach h), (flushWrites_sentData _ credit).2,
      fun hblocked => Or.inl (stuck_of_isBlocked_flushWrites (steady_detach h) hblocked).1⟩

theorem writes_write (h : s.Steady) :
    Writes s credit (s.write requestId data endStream credit) := by
  rcases s.write_cases requestId data endStream credit with ⟨htakes, heq⟩ | ⟨-, _, heq, -⟩ <;>
    rw [heq]
  · have hsteady := steady_enqueueWrite h htakes ⟨data, requestId, endStream⟩
    exact ⟨steady_flushWrites hsteady, (flushWrites_sentData _ credit).2,
      fun hblocked => Or.inl (stuck_of_isBlocked_flushWrites hsteady hblocked).1⟩
  · exact ⟨h, Nat.zero_le _, Or.inr⟩

/-- A call that does not write empties the buffer or leaves it as it is. -/
structure KeepsBuffer (s t : Stream) : Prop where
  buffer : t.writeBuffer = s.writeBuffer
  pending : t.pendingWriteRequest = s.pendingWriteRequest
  ready : s.sendState = some .ready → t.sendState = some .ready

theorem KeepsBuffer.refl (s : Stream) : KeepsBuffer s s := ⟨rfl, rfl, fun h => h⟩

theorem keepsBuffer_sendReset (s : Stream) (errorCode : Option ErrorCode) (http : ErrorCode) :
    (s.sendReset errorCode http).1.writeBuffer = [] ∨ KeepsBuffer s (s.sendReset errorCode http).1 := by
  unfold sendReset
  split
  · exact Or.inr (.refl s)
  · exact Or.inl rfl

theorem keepsBuffer_sendStop (s : Stream) (errorCode : Option ErrorCode) (http : ErrorCode) :
    KeepsBuffer s (s.sendStop errorCode http).1 := by
  unfold sendStop
  split
  · exact .refl s
  · exact ⟨rfl, rfl, fun h => h⟩

theorem keepsBuffer_read (s : Stream) {maxSize : Nat} :
    KeepsBuffer s (s.read requestId maxSize).1 := by
  unfold read
  split
  · exact .refl s
  · split
    · exact ⟨rfl, rfl, fun h => h⟩
    · exact .refl s
  · split
    · exact ⟨rfl, rfl, fun h => h⟩
    · exact .refl s
  · exact .refl s
  · exact .refl s

theorem keepsBuffer_recvData (s : Stream) : KeepsBuffer s (s.recvData data endStream).1 := by
  have hdelivered : KeepsBuffer s (s.deliverRead data endStream).1 := by
    unfold deliverRead
    split
    · exact .refl s
    · exact ⟨rfl, rfl, fun h => h⟩
  unfold recvData
  split
  · exact .refl s
  · dsimp only
    split
    · exact ⟨hdelivered.buffer, hdelivered.pending, hdelivered.ready⟩
    · exact hdelivered

/-- A call that neither writes nor gives up what is still to be sent. -/
theorem keepsBuffer_of_uncut (s : Stream) (hplain : call.isWriter = false)
    (huncut : call.cuts = false) : KeepsBuffer s (s.receive call).1 := by
  cases call with
  | read requestId maxSize => exact s.keepsBuffer_read
  | recvData data endStream => exact s.keepsBuffer_recvData
  | recvReset errorCode =>
    simp only [receive, recvReset]
    split
    · exact .refl s
    · exact ⟨rfl, rfl, fun h => h⟩
  | stop requestId errorCode =>
    simp only [receive, stop]
    split
    · exact .refl s
    · split
      · exact .refl s
      · exact s.keepsBuffer_sendStop _ _
  | send call =>
    cases call with
    | handleDataAcknowledged =>
      simp only [receive, send, handleDataAcknowledged]
      split
      · rename_i hsent
        exact ⟨rfl, rfl, fun h => by rw [hsent] at h; cases h⟩
      · exact .refl s
    | write | flushWrites | completeWrite => cases hplain
    | reset | recvStopSending | abort => cases huncut

theorem keepsBuffer_receive (s : Stream) (hplain : call.isWriter = false) :
    (s.receive call).1.writeBuffer = [] ∨ KeepsBuffer s (s.receive call).1 := by
  cases hcuts : call.cuts with
  | false => exact Or.inr (s.keepsBuffer_of_uncut hplain hcuts)
  | true =>
    unfold ReceiveCall.cuts at hcuts
    split at hcuts
    · simp only [receive, send, reset]
      split
      · exact Or.inr (.refl s)
      · split
        · exact Or.inr (.refl s)
        · exact s.keepsBuffer_sendReset _ _
    · simp only [receive, send, recvStopSending]
      split
      · exact Or.inr (.refl s)
      · exact s.keepsBuffer_sendReset _ _
    · rename_i errorCode
      have hstop := (s.sendReset (some errorCode) errorCode).1.keepsBuffer_sendStop
        (some errorCode) errorCode
      rcases s.keepsBuffer_sendReset (some errorCode) errorCode with hempty | hkeeps
      · exact Or.inl (hstop.buffer.trans hempty)
      · exact Or.inr ⟨hstop.buffer.trans hkeeps.buffer, hstop.pending.trans hkeeps.pending,
          fun h => hstop.ready (hkeeps.ready h)⟩
    · cases hcuts

theorem steady_receive (h : s.Steady) (hplain : call.isWriter = false) :
    (s.receive call).1.Steady := by
  rcases s.keepsBuffer_receive hplain with hempty | hkeeps
  · exact steady_of_empty hempty
  · constructor
    · rw [hkeeps.buffer]
      exact fun hne => hkeeps.ready (h.ready hne)
    · rw [hkeeps.buffer]
      exact h.finishLast

theorem isBlocked_receive (hplain : call.isWriter = false)
    (hblocked : (s.receive call).1.isBlocked = true) : s.isBlocked = true := by
  unfold isBlocked at hblocked ⊢
  rcases s.keepsBuffer_receive hplain with hempty | hkeeps
  · simp [hempty] at hblocked
  · rwa [hkeeps.buffer, hkeeps.pending] at hblocked

end Stream

/-! ## The credit of a session -/

namespace Session

variable {op : SessionOp} {s t : Session} {streamId : StreamId} {new stream : Stream}
  {limit : Nat} {effects : List Effect} {used : List StreamId}

variable {rest : List StreamId}

/-- What holds of the streams that wait for credit, whether or not there is
some: they are in the set and once in the queue. -/
structure Lined (s : Session) : Prop where
  steady : ∀ {k stream}, s.streams.get? k = some stream → stream.Steady
  listed : ∀ {k stream}, s.streams.get? k = some stream → stream.isBlocked = true →
    k ∈ s.blockedStreams
  queued : ∀ {k stream}, s.streams.get? k = some stream →
    s.blockedStreamsQueue.count k = if k ∈ s.blockedStreams then 1 else 0
  budget : s.flowControlNegotiated = true → s.dataSent ≤ s.peerMaxData

/-- No stream waits while credit is left. -/
def Spent (s : Session) : Prop :=
  ∀ k stream, s.streams.get? k = some stream → stream.isBlocked = true → s.sessionCredit = 0

structure Funded (s : Session) : Prop where
  lined : s.Lined
  spent : s.Spent

theorem sessionCredit_eq_zero_iff (s : Session) :
    s.sessionCredit = 0 ↔ s.flowControlNegotiated = true ∧ s.peerMaxData ≤ s.dataSent := by
  unfold sessionCredit
  split
  · rename_i hfc
    simp [hfc, saturatingSub, Nat.sub_eq_zero_iff_le]
  · rename_i hfc
    simp [hfc, u64Max]

theorem add_le_of_le_sessionCredit (h : s.Lined) {sent : Nat} (hsent : sent ≤ s.sessionCredit)
    (hfc : s.flowControlNegotiated = true) : s.dataSent + sent ≤ s.peerMaxData := by
  have hbudget := h.budget hfc
  simp only [sessionCredit, hfc, if_true, saturatingSub] at hsent
  omega

/-- Only these fields count. -/
structure SameAccount (s t : Session) : Prop where
  blockedStreams : t.blockedStreams = s.blockedStreams
  blockedStreamsQueue : t.blockedStreamsQueue = s.blockedStreamsQueue
  dataSent : t.dataSent = s.dataSent
  flowControlNegotiated : t.flowControlNegotiated = s.flowControlNegotiated
  peerMaxData : t.peerMaxData = s.peerMaxData
  streams : t.streams = s.streams

theorem SameCore.account (h : SameCore s t) : SameAccount s t :=
  ⟨h.blockedStreams, h.blockedStreamsQueue, h.dataSent, h.flowControlNegotiated, h.peerMaxData,
    h.streams⟩

theorem SameAccount.credit (h : SameAccount s t) : t.sessionCredit = s.sessionCredit := by
  unfold sessionCredit
  rw [h.flowControlNegotiated, h.peerMaxData, h.dataSent]

theorem Lined.same (hs : s.Lined) (h : SameAccount s t) : t.Lined where
  steady hget := hs.steady (h.streams ▸ hget)
  listed hget hblocked := by
    rw [h.blockedStreams]
    exact hs.listed (h.streams ▸ hget) hblocked
  queued hget := by
    rw [h.blockedStreams, h.blockedStreamsQueue]
    exact hs.queued (h.streams ▸ hget)
  budget hfc := by
    rw [h.dataSent, h.peerMaxData]
    exact hs.budget (h.flowControlNegotiated ▸ hfc)

theorem Funded.same (hs : s.Funded) (h : SameAccount s t) : t.Funded where
  lined := hs.lined.same h
  spent k stream hget hblocked := by
    rw [h.credit]
    exact hs.spent k stream (h.streams ▸ hget) hblocked

/-- One stream is put into the table or replaced. -/
theorem Lined.put (hs : s.Lined) (hstreams : t.streams = s.streams.insert streamId new)
    (hsteady : new.Steady) (hlisted : new.isBlocked = true → streamId ∈ t.blockedStreams)
    (hqueued : t.blockedStreamsQueue.count streamId = if streamId ∈ t.blockedStreams then 1 else 0)
    (hothers : ∀ k ≠ streamId, (k ∈ t.blockedStreams ↔ k ∈ s.blockedStreams) ∧
      t.blockedStreamsQueue.count k = s.blockedStreamsQueue.count k)
    (hbudget : t.flowControlNegotiated = true → t.dataSent ≤ t.peerMaxData) : t.Lined := by
  have hcases : ∀ {k stream}, t.streams.get? k = some stream →
      (k = streamId ∧ stream = new) ∨ (k ≠ streamId ∧ s.streams.get? k = some stream) := by
    intro k stream hget
    rw [hstreams, OrderedMap.get?_insert] at hget
    split at hget
    · rename_i heq
      cases hget
      exact Or.inl ⟨heq.symm, rfl⟩
    · rename_i hne
      exact Or.inr ⟨Ne.symm hne, hget⟩
  refine ⟨?_, ?_, ?_, hbudget⟩
  · intro k stream hget
    rcases hcases hget with ⟨-, rfl⟩ | ⟨-, hold⟩
    · exact hsteady
    · exact hs.steady hold
  · intro k stream hget hblocked
    rcases hcases hget with ⟨rfl, rfl⟩ | ⟨hne, hold⟩
    · exact hlisted hblocked
    · exact (hothers k hne).1.mpr (hs.listed hold hblocked)
  · intro k stream hget
    rcases hcases hget with ⟨rfl, -⟩ | ⟨hne, hold⟩
    · exact hqueued
    · obtain ⟨hmem, hcount⟩ := hothers k hne
      rw [hcount, hs.queued hold]
      simp only [hmem]

/-- A stream is replaced and nothing else changes. -/
theorem Funded.replace (hs : s.Funded) {old : Stream} (hold : s.streams.get? streamId = some old)
    (hsteady : new.Steady) (hblocked : new.isBlocked = true → old.isBlocked = true) :
    Funded { s with streams := s.streams.insert streamId new } where
  lined := hs.lined.put rfl hsteady (fun h => hs.lined.listed hold (hblocked h))
    (hs.lined.queued hold) (fun _ _ => ⟨Iff.rfl, rfl⟩) hs.lined.budget
  spent k stream hget hstream := by
    rw [OrderedMap.get?_insert] at hget
    split at hget
    · cases hget
      exact hs.spent streamId old hold (hblocked hstream)
    · exact hs.spent k stream hget hstream

/-! ## Writing -/

/-- Bytes within the credit leave no credit if there was none. -/
theorem sessionCredit_of_spent (h : s.sessionCredit = 0)
    (hfc : t.flowControlNegotiated = s.flowControlNegotiated) (hmax : t.peerMaxData = s.peerMaxData)
    (hsent : s.dataSent ≤ t.dataSent) : t.sessionCredit = 0 := by
  rw [sessionCredit_eq_zero_iff] at h ⊢
  rw [hfc, hmax]
  exact ⟨h.1, h.2.trans hsent⟩

theorem Funded.written {s : Session} (hs : s.Funded) {streamId : StreamId} {old : Stream}
    (hold : s.streams.get? streamId = some old) {result : Stream × List Effect × Nat}
    (hwrites : Stream.Writes old s.sessionCredit result) : (s.written streamId result).Funded := by
  have hbudget : s.flowControlNegotiated = true → s.dataSent + result.2.2 ≤ s.peerMaxData :=
    add_le_of_le_sessionCredit hs.lined hwrites.within
  have hlined : (s.written streamId result).Lined := by
    have hcount := hs.lined.queued hold
    unfold Session.written
    dsimp only
    split
    · rename_i hblocked
      simp only [Bool.and_eq_true, decide_eq_true_eq] at hblocked
      rw [if_neg hblocked.2] at hcount
      refine hs.lined.put rfl hwrites.steady (fun _ => Finset.mem_insert_self _ _) ?_ ?_ hbudget
      · rw [List.count_append, hcount, if_pos (Finset.mem_insert_self _ _)]
        simp
      · intro k hne
        refine ⟨by simp [hne], ?_⟩
        rw [List.count_append, List.count_singleton, if_neg (by simpa using Ne.symm hne)]
        rfl
    · rename_i hblocked
      refine hs.lined.put rfl hwrites.steady ?_ hcount (fun _ _ => ⟨Iff.rfl, rfl⟩) hbudget
      intro h
      simpa [h] using hblocked
  refine ⟨hlined, ?_⟩
  obtain ⟨_, _, hshape⟩ := s.written_shape result
  intro k stream hget hblocked
  have hspent : s.sessionCredit = 0 := by
    rw [hshape] at hget
    change (s.streams.insert streamId result.1).get? k = some stream at hget
    rw [OrderedMap.get?_insert] at hget
    split at hget
    · cases hget
      rcases hwrites.blocked hblocked with hzero | hbefore
      · exact hzero
      · exact hs.spent streamId old hold hbefore
    · exact hs.spent k stream hget hblocked
  rw [hshape]
  exact sessionCredit_of_spent hspent rfl rfl (Nat.le_add_right _ _)

/-! ## The flush -/

/-- A stream at the front of the queue is in it once. -/
theorem Lined.front (hs : s.Lined) (hqueue : s.blockedStreamsQueue = streamId :: rest)
    (hget : s.streams.get? streamId = some stream) :
    streamId ∈ s.blockedStreams ∧ rest.count streamId = 0 := by
  have hcount := hs.queued hget
  rw [hqueue, List.count_cons_self] at hcount
  split at hcount
  · rename_i hmem
    exact ⟨hmem, by omega⟩
  · cases hcount

theorem Lined.stale {s : Session} (hs : s.Lined) {streamId : StreamId} {rest : List StreamId}
    (hqueue : s.blockedStreamsQueue = streamId :: rest)
    (habsent : s.streams.get? streamId = none) : (s.popped streamId rest).Lined := by
  have hne : ∀ {k stream}, s.streams.get? k = some stream → k ≠ streamId := by
    rintro k stream hget rfl
    rw [habsent] at hget
    cases hget
  refine ⟨hs.steady, ?_, ?_, hs.budget⟩
  · intro k stream hget hblocked
    exact Finset.mem_erase.mpr ⟨hne hget, hs.listed hget hblocked⟩
  · intro k stream hget
    have hcount := hs.queued hget
    rw [hqueue, List.count_cons_of_ne (Ne.symm (hne hget))] at hcount
    change rest.count k = if k ∈ s.blockedStreams.erase streamId then 1 else 0
    simpa [Finset.mem_erase, hne hget] using hcount

theorem flushBlockedStream_of_credit (hsteady : stream.Steady) (hcredit : s.sessionCredit ≠ 0) :
    ((s.popped streamId rest).flushBlockedStream streamId stream).1 =
      { s.popped streamId rest with
        streams := s.streams.insert streamId (stream.flushWrites s.sessionCredit).1
        dataSent := s.dataSent + (stream.flushWrites s.sessionCredit).2.2 } := by
  have hfree : (stream.flushWrites s.sessionCredit).1.isBlocked = false := by
    rw [← Bool.not_eq_true]
    exact fun h => hcredit (Stream.stuck_of_isBlocked_flushWrites hsteady h).1
  have hsame : (s.popped streamId rest).sessionCredit = s.sessionCredit := rfl
  unfold flushBlockedStream
  simp only [hsame, hfree]
  rfl

/-- With credit a stream that is flushed leaves the queue for good. -/
theorem Lined.flush {s : Session} (hs : s.Lined) {streamId : StreamId} {rest : List StreamId}
    (hqueue : s.blockedStreamsQueue = streamId :: rest) {stream : Stream}
    (hget : s.streams.get? streamId = some stream) (hcredit : s.sessionCredit ≠ 0) :
    ((s.popped streamId rest).flushBlockedStream streamId stream).1.Lined ∧
      ((s.popped streamId rest).flushBlockedStream streamId stream).1.blockedStreamsQueue =
        rest := by
  have hsteady := hs.steady hget
  have hfree : (stream.flushWrites s.sessionCredit).1.isBlocked = false := by
    rw [← Bool.not_eq_true]
    exact fun h => hcredit (Stream.stuck_of_isBlocked_flushWrites hsteady h).1
  rw [flushBlockedStream_of_credit hsteady hcredit]
  refine ⟨hs.put rfl (Stream.steady_flushWrites hsteady) ?_ ?_ ?_ ?_, rfl⟩
  · rw [hfree]
    exact fun h => nomatch h
  · change rest.count streamId = if streamId ∈ s.blockedStreams.erase streamId then 1 else 0
    rw [(hs.front hqueue hget).2, if_neg (Finset.notMem_erase _ _)]
  · intro k hne
    change (k ∈ s.blockedStreams.erase streamId ↔ k ∈ s.blockedStreams) ∧
      rest.count k = s.blockedStreamsQueue.count k
    refine ⟨by simp [Finset.mem_erase, hne], ?_⟩
    rw [hqueue, List.count_cons_of_ne (Ne.symm hne)]
  · exact add_le_of_le_sessionCredit hs (Stream.flushWrites_sentData _ _).2

theorem Lined.putBack {s : Session} (hs : s.Lined) {streamId : StreamId} {rest : List StreamId}
    (hqueue : s.blockedStreamsQueue = streamId :: rest) :
    Lined { s with
      blockedStreamsQueue := streamId :: rest
      blockedStreams := insert streamId (s.blockedStreams.erase streamId) } := by
  refine ⟨hs.steady, ?_, ?_, hs.budget⟩
  · intro k stream hget hblocked
    have hmem := hs.listed hget hblocked
    by_cases hk : k = streamId <;> simp [hk, hmem]
  · intro k stream hget
    have hcount := hs.queued hget
    rw [hqueue] at hcount
    by_cases hk : k = streamId
    · subst hk
      rw [if_pos (hs.front hqueue hget).1] at hcount
      simpa using hcount
    · simpa [hk] using hcount

theorem Lined.funded_of_empty (hs : s.Lined) (hempty : s.blockedStreamsQueue = []) : s.Funded := by
  refine ⟨hs, ?_⟩
  intro k stream hget hblocked
  have hcount := hs.queued hget
  rw [hempty, if_pos (hs.listed hget hblocked)] at hcount
  cases hcount

/-- The loop that flushes blocked writes ends when the queue is worked off
or the credit is used up. -/
theorem funded_flushBlockedWritesLoop : ∀ (count : Nat) {s : Session}, s.Lined →
    s.blockedStreamsQueue.length ≤ count → (flushBlockedWritesLoop count s).1.Funded
  | 0, s, hs, hcount => by
      have hempty : s.blockedStreamsQueue = [] := List.eq_nil_of_length_eq_zero (by omega)
      exact hs.funded_of_empty hempty
  | count + 1, s, hs, hcount => by
      simp only [flushBlockedWritesLoop]
      split
      · rename_i hqueue
        exact hs.funded_of_empty hqueue
      · rename_i streamId rest hqueue
        rw [hqueue, List.length_cons] at hcount
        split
        · rename_i hspent
          refine ⟨hs.putBack hqueue, fun _ _ _ _ => hspent⟩
        · rename_i hcredit
          split
          · rename_i habsent
            have hrest := funded_flushBlockedWritesLoop count (hs.stale hqueue habsent)
              (Nat.le_of_succ_le_succ hcount)
            exact hrest
          · rename_i stream hget
            obtain ⟨hlined, hleft⟩ := hs.flush hqueue hget hcredit
            have hshort : ((s.popped streamId rest).flushBlockedStream streamId
                stream).1.blockedStreamsQueue.length ≤ count := by
              rw [hleft]
              exact Nat.le_of_succ_le_succ hcount
            exact funded_flushBlockedWritesLoop count hlined hshort

theorem Lined.raised (hs : s.Lined) (hmore : s.peerMaxData < limit) :
    Lined { s with peerMaxData := limit } :=
  ⟨hs.steady, hs.listed, hs.queued, fun hfc => (hs.budget hfc).trans (Nat.le_of_lt hmore)⟩

theorem Funded.maxDataRaised (hs : s.Funded) (hmore : s.peerMaxData < limit) :
    (s.maxDataRaised limit).1.Funded := by
  have hraised := hs.lined.raised hmore
  unfold Session.maxDataRaised
  dsimp only
  split
  · rename_i hfull
    refine ⟨hraised, fun _ _ _ _ => ?_⟩
    rw [sessionCredit_eq_zero_iff]
    simpa using hfull
  · exact funded_flushBlockedWritesLoop _ hraised (Nat.le_refl _)

/-! ## Moves -/

theorem Funded.removed (hs : s.Funded) (hstreams : t.streams = s.streams.erase streamId)
    (hblocked : t.blockedStreams = s.blockedStreams.erase streamId)
    (hqueue : t.blockedStreamsQueue = s.blockedStreamsQueue) (hsent : t.dataSent = s.dataSent)
    (hmax : t.peerMaxData = s.peerMaxData)
    (hfc : t.flowControlNegotiated = s.flowControlNegotiated) : t.Funded := by
  have hold : ∀ {k stream}, t.streams.get? k = some stream →
      k ≠ streamId ∧ s.streams.get? k = some stream := by
    intro k stream hget
    rw [hstreams] at hget
    exact OrderedMap.get?_erase_some hget
  refine ⟨⟨fun hget => hs.lined.steady (hold hget).2, ?_, ?_, ?_⟩, ?_⟩
  · intro k stream hget hstream
    rw [hblocked]
    exact Finset.mem_erase.mpr ⟨(hold hget).1, hs.lined.listed (hold hget).2 hstream⟩
  · intro k stream hget
    rw [hblocked, hqueue, hs.lined.queued (hold hget).2]
    simp [(hold hget).1]
  · rw [hfc, hsent, hmax]
    exact hs.lined.budget
  · intro k stream hget hstream
    have hspent := hs.spent k stream (hold hget).2 hstream
    exact sessionCredit_of_spent hspent hfc hmax (Nat.le_of_eq hsent.symm)

theorem Funded.move (hs : s.Funded) (h : Move op s effects t) : t.Funded := by
  cases h with
  | calm core => exact hs.same core.account
  | grantStreams uni => cases uni <;> exact hs.same ⟨rfl, rfl, rfl, rfl, rfl, rfl⟩
  | dataBlocked core | streamsBlocked core => exact hs.same core.account
  | accepted headers data requestId server waiting core | confirmed data named waiting core =>
    have hset : Funded { s with state := .connected } := hs.same ⟨rfl, rfl, rfl, rfl, rfl, rfl⟩
    exact hset.same core.account
  | method call present plain =>
    exact hs.replace present (Stream.steady_receive (hs.lined.steady present) plain)
      (Stream.isBlocked_receive plain)
  | @dropped streamId =>
    obtain ⟨_, _, hshape⟩ := s.dropped_shape
    rw [hshape]
    exact hs.removed rfl rfl rfl rfl rfl rfl
  | @written streamId stream result present named method =>
    have hsteady := hs.lined.steady present
    refine hs.written present ?_
    rcases method with rfl | ⟨requestId, data, endStream, rfl⟩
    · exact Stream.writes_completeWrite hsteady
    · exact Stream.writes_write hsteady
  | maxDataRaised limit established negotiated more => exact hs.maxDataRaised more
  | cleared gone empty core =>
    have hnone : ∀ {k stream}, t.streams.get? k = some stream → False := by
      intro k stream hget
      rw [core.streams] at hget
      exact nomatch (empty k).symm.trans hget
    refine ⟨⟨fun hget => (hnone hget).elim, fun hget => (hnone hget).elim,
      fun hget => (hnone hget).elim, ?_⟩, fun _ _ hget => (hnone hget).elim⟩
    rw [core.flowControlNegotiated, core.dataSent, core.peerMaxData]
    exact hs.lined.budget
  | _ => exact hs.same ⟨rfl, rfl, rfl, rfl, rfl, rfl⟩

/-- A new stream waits for nothing. -/
theorem Funded.added (hs : s.Funded) (hw : s.Within used) (hfresh : streamId ∉ used)
    (hempty : new.writeBuffer = []) (hstreams : t.streams = s.streams.insert streamId new)
    (hblocked : t.blockedStreams = s.blockedStreams)
    (hqueue : t.blockedStreamsQueue = s.blockedStreamsQueue) (hsent : t.dataSent = s.dataSent)
    (hmax : t.peerMaxData = s.peerMaxData)
    (hfc : t.flowControlNegotiated = s.flowControlNegotiated) : t.Funded := by
  have hidle : new.isBlocked = false := by simp [Stream.isBlocked, hempty]
  refine ⟨hs.lined.put hstreams (Stream.steady_of_empty hempty) ?_ ?_ ?_ ?_, ?_⟩
  · rw [hidle]
    exact fun h => nomatch h
  · have hunlisted : streamId ∉ s.blockedStreams := fun h => hfresh (hw.blocked streamId h)
    have hunqueued : streamId ∉ s.blockedStreamsQueue := fun h => hfresh (hw.queue streamId h)
    rw [hblocked, hqueue, List.count_eq_zero.mpr hunqueued, if_neg hunlisted]
  · exact fun k _ => ⟨by rw [hblocked], by rw [hqueue]⟩
  · rw [hfc, hsent, hmax]
    exact hs.lined.budget
  · intro k stream hget hstream
    rw [hstreams] at hget
    rcases OrderedMap.get?_insert_some hget with ⟨-, rfl⟩ | ⟨-, hold⟩
    · rw [hidle] at hstream
      cases hstream
    · exact sessionCredit_of_spent (hs.spent k stream hold hstream) hfc hmax
        (Nat.le_of_eq hsent.symm)

theorem Funded.opening {s t : Session} {used : List StreamId} {effects : List Effect}
    (hs : s.Funded) (hw : s.Within used) (h : Opening op s effects t)
    (hfresh : ∀ k ∈ op.adds, k ∉ used) : t.Funded := by
  cases h with
  | bound streamId requestId uni now named =>
    exact hs.added hw (hfresh streamId (by simp [named, SessionOp.adds])) rfl rfl rfl rfl rfl
      rfl rfl
  | @admitted streamId now direction named =>
    obtain ⟨_, _, hshape⟩ := s.admitted_shape
    rw [hshape]
    exact hs.added hw (hfresh streamId (by simp [named, SessionOp.adds])) rfl rfl rfl rfl rfl
      rfl rfl
  | @turnedAway _ streamId now direction =>
    obtain ⟨_, _, _, _, hshape⟩ := s.turnedAway_shape
    rw [hshape]
    exact hs.same ⟨rfl, rfl, rfl, rfl, rfl, rfl⟩

theorem Funded.outcome (hs : s.Funded) (hw : s.Within used) (h : Outcome op s effects t)
    (hfresh : ∀ k ∈ op.adds, k ∉ used) : t.Funded :=
  h.keeps (fun _ _ _ hmove hu => hu.move hmove) (fun _ _ hfirst => hs.opening hw hfirst hfresh)
    (fun _ _ _ _ _ hu => hu.same ⟨rfl, rfl, rfl, rfl, rfl, rfl⟩) hs

end Session

/-! ## Whole runs -/

namespace Life

/-- The callers give every stream id to a session once. -/
def GivesFresh (w : Life) (op : SessionOp) : Prop := ∀ k ∈ op.adds, k ∉ w.used

instance (w : Life) (op : SessionOp) : Decidable (w.GivesFresh op) :=
  inferInstanceAs (Decidable (∀ k ∈ op.adds, k ∉ w.used))

/-- What holds of a session that is given fresh ids. -/
structure Solvent (w : Life) : Prop where
  settled : w.session.Settled
  within : w.session.Within w.used
  funded : w.session.Funded

theorem Solvent.step {w : Life} (h : w.Solvent) {op : SessionOp} (hop : w.GivesFresh op) :
    (w.step op).Solvent := by
  have houtcome := Session.exec_outcome w.session h.settled op
  refine ⟨(Session.evolves_exec w.session op).settled h.settled, ?_, ?_⟩
  · exact (h.within.weaken fun _ hk => List.mem_append_right _ hk).outcome houtcome
      fun _ hk => List.mem_append_left _ hk
  · exact h.funded.outcome h.within houtcome hop

theorem solvent_start {id : SessionId} {path : String} {headers : Headers}
    (protocols : Option (List String)) {client : Bool} {parameters : SessionParameters}
    {createdAt : Timestamp} :
    Solvent (start (Session.new id path headers protocols client parameters createdAt)) where
  settled := Session.Settled.of_open rfl
  within := Session.within_new protocols
  funded :=
    { lined :=
        { steady := fun hget => nomatch hget
          listed := fun hget => nomatch hget
          queued := fun hget => nomatch hget
          budget := fun _ => Nat.zero_le _ }
      spent := fun _ _ hget => nomatch hget }

/-- In every run of a session that is given fresh stream ids: it never sends
more than its peer allows; a blocked stream may still send, is in the set and
exactly once in the queue, and the credit is used up; so with credit no
stream is blocked, and without flow control none ever is. -/
theorem send_credit_respected (id : SessionId) (path : String) (headers : Headers)
    (protocols : Option (List String)) (client : Bool) (parameters : SessionParameters)
    (createdAt : Timestamp) (w : Life) (hrun : Relation.ReflTransGen (Step GivesFresh)
      (start (Session.new id path headers protocols client parameters createdAt)) w) :
    (w.session.flowControlNegotiated = true → w.session.dataSent ≤ w.session.peerMaxData) ∧
    (∀ k stream, w.session.streams.get? k = some stream → stream.isBlocked = true →
      w.session.flowControlNegotiated = true ∧ stream.sendState = some .ready ∧
      k ∈ w.session.blockedStreams ∧ w.session.blockedStreamsQueue.count k = 1 ∧
      w.session.dataSent = w.session.peerMaxData) ∧
    (w.session.flowControlNegotiated = true → w.session.dataSent < w.session.peerMaxData →
      ∀ k stream, w.session.streams.get? k = some stream → stream.isBlocked = false) ∧
    (w.session.flowControlNegotiated = false →
      ∀ k stream, w.session.streams.get? k = some stream → stream.isBlocked = false) := by
  have h : w.Solvent := run_invariant (fun _ _ hw hop => hw.step hop)
    (solvent_start protocols) hrun
  have hblocked : ∀ k stream, w.session.streams.get? k = some stream → stream.isBlocked = true →
      w.session.flowControlNegotiated = true ∧ stream.sendState = some .ready ∧
      k ∈ w.session.blockedStreams ∧ w.session.blockedStreamsQueue.count k = 1 ∧
      w.session.dataSent = w.session.peerMaxData := by
    intro k stream hget hstream
    have hlined := h.funded.lined
    have hlisted := hlined.listed hget hstream
    obtain ⟨hfc, hfull⟩ :=
      w.session.sessionCredit_eq_zero_iff.mp (h.funded.spent k stream hget hstream)
    have hbuffer : stream.writeBuffer ≠ [] := by
      rintro hempty
      simp [Stream.isBlocked, hempty] at hstream
    refine ⟨hfc, (hlined.steady hget).ready hbuffer, hlisted, ?_,
      Nat.le_antisymm (hlined.budget hfc) hfull⟩
    rw [hlined.queued hget, if_pos hlisted]
  refine ⟨h.funded.lined.budget, hblocked, ?_, ?_⟩
  · intro _ hcredit k stream hget
    rw [← Bool.not_eq_true]
    intro hstream
    exact absurd (hblocked k stream hget hstream).2.2.2.2 (Nat.ne_of_lt hcredit)
  · intro hfc k stream hget
    rw [← Bool.not_eq_true]
    intro hstream
    rw [(hblocked k stream hget hstream).1] at hfc
    cases hfc

/-- A client with credit for two bytes writes three. -/
def overdrawn : Life :=
  (((start (Session.new 0 "/" [] none true
    { SessionRun.sampleParameters with flowControlNegotiated := true, peerMaxData := 2 } 0)).step
      (.bindStream 4 7 false 1)).step (.writeStream 4 8 [1, 2, 3] false)).step
        (.completeStreamWrite 4)

theorem overdrawn_run : Relation.ReflTransGen (Step GivesFresh)
    (start (Session.new 0 "/" [] none true
      { SessionRun.sampleParameters with flowControlNegotiated := true, peerMaxData := 2 } 0))
    overdrawn :=
  ((Relation.ReflTransGen.single ⟨.bindStream 4 7 false 1, by decide, rfl⟩).tail
    ⟨.writeStream 4 8 [1, 2, 3] false, by decide, rfl⟩).tail
      ⟨.completeStreamWrite 4, by decide, rfl⟩

theorem send_credit_respected_overdrawn :
    (overdrawn.session.streams.get? 4).map Stream.isBlocked = some true ∧
      overdrawn.session.dataSent ≤ overdrawn.session.peerMaxData ∧
      ∀ stream, overdrawn.session.streams.get? 4 = some stream → stream.isBlocked = true →
        overdrawn.session.blockedStreamsQueue.count 4 = 1 := by
  have h := send_credit_respected 0 "/" [] none true _ 0 overdrawn overdrawn_run
  exact ⟨by decide, h.1 rfl, fun stream hget hblocked => (h.2.1 4 stream hget hblocked).2.2.2.1⟩

end Life

end PyWebTransport

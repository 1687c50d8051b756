/-
PyWebTransport.Protocol.StreamTheorems — the requests one stream holds, and
what each of its methods does with them.

`Stream.waiting` lists the requests that wait in a stream: the queued
reads, the queued writes, and the write in flight. A write that was sent in
part sits in two places at once, in flight and at the front of the buffer;
it is listed once. `Stream.WF` is the invariant of the stream's queues, and
for every method there is one accounting lemma of the same shape: for each
request, what leaves with the effects plus what waits afterwards is what was
given plus what waited before. Counting one request at a time makes each of
these an equation between natural numbers.
-/
import PyWebTransport.Protocol.Stream
import Mathlib.Tactic

namespace PyWebTransport

namespace Stream

variable {s : Stream} {α : Type}

variable {buffer : List WriteEntry} {r requestId : RequestId} {entry : WriteEntry}
  {errorCode http : ErrorCode} {credit maxSize : Nat} {data : Bytes} {endStream : Bool}

/-! ## Waiting requests -/

/-- The write in flight, unless the front of the buffer continues it. -/
def inFlight (pending : Option RequestId) (buffer : List WriteEntry) : List RequestId :=
  pending.toList.filter (fun r => buffer.head?.all (fun entry => entry.requestId ≠ r))

def readIds (s : Stream) : List RequestId := s.pendingReadRequests.map Prod.fst

def bufferIds (s : Stream) : List RequestId := s.writeBuffer.map WriteEntry.requestId

def writeIds (s : Stream) : List RequestId :=
  inFlight s.pendingWriteRequest s.writeBuffer ++ s.bufferIds

def waiting (s : Stream) : List RequestId := s.readIds ++ s.writeIds

@[simp] theorem inFlight_none : inFlight none buffer = [] := rfl

@[simp] theorem inFlight_nil : inFlight (some r) [] = [r] := rfl

theorem inFlight_cons {rest : List WriteEntry} :
    inFlight (some r) (entry :: rest) = if entry.requestId = r then [] else [r] := by
  by_cases h : entry.requestId = r <;> simp [inFlight, h]

theorem inFlight_some : inFlight (some r) s.writeBuffer = if s.isWriteDetached r then [r] else [] :=
  List.filter_cons

/-- The invariant of a stream's queues. -/
structure WF (s : Stream) : Prop where
  bufferNodup : s.bufferIds.Nodup
  readsReceiving : s.receiveState ≠ some .receive → s.pendingReadRequests = []
  sentEmpty : s.sendState = some .dataSent → s.writeBuffer = []
  terminatedEmpty : s.isSendTerminated = true → s.writeBuffer = [] ∧ s.pendingWriteRequest = none
  finishLast : ∀ entry ∈ s.writeBuffer.dropLast, entry.endStream = false

theorem wf_new (id : StreamId) (sessionId : SessionId) (direction : StreamDirection)
    (peer : Bool) (parameters : StreamParameters) (createdAt : Timestamp) :
    (new id sessionId direction peer parameters createdAt).WF where
  bufferNodup := List.nodup_nil
  readsReceiving _ := rfl
  sentEmpty _ := rfl
  terminatedEmpty _ := ⟨rfl, rfl⟩
  finishLast := by simp [new]

@[simp] theorem waiting_new {id : StreamId} {sessionId : SessionId} {direction : StreamDirection}
    {peer : Bool} {parameters : StreamParameters} {createdAt : Timestamp} :
    (new id sessionId direction peer parameters createdAt).waiting = [] := rfl

/-- A closed stream holds no request. -/
theorem waiting_of_isClosed (h : s.WF) (hc : s.isClosed = true) : s.waiting = [] := by
  simp only [isClosed, Bool.and_eq_true] at hc
  obtain ⟨hbuf, hpend⟩ := h.terminatedEmpty hc.2
  have hreads : s.pendingReadRequests = [] := by
    apply h.readsReceiving
    intro hr
    simp [isReceiveTerminated, hr] at hc
  simp [waiting, readIds, writeIds, bufferIds, hbuf, hpend, hreads]

/-! ## Failing every request of a side -/

theorem subjects_failAborted (errorCode : Option ErrorCode) (l : List RequestId) :
    subjects (l.map (failAborted errorCode)) = l := by
  induction l with
  | nil => rfl
  | cons r rest ih => simpa [failAborted] using ih

theorem subjects_failAborted_map (errorCode : Option ErrorCode) (f : α → RequestId) (l : List α) :
    subjects (l.map (fun x => failAborted errorCode (f x))) = l.map f := by
  rw [← subjects_failAborted errorCode (l.map f), List.map_map]
  rfl

theorem subjects_done_map (result : RequestResult) (f : α → RequestId) (l : List α) :
    subjects (l.map (fun x => Effect.notifyRequestDone (f x) result)) = l.map f := by
  induction l with
  | nil => rfl
  | cons x rest ih => simpa using ih

/-! ## Reset and stop -/

theorem wf_sendReset (h : s.WF) {errorCode : Option ErrorCode} :
    (s.sendReset errorCode http).1.WF := by
  unfold sendReset
  split
  · exact h
  · exact ⟨List.nodup_nil, h.readsReceiving, fun _ => rfl, fun _ => ⟨rfl, rfl⟩, by simp⟩

theorem count_sendReset (errorCode : Option ErrorCode) (http : ErrorCode) (r : RequestId) :
    (subjects (s.sendReset errorCode http).2).count r + (s.sendReset errorCode http).1.waiting.count r
      = s.waiting.count r := by
  unfold sendReset
  split
  · simp
  · have hbuffer := subjects_failAborted_map errorCode WriteEntry.requestId s.writeBuffer
    have hreset : (Effect.resetQuicStream s.id http).subject = none := rfl
    have hflight : s.pendingWriteRequest.toList.filter s.isWriteDetached =
        inFlight s.pendingWriteRequest s.writeBuffer := rfl
    simp only [subjects_append, subjects_cons, subjects_nil, subjects_failAborted, hbuffer, hreset,
      hflight, waiting, readIds, writeIds, bufferIds, List.count_append]
    simp
    omega

theorem isSendTerminated_sendReset (s : Stream) {errorCode : Option ErrorCode} :
    (s.sendReset errorCode http).1.isSendTerminated = true := by
  unfold sendReset
  split
  · assumption
  · rfl

theorem wf_sendStop (h : s.WF) (errorCode : Option ErrorCode) (http : ErrorCode) :
    (s.sendStop errorCode http).1.WF := by
  unfold sendStop
  split
  · exact h
  · exact ⟨h.bufferNodup, fun _ => rfl, h.sentEmpty, h.terminatedEmpty, h.finishLast⟩

theorem count_sendStop (errorCode : Option ErrorCode) (http : ErrorCode) (r : RequestId) :
    (subjects (s.sendStop errorCode http).2).count r + (s.sendStop errorCode http).1.waiting.count r
      = s.waiting.count r := by
  unfold sendStop
  split
  · simp
  · have hreads := subjects_failAborted_map errorCode Prod.fst s.pendingReadRequests
    have hstop : subjects (if s.receiveState = some .receive
        then [Effect.stopQuicStream s.id http] else []) = [] := by
      split <;> rfl
    simp only [subjects_append, hreads, hstop]
    simp [waiting, readIds, writeIds, bufferIds]

theorem isReceiveTerminated_sendStop {errorCode : Option ErrorCode} :
    (s.sendStop errorCode http).1.isReceiveTerminated = true := by
  unfold sendStop
  split
  · assumption
  · rfl

theorem isSendTerminated_sendStop {errorCode : Option ErrorCode} :
    (s.sendStop errorCode http).1.isSendTerminated = s.isSendTerminated := by
  unfold sendStop
  split <;> rfl

theorem wf_abort (h : s.WF) : (s.abort errorCode).1.WF :=
  wf_sendStop (wf_sendReset h) _ _

theorem count_abort :
    (subjects (s.abort errorCode).2).count r + (s.abort errorCode).1.waiting.count r
      = s.waiting.count r := by
  have hreset := count_sendReset (s := s) (some errorCode) errorCode r
  have hstop := count_sendStop (s := (s.sendReset (some errorCode) errorCode).1) (some errorCode)
    errorCode r
  simp only [abort, subjects_append, List.count_append]
  omega

/-- Aborting closes a stream in any state. -/
theorem isClosed_abort : (s.abort errorCode).1.isClosed = true := by
  simp only [abort, isClosed, isReceiveTerminated_sendStop, isSendTerminated_sendStop,
    isSendTerminated_sendReset, Bool.and_self]

/-! ## Writing -/

/-- What `flushWrites` can do: nothing, or send the front of the buffer,
whole or as far as the credit reaches. -/
theorem flushWrites_cases (s : Stream) (credit : Nat) :
    s.flushWrites credit = (s, [], 0) ∨
    ∃ entry rest, s.pendingWriteRequest = none ∧ s.sendState = some .ready ∧
      s.writeBuffer = entry :: rest ∧
      ((entry.data.length ≤ credit ∧
        s.flushWrites credit =
          ({ s with
              writeBuffer := rest
              writeBufferSize := s.writeBufferSize - entry.data.length
              pendingWriteRequest := some entry.requestId
              sendState := some (if entry.endStream then .dataSent else .ready) },
            [.sendQuicData s.id entry.data entry.endStream], entry.data.length)) ∨
       (0 < credit ∧ credit < entry.data.length ∧
        s.flushWrites credit =
          ({ s with
              writeBuffer := { entry with data := entry.data.drop credit } :: rest
              writeBufferSize := s.writeBufferSize - credit
              pendingWriteRequest := some entry.requestId },
            [.sendQuicData s.id (entry.data.take credit) false], credit))) := by
  by_cases hready : s.pendingWriteRequest = none ∧ s.sendState = some .ready
  · obtain ⟨hpend, hstate⟩ := hready
    cases hbuf : s.writeBuffer with
    | nil => exact Or.inl (by simp [flushWrites, hpend, hstate, hbuf])
    | cons entry rest =>
      by_cases hfit : entry.data.length ≤ credit
      · refine Or.inr ⟨entry, rest, hpend, hstate, rfl, Or.inl ⟨hfit, ?_⟩⟩
        have hgo : ¬(entry.data.length > 0 ∧ credit = 0) := by omega
        simp only [flushWrites, hpend, hstate, hbuf, hgo, hfit]
        cases entry.endStream <;> simp
      · by_cases hzero : credit = 0
        · have hlen : entry.data.length > 0 ∧ credit = 0 := by omega
          exact Or.inl (by simp [flushWrites, hpend, hstate, hbuf, hlen])
        · refine Or.inr ⟨entry, rest, hpend, hstate, rfl, Or.inr ⟨by omega, by omega, ?_⟩⟩
          have hmin : min credit entry.data.length = credit := by omega
          simp [flushWrites, hpend, hstate, hbuf, hfit, hzero, hmin]
  · refine Or.inl ?_
    have : (s.pendingWriteRequest.isSome || decide (s.sendState ≠ some .ready)) = true := by
      cases hp : s.pendingWriteRequest <;> simp_all
    simp only [flushWrites, this, if_true]

theorem wf_flushWrites (h : s.WF) : (s.flushWrites credit).1.WF := by
  rcases flushWrites_cases s credit with heq | ⟨entry, rest, -, hstate, hbuf, hcase⟩
  · rw [heq]
    exact h
  · have hnodup := h.bufferNodup
    have hlast := h.finishLast
    simp only [bufferIds, hbuf, List.map_cons] at hnodup hlast
    rcases hcase with ⟨-, heq⟩ | ⟨-, -, heq⟩ <;> rw [heq]
    · refine ⟨(List.nodup_cons.mp hnodup).2, h.readsReceiving, ?_, ?_, ?_⟩
      · -- only an ending entry makes the stream `DataSent`, and nothing follows one
        intro hsent
        by_contra hne
        have hend : entry.endStream = false :=
          hlast entry (by rw [List.dropLast_cons_of_ne_nil hne]; exact List.mem_cons_self)
        simp [hend] at hsent
      · intro hterm
        cases hend : entry.endStream <;> simp [isSendTerminated, hend] at hterm
      · intro e he
        have hne : rest ≠ [] := by
          rintro rfl
          cases he
        exact hlast e (by rw [List.dropLast_cons_of_ne_nil hne]; exact List.mem_cons_of_mem _ he)
    · refine ⟨by simpa [bufferIds] using hnodup, h.readsReceiving, ?_, ?_, ?_⟩
      · intro hsent
        simp [hstate] at hsent
      · intro hterm
        simp [isSendTerminated, hstate] at hterm
      · intro e he
        cases rest with
        | nil => cases he
        | cons e' rest' =>
          rw [List.dropLast_cons_of_ne_nil (by simp)] at he hlast
          rcases List.mem_cons.mp he with rfl | he
          · exact hlast entry List.mem_cons_self
          · exact hlast e (List.mem_cons_of_mem _ he)

theorem count_flushWrites (h : s.WF) (credit : Nat) (r : RequestId) :
    (subjects (s.flushWrites credit).2.1).count r + (s.flushWrites credit).1.waiting.count r
      = s.waiting.count r := by
  rcases flushWrites_cases s credit with heq | ⟨entry, rest, hpend, -, hbuf, hcase⟩
  · simp [heq]
  · have hnodup := h.bufferNodup
    simp only [bufferIds, hbuf, List.map_cons, List.nodup_cons] at hnodup
    have hnone : ∀ data fin, (Effect.sendQuicData s.id data fin).subject = none := fun _ _ => rfl
    rcases hcase with ⟨-, heq⟩ | ⟨-, -, heq⟩ <;> rw [heq]
    · -- the whole entry is in flight, and the next one has another id
      have hflight : inFlight (some entry.requestId) rest = [entry.requestId] := by
        cases rest with
        | nil => rfl
        | cons e rest =>
          have hne : e.requestId ≠ entry.requestId := fun heq => hnodup.1 (by simp [heq])
          simp [inFlight_cons, hne]
      simp [waiting, readIds, writeIds, bufferIds, hpend, hbuf, hflight, hnone]
    · simp [waiting, readIds, writeIds, bufferIds, hpend, hbuf, inFlight_cons, hnone]

theorem wf_detach (h : s.WF) : { s with pendingWriteRequest := none }.WF :=
  ⟨h.bufferNodup, h.readsReceiving, h.sentEmpty,
    fun hterm => ⟨(h.terminatedEmpty hterm).1, rfl⟩, h.finishLast⟩

theorem wf_completeWrite (h : s.WF) : (s.completeWrite credit).1.WF := by
  unfold completeWrite
  split
  · exact h
  · exact wf_flushWrites (wf_detach h)

theorem count_completeWrite (h : s.WF) (credit : Nat) (r : RequestId) :
    (subjects (s.completeWrite credit).2.1).count r + (s.completeWrite credit).1.waiting.count r
      = s.waiting.count r := by
  unfold completeWrite
  split
  · simp
  · rename_i requestId hpend
    have hflush := count_flushWrites (wf_detach h) credit r
    have hdone : subjects (if s.isWriteDetached requestId
        then [Effect.notifyRequestDone requestId .none] else []) =
          inFlight s.pendingWriteRequest s.writeBuffer := by
      rw [hpend, inFlight_some]
      split <;> rfl
    have hsplit : s.waiting.count r = (inFlight s.pendingWriteRequest s.writeBuffer).count r +
        { s with pendingWriteRequest := none }.waiting.count r := by
      simp only [waiting, readIds, writeIds, bufferIds, inFlight_none, List.count_append,
        List.count_nil]
      omega
    simp only [subjects_append, hdone, List.count_append]
    omega

theorem endStream_of_not_isFinishPending
    (h : ∀ entry ∈ s.writeBuffer.dropLast, entry.endStream = false) (hf : s.isFinishPending = false)
    (he : entry ∈ s.writeBuffer) : entry.endStream = false := by
  rcases List.eq_nil_or_concat' s.writeBuffer with hnil | ⟨init, last, hlast⟩
  · rw [hnil] at he
    cases he
  · have hinit := h entry
    rw [hlast, List.dropLast_concat] at hinit
    rw [hlast, List.mem_append, List.mem_singleton] at he
    rcases he with he | rfl
    · exact hinit he
    · simpa [isFinishPending, hlast] using hf

theorem wf_enqueueWrite (h : s.WF) (hready : s.sendState = some .ready)
    (hf : s.isFinishPending = false) (entry : WriteEntry) (hfresh : entry.requestId ∉ s.bufferIds) :
    (s.enqueueWrite entry).WF where
  bufferNodup := by
    have hnodup := List.Nodup.concat hfresh h.bufferNodup
    simpa [bufferIds, enqueueWrite, List.concat_eq_append] using hnodup
  readsReceiving := h.readsReceiving
  sentEmpty hsent := by simp [enqueueWrite, hready] at hsent
  terminatedEmpty hterm := by simp [enqueueWrite, isSendTerminated, hready] at hterm
  finishLast e he := by
    rw [enqueueWrite, List.dropLast_concat] at he
    exact endStream_of_not_isFinishPending h.finishLast hf he

/-- A new entry goes to the end of the buffer: it continues the write in
flight only if it is the same request. -/
theorem inFlight_append {pending : Option RequestId} (hfresh : pending ≠ some entry.requestId) :
    inFlight pending (buffer ++ [entry]) = inFlight pending buffer := by
  cases pending with
  | none => rfl
  | some p =>
    have hne : entry.requestId ≠ p := by
      rintro rfl
      exact hfresh rfl
    cases buffer with
    | nil => simp [inFlight_cons, hne]
    | cons e rest => simp [inFlight_cons]

theorem count_enqueueWrite (entry : WriteEntry)
    (hfresh : s.pendingWriteRequest ≠ some entry.requestId) (r : RequestId) :
    (s.enqueueWrite entry).waiting.count r = [entry.requestId].count r + s.waiting.count r := by
  simp only [waiting, readIds, writeIds, bufferIds, enqueueWrite, inFlight_append hfresh,
    List.map_append, List.map_cons, List.map_nil, List.count_append]
  omega

theorem wf_write (h : s.WF) (hfresh : requestId ∉ s.waiting) :
    (s.write requestId data endStream credit).1.WF := by
  have hbuf : requestId ∉ s.bufferIds := fun hin => hfresh (by simp [waiting, writeIds, hin])
  unfold write
  split
  · exact h
  · split
    · split <;> exact h
    · split
      · exact h
      · rename_i hready _
        simp only [Bool.or_eq_true, decide_eq_true_eq, not_or, not_not, Bool.not_eq_true] at hready
        exact wf_flushWrites (wf_enqueueWrite h hready.1 hready.2 _ hbuf)

theorem count_write (h : s.WF) (hfresh : requestId ∉ s.waiting) (r : RequestId) :
    (subjects (s.write requestId data endStream credit).2.1).count r +
        (s.write requestId data endStream credit).1.waiting.count r
      = [requestId].count r + s.waiting.count r := by
  have hbuf : requestId ∉ s.bufferIds := fun hin => hfresh (by simp [waiting, writeIds, hin])
  have hpend : s.pendingWriteRequest ≠ some requestId := by
    intro hp
    -- in flight and waiting nowhere would mean that the front of the buffer continues it
    cases hb : s.writeBuffer with
    | nil => exact hfresh (by simp [waiting, writeIds, hp, hb])
    | cons e rest =>
      by_cases he : e.requestId = requestId
      · exact hbuf (by simp [bufferIds, hb, he])
      · exact hfresh (by simp [waiting, writeIds, hp, hb, inFlight_cons, he])
  unfold write
  split
  · simp [failInvalid]
  · split
    · split <;> simp [failInvalid]
    · split
      · simp [failInvalid]
      · rename_i hready _
        simp only [Bool.or_eq_true, decide_eq_true_eq, not_or, not_not, Bool.not_eq_true] at hready
        have hflush := count_flushWrites
          (wf_enqueueWrite h hready.1 hready.2 ⟨data, requestId, endStream⟩ hbuf) credit r
        rw [hflush, count_enqueueWrite _ hpend]

theorem wf_handleDataAcknowledged (h : s.WF) (hp : s.pendingWriteRequest = none) :
    s.handleDataAcknowledged.WF := by
  unfold handleDataAcknowledged
  split
  · rename_i hsent
    have hempty := h.sentEmpty hsent
    exact ⟨h.bufferNodup, h.readsReceiving, fun _ => hempty, fun _ => ⟨hempty, hp⟩, h.finishLast⟩
  · exact h

@[simp] theorem waiting_handleDataAcknowledged : s.handleDataAcknowledged.waiting = s.waiting := by
  unfold handleDataAcknowledged
  split <;> rfl

/-! ## Reading -/

/-- A change of the receiving side that keeps the reads and leaves none
outside `Receive` keeps the invariant. -/
theorem WF.setReceive (h : s.WF) (state : Option StreamReceiveState) (code : Option ErrorCode)
    (reads : List (RequestId × Nat)) (hreads : state ≠ some .receive → reads = []) :
    { s with receiveState := state, receiveErrorCode := code, pendingReadRequests := reads }.WF :=
  ⟨h.bufferNodup, hreads, h.sentEmpty, h.terminatedEmpty, h.finishLast⟩

theorem wf_read (h : s.WF) : (s.read requestId maxSize).1.WF := by
  unfold read
  split
  · exact h
  · rename_i hrecv
    split
    · exact h.setReceive s.receiveState s.receiveErrorCode _ (fun hne => absurd hrecv hne)
    · exact h
  · rename_i hrecv
    split
    · exact h.setReceive _ s.receiveErrorCode s.pendingReadRequests
        (fun _ => h.readsReceiving (by simp [hrecv]))
    · exact h
  · exact h
  · exact h

theorem count_read (r : RequestId) :
    (subjects (s.read requestId maxSize).2).count r + (s.read requestId maxSize).1.waiting.count r
      = [requestId].count r + s.waiting.count r := by
  have hask : ∀ c : Prop, [Decidable c] →
      subjects (if c then [Effect.receiveQuicData s.id maxSize] else []) = [] := by
    intro c _
    split <;> rfl
  unfold read
  split
  · simp [failInvalid]
  · split
    · simp only [hask, waiting, readIds, writeIds, bufferIds, List.map_append, List.map_cons,
        List.map_nil, List.count_append, List.count_nil]
      omega
    · simp
  · split <;> simp [waiting, readIds, writeIds, bufferIds]
  · simp
  · simp

/-- What `recvData` does to the waiting reads: the first takes the bytes and,
at the end of the stream, the others complete with none. -/
theorem count_recvData :
    (subjects (s.recvData data endStream).2).count r +
        (s.recvData data endStream).1.waiting.count r
      = s.waiting.count r := by
  have hask : ∀ reads : List (RequestId × Nat),
      subjects (reads.head?.toList.map (fun q => Effect.receiveQuicData s.id q.2)) = [] := by
    intro reads
    cases reads <;> rfl
  unfold recvData
  split
  · simp
  · cases hreads : s.pendingReadRequests with
    | nil =>
      split <;>
        simp [deliverRead, finishReads, hreads, waiting, readIds, writeIds, bufferIds]
    | cons q rest =>
      have hrest := subjects_done_map (.readData []) Prod.fst rest
      have hcons : (q.1 :: rest.map Prod.fst).count r =
          [q.1].count r + (rest.map Prod.fst).count r := by
        simp only [List.count_cons, List.count_nil]
        omega
      split
      · simp only [deliverRead, finishReads, hreads, hrest, subjects_append, subjects_cons,
          subject_done, subjects_nil, waiting, readIds, writeIds, bufferIds, List.map_nil,
          Option.toList_some, List.map_cons, List.count_append, List.count_nil]
        omega
      · simp only [deliverRead, hreads, hask, subjects_append, subjects_cons, subject_done,
          subjects_nil, waiting, readIds, writeIds, bufferIds, Option.toList_some,
          List.map_cons, List.count_append, List.count_nil]
        omega

theorem wf_recvData (h : s.WF) : (s.recvData data endStream).1.WF := by
  unfold recvData
  split
  · exact h
  · rename_i hrecv
    simp only [ne_eq, not_not] at hrecv
    have hdeliver : endStream = false → (s.deliverRead data endStream).1.WF := by
      rintro rfl
      unfold deliverRead
      split
      · exact h
      · exact h.setReceive _ s.receiveErrorCode _ (fun hne => absurd hrecv (by simpa using hne))
    split
    · have hfinish : ∀ t : Stream, t.writeBuffer = s.writeBuffer → t.sendState = s.sendState →
          t.pendingWriteRequest = s.pendingWriteRequest → t.finishReads.1.WF := by
        intro t hbuf hstate hpend
        exact ⟨by simpa [finishReads, bufferIds, hbuf] using h.bufferNodup, fun _ => rfl,
          by simpa [finishReads, hbuf, hstate] using h.sentEmpty,
          by simpa [finishReads, isSendTerminated, hbuf, hstate, hpend] using h.terminatedEmpty,
          by simpa [finishReads, hbuf] using h.finishLast⟩
      refine hfinish _ ?_ ?_ ?_ <;> (unfold deliverRead; split <;> rfl)
    · rename_i hend
      exact hdeliver (by simpa using hend)

theorem wf_recvReset (h : s.WF) : (s.recvReset errorCode).1.WF := by
  unfold recvReset
  split
  · exact h
  · exact h.setReceive _ _ _ (fun _ => rfl)

theorem count_recvReset :
    (subjects (s.recvReset errorCode).2).count r + (s.recvReset errorCode).1.waiting.count r
      = s.waiting.count r := by
  unfold recvReset
  split
  · simp
  · have hreads := subjects_failAborted_map (httpCodeToWebtransportCode errorCode) Prod.fst
      s.pendingReadRequests
    have hevent : ∀ code, (Effect.emitStreamEvent s.id .streamResetReceived none none none
        code).subject = none := fun _ => rfl
    simp only [subjects_append, subjects_cons, hreads, hevent]
    simp [waiting, readIds, writeIds, bufferIds]

theorem wf_recvStopSending (h : s.WF) : (s.recvStopSending errorCode).1.WF := by
  unfold recvStopSending
  split
  · exact h
  · exact wf_sendReset h

theorem count_recvStopSending :
    (subjects (s.recvStopSending errorCode).2).count r +
        (s.recvStopSending errorCode).1.waiting.count r
      = s.waiting.count r := by
  unfold recvStopSending
  split
  · simp
  · have hreset := count_sendReset (s := s) (httpCodeToWebtransportCode errorCode) errorCode r
    have hevent : ∀ code, (Effect.emitStreamEvent s.id .streamStopSendingReceived none none none
        code).subject = none := fun _ => rfl
    simpa [hevent] using hreset

/-! ## Resetting and stopping at the user's request -/

theorem wf_reset (h : s.WF) : (s.reset requestId errorCode).1.WF := by
  unfold reset
  split
  · exact h
  · split
    · exact h
    · exact wf_sendReset h

theorem count_reset (r : RequestId) :
    (subjects (s.reset requestId errorCode).2).count r +
        (s.reset requestId errorCode).1.waiting.count r
      = [requestId].count r + s.waiting.count r := by
  unfold reset
  split
  · simp [failInvalid]
  · split
    · simp
    · have hreset := count_sendReset (s := s) (some errorCode) (toHttpErrorCode errorCode) r
      simp only [subjects_append, subjects_cons, subject_done, subjects_nil, List.append_nil,
        Option.toList_some, List.count_append]
      omega

theorem wf_stop (h : s.WF) : (s.stop requestId errorCode).1.WF := by
  unfold stop
  split
  · exact h
  · split
    · exact h
    · exact wf_sendStop h _ _

theorem count_stop (r : RequestId) :
    (subjects (s.stop requestId errorCode).2).count r +
        (s.stop requestId errorCode).1.waiting.count r
      = [requestId].count r + s.waiting.count r := by
  unfold stop
  split
  · simp [failInvalid]
  · split
    · simp
    · have hstop := count_sendStop (s := s) (some errorCode) (toHttpErrorCode errorCode) r
      simp only [subjects_append, subjects_cons, subject_done, subjects_nil, List.append_nil,
        Option.toList_some, List.count_append]
      omega

end Stream

end PyWebTransport

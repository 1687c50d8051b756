/-
PyWebTransport.Protocol.Session.Accounting — where the requests of a
session wait, and the accounting law of every helper of a session.

`Session.waiting` lists the requests that wait inside a session: the two
queues of blocked stream requests, the datagram reads, and what the streams
hold. `Balanced` is the law: for every request, what leaves with the
effects plus what waits afterwards is what was given plus what waited
before. The law composes (`Balanced.trans`), so a method that calls helpers
one after another is balanced because its helpers are.

A change that touches no queue and no stream is balanced as soon as its
effects carry no request (`Balanced.same`); most helpers are of that kind.
-/
import PyWebTransport.Protocol.Session.Frame
import PyWebTransport.Protocol.StreamTheorems

namespace PyWebTransport

open PyWebTransport.Lib

namespace Session

variable {s t : Session} {streamId : StreamId} {u : Session} {given : List RequestId}
  {added : List StreamId} {effects more : List Effect} {result : Session × List Effect}
  {stream new : Stream}

variable {uni : Bool} {l : List RequestId}

/-! ## Waiting requests -/

def streamsWaiting (streams : OrderedMap StreamId Stream) : List RequestId :=
  streams.values.flatMap Stream.waiting

def waiting (s : Session) : List RequestId :=
  s.blockedStreamRequestsBidi ++ s.blockedStreamRequestsUni ++ s.pendingDatagramRequests ++
    streamsWaiting s.streams

theorem count_waiting (s : Session) (r : RequestId) :
    s.waiting.count r = s.blockedStreamRequestsBidi.count r + s.blockedStreamRequestsUni.count r +
      s.pendingDatagramRequests.count r + (streamsWaiting s.streams).count r := by
  simp [waiting]
  omega

/-- Every stream of the session keeps the invariant of its queues. -/
def StreamsWF (s : Session) : Prop :=
  ∀ streamId stream, s.streams.get? streamId = some stream → stream.WF

/-- The accounting law of a step of a session that is given the requests
`given` and may add the streams `added`. -/
structure Balanced (s : Session) (given : List RequestId) (added : List StreamId)
    (result : Session × List Effect) : Prop where
  wf : result.1.StreamsWF
  keys : ∀ k, s.streams.get? k = none → k ∉ added → result.1.streams.get? k = none
  count : ∀ r, (subjects result.2).count r + result.1.waiting.count r =
    given.count r + s.waiting.count r

theorem Balanced.trans {first second : List Effect} (h₁ : Balanced s given added (t, first))
    (h₂ : Balanced t [] [] (u, second)) : Balanced s given added (u, first ++ second) where
  wf := h₂.wf
  keys k hk hadded := h₂.keys k (h₁.keys k hk hadded) (by simp)
  count r := by
    have e₁ := h₁.count r
    have e₂ := h₂.count r
    simp only [subjects_append, List.count_append, List.count_nil] at e₁ e₂ ⊢
    omega

/-- The same queues and streams. -/
structure SameQueues (s t : Session) : Prop where
  bidi : t.blockedStreamRequestsBidi = s.blockedStreamRequestsBidi
  uni : t.blockedStreamRequestsUni = s.blockedStreamRequestsUni
  datagrams : t.pendingDatagramRequests = s.pendingDatagramRequests
  streams : t.streams = s.streams

theorem SameQueues.refl (s : Session) : SameQueues s s := ⟨rfl, rfl, rfl, rfl⟩

theorem SameQueues.waiting_eq (h : SameQueues s t) : t.waiting = s.waiting := by
  simp only [waiting, h.bidi, h.uni, h.datagrams, h.streams]

theorem SameQueues.streamsWF (h : SameQueues s t) (hs : s.StreamsWF) : t.StreamsWF := by
  intro k stream hk
  rw [h.streams] at hk
  exact hs k stream hk

theorem Balanced.same (hs : s.StreamsWF) (h : SameQueues s t)
    (he : ∀ r, (subjects effects).count r = given.count r) : Balanced s given [] (t, effects) where
  wf := h.streamsWF hs
  keys k hk _ := by rw [h.streams]; exact hk
  count r := by rw [h.waiting_eq, he]

/-- A session left as it was is balanced when the effects answer what was given. -/
theorem Balanced.unchanged (hs : s.StreamsWF) (he : subjects effects = given) :
    Balanced s given [] (s, effects) :=
  Balanced.same hs (SameQueues.refl s) (fun _ => by rw [he])

theorem Balanced.widen (h : Balanced s given [] result) (added : List StreamId) :
    Balanced s given added result :=
  ⟨h.wf, fun k hk _ => h.keys k hk (by simp), h.count⟩

/-- An effect that carries no request may be put in front. -/
theorem Balanced.cons {s t : Session} {given : List RequestId} {added : List StreamId}
    {effects : List Effect} {e : Effect} (h : Balanced s given added (t, effects))
    (he : e.subject = none) : Balanced s given added (t, e :: effects) where
  wf := h.wf
  keys := h.keys
  count r := by simpa [he] using h.count r

theorem Balanced.prepend (h : Balanced s given added (t, effects)) (hmore : subjects more = []) :
    Balanced s given added (t, more ++ effects) where
  wf := h.wf
  keys := h.keys
  count r := by simpa [hmore] using h.count r

/-- Effects of which one completes a request may follow. -/
theorem Balanced.append (h : Balanced s [] added (t, effects)) (hmore : subjects more = given) :
    Balanced s given added (t, effects ++ more) where
  wf := h.wf
  keys := h.keys
  count r := by
    have := h.count r
    simp only [subjects_append, hmore, List.count_append, List.count_nil] at this ⊢
    omega

/-- A step of the changed session, seen from a session with the same queues. -/
theorem Balanced.of_same (h : SameQueues s t) (hb : Balanced t given added result) :
    Balanced s given added result where
  wf := hb.wf
  keys k hk := hb.keys k (by rw [h.streams]; exact hk)
  count r := by rw [hb.count r, h.waiting_eq]

/-- A step may end in a session that differs in no queue and no stream. -/
theorem Balanced.to_same (hb : Balanced s given added (t, effects)) (h : SameQueues t u) :
    Balanced s given added (u, effects) where
  wf := h.streamsWF hb.wf
  keys k hk hadded := by rw [h.streams]; exact hb.keys k hk hadded
  count r := by rw [h.waiting_eq]; exact hb.count r

/-! ## Helpers that touch no queue -/

theorem subjects_varintCapsule (s : Session) (capsuleType value : Nat) :
    subjects (s.varintCapsule capsuleType value).toList = [] := by
  unfold varintCapsule
  cases writeVarint value <;> rfl

theorem subjects_suppressPendingStreamEvents :
    subjects (s.suppressPendingStreamEvents streamId effects) = subjects effects := by
  unfold suppressPendingStreamEvents
  split
  · induction effects with
    | nil => rfl
    | cons e rest ih => cases e <;> simpa [List.filter_cons, Effect.subject, Effect.completes,
        Effect.creates] using ih
  · rfl

section

variable (hs : s.StreamsWF)
include hs

theorem balanced_emitDataBlocked :
    Balanced s [] [] (s.emitDataBlocked.1, s.emitDataBlocked.2.toList) := by
  refine Balanced.same hs ?_ (fun r => ?_)
  · obtain ⟨_, h⟩ := s.emitDataBlocked_shape
    rw [h]
    exact ⟨rfl, rfl, rfl, rfl⟩
  · unfold emitDataBlocked
    split
    · rfl
    · split
      · simp [subjects_varintCapsule]
      · rfl

theorem balanced_emitStreamsBlocked :
    Balanced s [] [] ((s.emitStreamsBlocked uni).1, (s.emitStreamsBlocked uni).2.toList) := by
  refine Balanced.same hs ?_ (fun r => ?_)
  · obtain ⟨_, _, h⟩ := s.emitStreamsBlocked_shape uni
    rw [h]
    exact ⟨rfl, rfl, rfl, rfl⟩
  · simp only [emitStreamsBlocked]
    split
    · rfl
    · split
      · rfl
      · split
        · rfl
        · rename_i capsule hcapsule
          have := s.subjects_varintCapsule
            (if uni then wtCapsuleTypeStreamsBlockedUni else wtCapsuleTypeStreamsBlockedBidi)
            (s.peerMaxStreams uni)
          rw [hcapsule] at this
          rw [this]

theorem balanced_replenishDataCredit (force : Bool) :
    Balanced s [] [] ((s.replenishDataCredit force).1, (s.replenishDataCredit force).2.toList) := by
  rcases s.replenishDataCredit_cases force with h | ⟨value, -, -, -, -, h⟩ <;> rw [h]
  · exact Balanced.unchanged hs rfl
  · exact Balanced.same hs ⟨rfl, rfl, rfl, rfl⟩ (fun _ => rfl)

theorem balanced_replenishStreamsCredit {force : Bool} :
    Balanced s [] []
      ((s.replenishStreamsCredit uni force).1, (s.replenishStreamsCredit uni force).2.toList) := by
  rcases s.replenishStreamsCredit_cases uni force with h | ⟨value, -, -, -, -, h⟩
  · rw [h]
    exact Balanced.unchanged hs rfl
  · obtain ⟨_, _, hset⟩ := s.setLocalMaxStreams_shape uni
      (saturatingAdd (s.peerStreamsClosed uni) (s.initialMaxStreams uni))
    rw [h, hset]
    exact Balanced.same hs ⟨rfl, rfl, rfl, rfl⟩ (fun _ => rfl)

theorem balanced_closePeerStream (uni : Bool) : Balanced s [] [] (s.closePeerStream uni) := by
  obtain ⟨_, _, hset⟩ := s.setPeerStreamsClosed_shape uni (s.peerStreamsClosed uni + 1)
  have hsame : SameQueues s (s.setPeerStreamsClosed uni (s.peerStreamsClosed uni + 1)) := by
    rw [hset]
    exact ⟨rfl, rfl, rfl, rfl⟩
  exact (balanced_replenishStreamsCredit (hsame.streamsWF hs)).of_same hsame

/-! ## Replacing and removing a stream -/

theorem StreamsWF.insert (streamId : StreamId) (h : stream.WF) :
    { s with streams := s.streams.insert streamId stream }.StreamsWF := by
  intro k st hk
  rw [OrderedMap.get?_insert] at hk
  split at hk
  · cases hk
    exact h
  · exact hs k st hk

/-- A method of one stream that is balanced for the stream is balanced for
the session. -/
theorem balanced_insert {old : Stream} (hget : s.streams.get? streamId = some old) (hnew : new.WF)
    (hcount : ∀ r, (subjects effects).count r + new.waiting.count r =
      given.count r + old.waiting.count r) :
    Balanced s given [] ({ s with streams := s.streams.insert streamId new }, effects) where
  wf := hs.insert streamId hnew
  keys k hk _ := by
    have hne : streamId ≠ k := by
      rintro rfl
      rw [hget] at hk
      cases hk
    rw [OrderedMap.get?_insert_of_ne _ _ hne]
    exact hk
  count r := by
    have hstreams := s.streams.count_insert Stream.waiting hget new r
    have := hcount r
    simp only [count_waiting, streamsWaiting]
    omega

/-- A fresh stream holds no request. -/
theorem balanced_insert_new (hget : s.streams.get? streamId = none)
    (hnew : new.WF) (hempty : new.waiting = []) :
    Balanced s [] [streamId] ({ s with streams := s.streams.insert streamId new }, []) where
  wf := hs.insert streamId hnew
  keys k hk hadded := by
    have hne : streamId ≠ k := fun h => hadded (by simp [h])
    rw [OrderedMap.get?_insert_of_ne _ _ hne]
    exact hk
  count r := by
    have hstreams := s.streams.count_insert_new Stream.waiting hget new r
    rw [hempty] at hstreams
    simp only [count_waiting, streamsWaiting, subjects_nil, List.count_nil] at hstreams ⊢
    omega

/-- Dropping a closed stream loses nothing: it holds no request. -/
theorem balanced_handleClosed (streamId : StreamId) :
    Balanced s [] [] (s.handleClosed streamId) := by
  simp only [handleClosed]
  split
  · exact Balanced.unchanged hs rfl
  · rename_i hclosed
    simp only [Bool.not_eq_true', Bool.not_eq_false, Option.any_eq_true] at hclosed
    obtain ⟨stream, hget, hclosed⟩ := hclosed
    have hempty := Stream.waiting_of_isClosed (hs streamId stream hget) hclosed
    have hremoved : Balanced s [] []
        ({ s with
            streams := s.streams.erase streamId
            blockedStreams := s.blockedStreams.erase streamId },
          suppressPendingStreamEvents
            { s with
              streams := s.streams.erase streamId
              blockedStreams := s.blockedStreams.erase streamId } streamId
            [.emitStreamEvent streamId .streamClosed none none none none]) := by
      refine ⟨fun k st hk => ?_, fun k hk _ => ?_, fun r => ?_⟩
      · rw [OrderedMap.get?_erase] at hk
        split at hk
        · cases hk
        · exact hs k st hk
      · rw [OrderedMap.get?_erase]
        split
        · rfl
        · exact hk
      · have hstreams := s.streams.count_erase Stream.waiting hget r
        have hevent : subjects [Effect.emitStreamEvent streamId .streamClosed none none none none]
            = [] := rfl
        rw [hempty, List.count_nil] at hstreams
        simp only [subjects_suppressPendingStreamEvents, hevent, count_waiting, streamsWaiting,
          List.count_nil]
        omega
    split
    · exact hremoved.trans (balanced_closePeerStream hremoved.wf _)
    · exact hremoved

end

/-! ## Tearing down -/

theorem subjects_map_failAborted : subjects (l.map failAborted) = l := by
  induction l with
  | nil => rfl
  | cons r rest ih => simpa [failAborted] using ih

theorem balanced_abortStream (hs : s.StreamsWF) (streamId : StreamId) :
    Balanced s [] [] (s.abortStream streamId) := by
  unfold abortStream
  split
  · exact Balanced.unchanged hs rfl
  · rename_i stream hget
    refine balanced_insert hs hget (Stream.wf_abort (hs streamId stream hget)) (fun r => ?_)
    rw [subjects_suppressPendingStreamEvents, Stream.count_abort, List.count_nil, Nat.zero_add]

theorem balanced_abortStreamsLoop : ∀ (ids : List StreamId) {s : Session}, s.StreamsWF →
    Balanced s [] [] (abortStreamsLoop ids s)
  | [], s, hs => Balanced.unchanged hs rfl
  | streamId :: rest, s, hs => by
      have haborted := balanced_abortStream hs streamId
      have hclosed := balanced_handleClosed haborted.wf streamId
      exact (haborted.trans hclosed).trans (balanced_abortStreamsLoop rest hclosed.wf)

/-- An aborted stream is closed, so the round that aborts it also drops it. -/
theorem get?_handleClosed_abortStream {k : StreamId} :
    ((s.abortStream streamId).1.handleClosed streamId).1.streams.get? k =
      if streamId = k then none else s.streams.get? k := by
  have herase : ∀ t : Session, (t.streams.get? streamId).any Stream.isClosed = true →
      (t.handleClosed streamId).1.streams = t.streams.erase streamId := by
    intro t hclosed
    simp only [handleClosed, hclosed, Bool.not_true, Bool.false_eq_true, if_false]
    split
    · obtain ⟨_, _, h⟩ := closePeerStream_shape
        { t with
          streams := t.streams.erase streamId
          blockedStreams := t.blockedStreams.erase streamId } (isUnidirectionalStream streamId)
      rw [h]
      rfl
    · rfl
  unfold abortStream
  split
  · rename_i hnone
    have : (s.handleClosed streamId).1 = s := by
      simp [handleClosed, hnone]
    rw [this]
    split
    · rename_i heq
      rw [← heq, hnone]
    · rfl
  · rename_i stream hget
    rw [herase _ (by simp [Stream.isClosed_abort]), OrderedMap.get?_erase]
    split
    · rfl
    · rename_i hne
      exact OrderedMap.get?_insert_of_ne _ _ hne

theorem get?_abortStreamsLoop : ∀ (ids : List StreamId) (s : Session) (k : StreamId),
    (abortStreamsLoop ids s).1.streams.get? k = if k ∈ ids then none else s.streams.get? k
  | [], s, k => by simp [abortStreamsLoop]
  | streamId :: rest, s, k => by
      simp only [abortStreamsLoop, get?_abortStreamsLoop rest, get?_handleClosed_abortStream,
        List.mem_cons]
      by_cases hrest : k ∈ rest
      · simp [hrest]
      · by_cases hk : streamId = k
        · simp [hk]
        · simp [hrest, hk, Ne.symm hk]

/-- The loop over all streams leaves none. -/
theorem get?_abortStreamsLoop_keys (k : StreamId) :
    (abortStreamsLoop s.streams.keys s).1.streams.get? k = none := by
  rw [get?_abortStreamsLoop]
  split
  · rfl
  · rename_i hk
    cases hget : s.streams.get? k with
    | none => rfl
    | some stream => exact absurd ((s.streams.mem_keys k).mpr ⟨stream, hget⟩) hk

theorem balanced_abortStreams (hs : s.StreamsWF) : Balanced s [] [] s.abortStreams := by
  have hloop := balanced_abortStreamsLoop s.streams.keys hs
  refine ⟨hloop.wf, hloop.keys, fun r => ?_⟩
  have hcount := hloop.count r
  simp only [abortStreams, subjects_append, subjects_map_failAborted, List.count_append,
    List.count_nil, count_waiting] at hcount ⊢
  omega

/-- Nothing waits: no stream is left and every queue is empty. -/
structure Emptied (s : Session) : Prop where
  streams : ∀ k, s.streams.get? k = none
  bidi : s.blockedStreamRequestsBidi = []
  uni : s.blockedStreamRequestsUni = []
  datagrams : s.pendingDatagramRequests = []

theorem balanced_tearDown (hs : s.StreamsWF) : Balanced s [] [] s.tearDown := by
  have hsame : SameQueues s { s with pendingCapsules := [], pendingDatagrams := [] } :=
    ⟨rfl, rfl, rfl, rfl⟩
  have haborted := (balanced_abortStreams (hsame.streamsWF hs)).of_same hsame
  refine ⟨haborted.wf, haborted.keys, fun r => ?_⟩
  have hcount := haborted.count r
  simp only [tearDown, subjects_append, subjects_map_failAborted, List.count_append,
    List.count_nil, count_waiting] at hcount ⊢
  omega

theorem emptied_tearDown : s.tearDown.1.Emptied where
  streams := get?_abortStreamsLoop_keys
  bidi := rfl
  uni := rfl
  datagrams := rfl

/-! ## Flushing -/

theorem balanced_flushBlockedStream (hs : s.StreamsWF)
    (hget : s.streams.get? streamId = some stream) :
    Balanced s [] [] (s.flushBlockedStream streamId stream) := by
  have hwf := hs streamId stream hget
  have hinsert : Balanced s [] []
      ({ s with streams := s.streams.insert streamId (stream.flushWrites s.sessionCredit).1 },
        (stream.flushWrites s.sessionCredit).2.1) :=
    balanced_insert hs hget (Stream.wf_flushWrites hwf) (fun r => by
      rw [Stream.count_flushWrites hwf, List.count_nil, Nat.zero_add])
  simp only [flushBlockedStream]
  split
  · exact hinsert.to_same ⟨rfl, rfl, rfl, rfl⟩
  · exact hinsert.to_same ⟨rfl, rfl, rfl, rfl⟩

theorem balanced_flushBlockedWritesLoop : ∀ (count : Nat) {s : Session}, s.StreamsWF →
    Balanced s [] [] (flushBlockedWritesLoop count s)
  | 0, s, hs => Balanced.unchanged hs rfl
  | count + 1, s, hs => by
      simp only [flushBlockedWritesLoop]
      split
      · exact Balanced.unchanged hs rfl
      · rename_i streamId rest _
        have hpopped : SameQueues s
            { s with
              blockedStreamsQueue := rest
              blockedStreams := s.blockedStreams.erase streamId } := ⟨rfl, rfl, rfl, rfl⟩
        split
        · exact Balanced.same hs ⟨rfl, rfl, rfl, rfl⟩ (fun _ => rfl)
        · split
          · exact (balanced_flushBlockedWritesLoop count (hpopped.streamsWF hs)).of_same hpopped
          · rename_i stream hget
            have hflushed := balanced_flushBlockedStream (hpopped.streamsWF hs) hget
            exact (hflushed.trans (balanced_flushBlockedWritesLoop count hflushed.wf)).of_same
              hpopped

theorem balanced_flushBlockedWrites (hs : s.StreamsWF) : Balanced s [] [] s.flushBlockedWrites := by
  simp only [flushBlockedWrites]
  split
  · exact Balanced.unchanged hs rfl
  · have hloop := balanced_flushBlockedWritesLoop s.blockedStreamsQueue.length hs
    exact hloop.trans (balanced_emitDataBlocked hloop.wf)

/-- The requests of a direction that waits, counted apart from the rest. -/
theorem count_waiting_setBlocked (s : Session) (uni : Bool) (l : List RequestId) (r : RequestId) :
    (s.setBlockedStreamRequests uni l).waiting.count r + (s.blockedStreamRequests uni).count r =
      l.count r + s.waiting.count r := by
  cases uni <;> simp only [setBlockedStreamRequests, blockedStreamRequests, count_waiting,
    if_true, Bool.false_eq_true, if_false] <;> omega

theorem sameQueues_setLocalStreamsOpened (s : Session) (uni : Bool) (n : Nat) :
    SameQueues s (s.setLocalStreamsOpened uni n) := by
  obtain ⟨_, _, h⟩ := s.setLocalStreamsOpened_shape uni n
  rw [h]
  exact ⟨rfl, rfl, rfl, rfl⟩

theorem streams_setBlockedStreamRequests :
    (s.setBlockedStreamRequests uni l).streams = s.streams := by
  cases uni <;> rfl

@[simp] theorem blockedStreamRequests_setLocalStreamsOpened {uni' : Bool} {n : Nat} :
    (s.setLocalStreamsOpened uni n).blockedStreamRequests uni' =
      s.blockedStreamRequests uni' := by
  cases uni <;> rfl

/-- The loop moves `l`, the requests that wait, to the effects or back to the queue. -/
theorem count_flushBlockedStreamRequestsLoop (uni : Bool) : ∀ (l : List RequestId) (s : Session)
    (r : RequestId),
    (subjects (flushBlockedStreamRequestsLoop uni l s).2).count r +
        (flushBlockedStreamRequestsLoop uni l s).1.waiting.count r +
        (s.blockedStreamRequests uni).count r
      = l.count r + s.waiting.count r
  | [], s, r => by
      have := s.count_waiting_setBlocked uni [] r
      simp only [flushBlockedStreamRequestsLoop, subjects_nil, List.count_nil] at this ⊢
      omega
  | requestId :: rest, s, r => by
      simp only [flushBlockedStreamRequestsLoop]
      split
      · have ih := count_flushBlockedStreamRequestsLoop uni rest
          (s.setLocalStreamsOpened uni (s.localStreamsOpened uni + 1)) r
        rw [(s.sameQueues_setLocalStreamsOpened uni _).waiting_eq] at ih
        simp only [blockedStreamRequests_setLocalStreamsOpened, subjects_cons,
          subject_createQuicStream, Option.toList_some, List.singleton_append,
          List.count_cons] at ih ⊢
        omega
      · have := s.count_waiting_setBlocked uni (requestId :: rest) r
        simp only [subjects_nil, List.count_nil]
        omega

theorem balanced_flushBlockedStreamRequests (hs : s.StreamsWF) :
    Balanced s [] [] (s.flushBlockedStreamRequests uni) := by
  obtain ⟨_, _, _, _, h⟩ :=
    flushBlockedStreamRequestsLoop_shape (s.blockedStreamRequests uni) s
  have hstreams : (flushBlockedStreamRequestsLoop uni (s.blockedStreamRequests uni) s).1.streams =
      s.streams := by rw [h]
  have hloop : Balanced s [] []
      (flushBlockedStreamRequestsLoop uni (s.blockedStreamRequests uni) s) := by
    refine ⟨fun k st hk => hs k st (by rw [← hstreams]; exact hk), fun k hk _ => ?_, fun r => ?_⟩
    · rw [hstreams]
      exact hk
    · have := count_flushBlockedStreamRequestsLoop uni (s.blockedStreamRequests uni) s r
      rw [List.count_nil]
      omega
  exact hloop.trans (balanced_emitStreamsBlocked hloop.wf)

end Session

end PyWebTransport

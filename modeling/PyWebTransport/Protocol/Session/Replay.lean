/-
PyWebTransport.Protocol.Session.Replay — what the replay of a session's
queues achieves.

`CompleteReplay` states what the replay is for: every queued capsule has
been received in order, the queued datagrams have gone to the waiting reads,
and every queued stream that is still there has been announced once. The
first loop of the replay stops as soon as a capsule takes the session out of
`Connected`; a DRAIN_SESSION capsule does that without ending the session.
So the replay is complete exactly when no queued DRAIN_SESSION leaves
something behind it (`ReplaySafe`).
-/
import PyWebTransport.Protocol.Session.RequestRuns

namespace PyWebTransport

open PyWebTransport.Lib

namespace Session

variable {s : Session} {t : Session} {streamId : StreamId} {capsuleType : Nat}
  {announced : List Effect} {capsules : Session × List Effect × Bool}
  {first rest : List (Nat × Bytes)} {value : Bytes}

variable {uni : Bool} {errorCode : ErrorCode} {reason : String} {now : Timestamp}
  {capsuleValue : Bytes} {protocol : Option String}

/-! ## The purpose of the replay -/

/-- Receive capsules one after another, whatever they do to the session. -/
def processCapsules (now : Timestamp) : List (Nat × Bytes) → Session → Session × List Effect
  | [], s => (s, [])
  | capsule :: rest, s =>
    let received := { s with pendingCapsules := rest }.recvCapsule capsule.1 capsule.2 now
    let others := processCapsules now rest received.1
    (others.1, received.2 ++ others.2)

/-- The datagram reads that find a queued datagram, each with its own. -/
def handedDatagrams (requests : List RequestId) (datagrams : List Bytes) : List Effect :=
  List.zipWith (fun requestId data => .notifyRequestDone requestId (.datagram data))
    requests datagrams

/-- The announcement of a peer stream. -/
def isOpenedEvent : Effect → Bool
  | .emitStreamEvent _ .streamOpened _ _ _ _ => true
  | _ => false

/-- The session at the moment it becomes `Connected`. -/
def established (s : Session) (protocol : Option String) (now : Timestamp) : Session :=
  { s with readyAt := some now, wtProtocol := protocol, state := .connected }

/-- What is owed to `s`, a session about to become `Connected`: `result` is
the session afterwards and all effects of establishing it. -/
structure CompleteReplay (s : Session) (protocol : Option String) (now : Timestamp)
    (result : Session × List Effect) : Prop where
  noCapsules : result.1.pendingCapsules = []
  noStreams : result.1.pendingStreams = []
  openedOnce : ∀ k ∈ s.pendingStreams, result.1.hasStream k = true →
    result.2.count (s.openedEvent k) = 1
  notBoth : result.1.pendingDatagrams = [] ∨ result.1.pendingDatagramRequests = []
  inOrder : ∃ announced,
    result.2 = announced ++
      (processCapsules now s.pendingCapsules (s.established protocol now)).2 ++
      handedDatagrams s.pendingDatagramRequests s.pendingDatagrams ++
      (s.pendingStreams.filter result.1.hasStream).map s.openedEvent ∧
    result.1 =
      { (processCapsules now s.pendingCapsules (s.established protocol now)).1 with
        pendingStreams := []
        pendingDatagrams := s.pendingDatagrams.drop s.pendingDatagramRequests.length
        pendingDatagramRequests :=
          s.pendingDatagramRequests.drop s.pendingDatagrams.length }

/-- Nothing is queued behind the first DRAIN_SESSION capsule: no capsule, no
stream, and no datagram that a read waits for. -/
def ReplaySafe (s : Session) : Prop :=
  (∀ capsule ∈ s.pendingCapsules, capsule.1 ≠ wtCapsuleTypeDrainSession) ∨
  ((∀ capsule ∈ s.pendingCapsules.dropLast, capsule.1 ≠ wtCapsuleTypeDrainSession) ∧
    s.pendingStreams = [] ∧ (s.pendingDatagrams = [] ∨ s.pendingDatagramRequests = []))

/-! ## One capsule -/

/-- What the later loops of the replay look at is as it was. -/
structure SamePending (s t : Session) : Prop where
  id : t.id = s.id
  isClient : t.isClient = s.isClient
  pendingCapsules : t.pendingCapsules = s.pendingCapsules
  pendingStreams : t.pendingStreams = s.pendingStreams
  pendingDatagrams : t.pendingDatagrams = s.pendingDatagrams
  pendingDatagramRequests : t.pendingDatagramRequests = s.pendingDatagramRequests
  hasStream : ∀ k, t.hasStream k = s.hasStream k

theorem SamePending.refl (s : Session) : SamePending s s :=
  ⟨rfl, rfl, rfl, rfl, rfl, rfl, fun _ => rfl⟩

theorem SamePending.openedEvent (h : SamePending s t) : t.openedEvent = s.openedEvent := by
  funext k
  simp only [Session.openedEvent, h.id, h.isClient]

/-- No stream is announced. -/
def Silent (effects : List Effect) : Prop := ∀ e ∈ effects, isOpenedEvent e = false

theorem silent_nil : Silent [] := by simp [Silent]

theorem Silent.append {a b : List Effect} (ha : Silent a) (hb : Silent b) : Silent (a ++ b) := by
  exact List.forall_mem_append.mpr ⟨ha, hb⟩

theorem Silent.cons {e : Effect} {l : List Effect} (he : isOpenedEvent e = false)
    (hl : Silent l) : Silent (e :: l) := by
  intro x hx
  rcases List.mem_cons.mp hx with rfl | h
  · exact he
  · exact hl x h

theorem silent_varintCapsule (s : Session) (capsuleType value : Nat) :
    Silent (s.varintCapsule capsuleType value).toList := by
  unfold varintCapsule
  cases writeVarint value <;> simp [Silent, isOpenedEvent]

theorem silent_emitDataBlocked : Silent s.emitDataBlocked.2.toList := by
  unfold emitDataBlocked
  split
  · exact silent_nil
  · split
    · exact s.silent_varintCapsule _ _
    · exact silent_nil

theorem silent_emitStreamsBlocked : Silent (s.emitStreamsBlocked uni).2.toList := by
  simp only [emitStreamsBlocked]
  split
  · exact silent_nil
  · split
    · exact silent_nil
    · split
      · exact silent_nil
      · rename_i capsule hcapsule
        have := s.silent_varintCapsule
          (if uni then wtCapsuleTypeStreamsBlockedUni else wtCapsuleTypeStreamsBlockedBidi)
          (s.peerMaxStreams uni)
        rw [hcapsule] at this
        exact this

theorem silent_flushWrites (stream : Stream) (credit : Nat) :
    Silent (stream.flushWrites credit).2.1 := by
  rcases stream.flushWrites_cases credit with h | ⟨_, _, -, -, -, ⟨-, h⟩ | ⟨-, -, h⟩⟩ <;> rw [h]
  · exact silent_nil
  · exact silent_nil.cons rfl
  · exact silent_nil.cons rfl

/-- Storing a stream that is there already changes no key. -/
theorem contains_insert_of_get? {streams : OrderedMap StreamId Stream} {old : Stream}
    (hget : streams.get? streamId = some old) (new : Stream) (k : StreamId) :
    (streams.insert streamId new).contains k = streams.contains k := by
  simp only [OrderedMap.contains, OrderedMap.get?_insert]
  split
  · rename_i h
    rw [← h, hget]
    rfl
  · rfl

theorem samePending_flushBlockedStream {stream : Stream}
    (hget : s.streams.get? streamId = some stream) :
    SamePending s (s.flushBlockedStream streamId stream).1 ∧
      Silent (s.flushBlockedStream streamId stream).2 := by
  have hkeys := contains_insert_of_get? hget (stream.flushWrites s.sessionCredit).1
  simp only [flushBlockedStream]
  split
  · exact ⟨⟨rfl, rfl, rfl, rfl, rfl, rfl, hkeys⟩, silent_flushWrites _ _⟩
  · exact ⟨⟨rfl, rfl, rfl, rfl, rfl, rfl, hkeys⟩, silent_flushWrites _ _⟩

theorem SamePending.trans {u : Session} (h₁ : SamePending s t) (h₂ : SamePending t u) :
    SamePending s u where
  id := h₂.id.trans h₁.id
  isClient := h₂.isClient.trans h₁.isClient
  pendingCapsules := h₂.pendingCapsules.trans h₁.pendingCapsules
  pendingStreams := h₂.pendingStreams.trans h₁.pendingStreams
  pendingDatagrams := h₂.pendingDatagrams.trans h₁.pendingDatagrams
  pendingDatagramRequests := h₂.pendingDatagramRequests.trans h₁.pendingDatagramRequests
  hasStream k := (h₂.hasStream k).trans (h₁.hasStream k)

theorem samePending_flushBlockedWritesLoop : ∀ (count : Nat) (s : Session),
    SamePending s (flushBlockedWritesLoop count s).1 ∧ Silent (flushBlockedWritesLoop count s).2
  | 0, s => ⟨SamePending.refl s, silent_nil⟩
  | count + 1, s => by
      simp only [flushBlockedWritesLoop]
      split
      · exact ⟨SamePending.refl s, silent_nil⟩
      · rename_i streamId rest _
        split
        · exact ⟨⟨rfl, rfl, rfl, rfl, rfl, rfl, fun _ => rfl⟩, silent_nil⟩
        · split
          · obtain ⟨hsame, hsilent⟩ := samePending_flushBlockedWritesLoop count _
            refine ⟨SamePending.trans ?_ hsame, hsilent⟩
            exact ⟨rfl, rfl, rfl, rfl, rfl, rfl, fun _ => rfl⟩
          · rename_i hget
            obtain ⟨hflushed, hfirst⟩ := samePending_flushBlockedStream (s :=
              { s with
                blockedStreamsQueue := rest
                blockedStreams := s.blockedStreams.erase streamId }) hget
            obtain ⟨hsame, hsilent⟩ := samePending_flushBlockedWritesLoop count _
            refine ⟨(SamePending.trans ?_ hflushed).trans hsame, hfirst.append hsilent⟩
            exact ⟨rfl, rfl, rfl, rfl, rfl, rfl, fun _ => rfl⟩

theorem samePending_flushBlockedWrites :
    SamePending s s.flushBlockedWrites.1 ∧ Silent s.flushBlockedWrites.2 := by
  simp only [flushBlockedWrites]
  split
  · exact ⟨SamePending.refl s, silent_nil⟩
  · obtain ⟨hsame, hsilent⟩ := samePending_flushBlockedWritesLoop s.blockedStreamsQueue.length s
    obtain ⟨_, h⟩ := (flushBlockedWritesLoop s.blockedStreamsQueue.length s).1.emitDataBlocked_shape
    refine ⟨hsame.trans ?_, hsilent.append silent_emitDataBlocked⟩
    rw [h]
    exact ⟨rfl, rfl, rfl, rfl, rfl, rfl, fun _ => rfl⟩

theorem silent_flushBlockedStreamRequestsLoop : ∀ (l : List RequestId) (s : Session),
    Silent (flushBlockedStreamRequestsLoop uni l s).2
  | [], _ => silent_nil
  | requestId :: rest, s => by
      simp only [flushBlockedStreamRequestsLoop]
      split
      · exact (silent_flushBlockedStreamRequestsLoop rest _).cons rfl
      · exact silent_nil

theorem samePending_flushBlockedStreamRequests (s : Session) :
    SamePending s (s.flushBlockedStreamRequests uni).1 ∧
      Silent (s.flushBlockedStreamRequests uni).2 := by
  obtain ⟨_, _, _, _, _, _, h⟩ := s.flushBlockedStreamRequests_shape
  refine ⟨?_, ?_⟩
  · rw [h]
    exact ⟨rfl, rfl, rfl, rfl, rfl, rfl, fun _ => rfl⟩
  · exact (silent_flushBlockedStreamRequestsLoop _ _).append silent_emitStreamsBlocked

theorem state_abort (hopen : s.isOpen = true) :
    (s.abort errorCode reason now).1.state = .closed := by
  simp only [abort, hopen, Bool.not_true, Bool.false_eq_true, if_false]
  obtain ⟨_, _, _, h⟩ := tearDown_shape
    { s with
      closeCode := some errorCode
      closeReason := some reason
      closedAt := some now
      state := .closed }
  rw [h]
  rfl

/-- A capsule received in `Connected` ends the session, or moves it to
`Draining` if it is a DRAIN_SESSION, or leaves it `Connected`; and unless it
ends the session it touches none of the queues of the replay. -/
def Continues (s : Session) (state : SessionState) (result : Session × List Effect) : Prop :=
  result.1.state = .closed ∨
    (SamePending s result.1 ∧ Silent result.2 ∧ result.1.state = state)

section

variable (hs : s.state = .connected)
include hs

theorem Continues.of_abort {state : SessionState} :
    s.Continues state (s.abort errorCode reason now) :=
  Or.inl (state_abort (by simp [isOpen, hs]))

theorem continues_recvMaxData :
    s.Continues .connected (s.recvMaxData capsuleValue now) := by
  unfold recvMaxData
  split
  · exact Continues.of_abort hs
  · rename_i n _ _
    split
    · obtain ⟨hsame, hsilent⟩ := samePending_flushBlockedWrites
      obtain ⟨_, _, _, _, _, h⟩ := flushBlockedWrites_shape
      refine Or.inr ⟨SamePending.trans ?_ hsame, hsilent.cons rfl, ?_⟩
      · exact ⟨rfl, rfl, rfl, rfl, rfl, rfl, fun _ => rfl⟩
      · show { s with peerMaxData := n }.flushBlockedWrites.1.state = .connected
        rw [h]
        exact hs
    · exact Continues.of_abort hs

theorem continues_recvMaxStreams :
    s.Continues .connected (s.recvMaxStreams uni capsuleValue now) := by
  unfold recvMaxStreams
  split
  · exact Continues.of_abort hs
  · rename_i n _ _
    split
    · exact Continues.of_abort hs
    · split
      · obtain ⟨_, _, hset⟩ := s.setPeerMaxStreams_shape
        have hfirst : SamePending s (s.setPeerMaxStreams uni n) := by
          rw [hset]
          exact ⟨rfl, rfl, rfl, rfl, rfl, rfl, fun _ => rfl⟩
        obtain ⟨hsame, hsilent⟩ :=
          (s.setPeerMaxStreams uni n).samePending_flushBlockedStreamRequests
        obtain ⟨_, _, _, _, _, _, h⟩ :=
          (s.setPeerMaxStreams uni n).flushBlockedStreamRequests_shape
        refine Or.inr ⟨hfirst.trans hsame, hsilent.cons rfl, ?_⟩
        show ((s.setPeerMaxStreams uni n).flushBlockedStreamRequests uni).1.state = .connected
        rw [h, hset]
        exact hs
      · exact Continues.of_abort hs

theorem continues_recvStreamsBlocked :
    s.Continues .connected (s.recvStreamsBlocked uni capsuleValue now) := by
  unfold recvStreamsBlocked
  split
  · exact Continues.of_abort hs
  · split
    · exact Continues.of_abort hs
    · rcases s.replenishStreamsCredit_cases uni true with h | ⟨value, -, -, -, -, h⟩
      · simp only [h]
        exact Or.inr ⟨SamePending.refl s, silent_nil.cons rfl, hs⟩
      · obtain ⟨_, _, hset⟩ := s.setLocalMaxStreams_shape uni
          (saturatingAdd (s.peerStreamsClosed uni) (s.initialMaxStreams uni))
        simp only [h, hset]
        exact Or.inr ⟨⟨rfl, rfl, rfl, rfl, rfl, rfl, fun _ => rfl⟩, silent_nil.cons rfl, hs⟩

theorem continues_recvDataBlocked :
    s.Continues .connected s.recvDataBlocked := by
  rcases s.replenishDataCredit_cases true with h | ⟨value, -, -, -, -, h⟩ <;>
    simp only [recvDataBlocked, h]
  · exact Or.inr ⟨SamePending.refl s, silent_nil.cons rfl, hs⟩
  · exact Or.inr ⟨⟨rfl, rfl, rfl, rfl, rfl, rfl, fun _ => rfl⟩, silent_nil.cons rfl, hs⟩

theorem state_recvCloseSession :
    (s.recvCloseSession capsuleValue now).1.state = .closed := by
  have hopen : s.isOpen = true := by simp [isOpen, hs]
  simp only [recvCloseSession]
  split
  · exact state_abort hopen
  split
  · exact state_abort hopen
  split
  · exact state_abort hopen
  · rename_i reason _
    obtain ⟨_, _, _, h⟩ := tearDown_shape
      { s with
        closeCode := some (beValue (capsuleValue.take 4))
        closeReason := some reason
        closedAt := some now
        state := .closed }
    rw [h]
    rfl

theorem continues_dispatchCapsule (htype : capsuleType ≠ wtCapsuleTypeDrainSession) :
    s.Continues .connected (s.dispatchCapsule capsuleType capsuleValue now) := by
  unfold dispatchCapsule
  split
  · exact Or.inl (state_recvCloseSession hs)
  split
  · exact continues_recvDataBlocked hs
  split
  · exact continues_recvMaxData hs
  split
  · exact Continues.of_abort hs
  split
  · exact continues_recvMaxStreams hs
  split
  · exact continues_recvMaxStreams hs
  split
  · exact continues_recvStreamsBlocked hs
  split
  · exact continues_recvStreamsBlocked hs
  · exact Or.inr ⟨SamePending.refl s, silent_nil, hs⟩

theorem continues_recvCapsule
    (htype : capsuleType ≠ wtCapsuleTypeDrainSession) (capsuleValue : Bytes) (now : Timestamp) :
    s.Continues .connected (s.recvCapsule capsuleType capsuleValue now) := by
  unfold recvCapsule
  rw [hs]
  dsimp only
  split
  · exact Or.inr ⟨SamePending.refl s, silent_nil, hs⟩
  · exact continues_dispatchCapsule hs htype

/-- A DRAIN_SESSION received in `Connected`, with or without flow control. -/
theorem recvCapsule_drain (capsuleValue : Bytes) (now : Timestamp) :
    s.recvCapsule wtCapsuleTypeDrainSession capsuleValue now =
      ({ s with state := .draining }, [.emitSessionEvent s.id .sessionDraining {}]) := by
  have hflow : isFlowControlCapsule wtCapsuleTypeDrainSession = false := by decide
  have hclose : wtCapsuleTypeDrainSession ≠ wtCapsuleTypeCloseSession := by decide
  have hblocked : wtCapsuleTypeDrainSession ≠ wtCapsuleTypeDataBlocked := by decide
  simp [recvCapsule, hs, hflow, dispatchCapsule, hclose, hblocked, recvDrainSession]

end

/-! ## The loops -/

/-- The first loop ran to its end, or a DRAIN_SESSION stopped it. -/
inductive CapsulesReplayed (now : Timestamp) (s : Session) :
    Session × List Effect × Bool → Prop
  | ended (result : Session × List Effect × Bool) (hstate : result.1.state = .closed)
      (hstop : result.2.2 = true) : CapsulesReplayed now s result
  | all (result : Session × List Effect × Bool)
      (hnone : ∀ capsule ∈ s.pendingCapsules, capsule.1 ≠ wtCapsuleTypeDrainSession)
      (hstate : result.1.state = .connected) (hstop : result.2.2 = false)
      (hsame : SamePending { s with pendingCapsules := [] } result.1) (hsilent : Silent result.2.1)
      (hall : processCapsules now s.pendingCapsules s = (result.1, result.2.1)) :
      CapsulesReplayed now s result
  | drained (result : Session × List Effect × Bool) (first rest : List (Nat × Bytes))
      (value : Bytes)
      (hsplit : s.pendingCapsules = first ++ (wtCapsuleTypeDrainSession, value) :: rest)
      (hfirst : ∀ capsule ∈ first, capsule.1 ≠ wtCapsuleTypeDrainSession)
      (hstate : result.1.state = .draining) (hstop : result.2.2 = true)
      (hsame : SamePending { s with pendingCapsules := rest } result.1)
      (hsilent : Silent result.2.1)
      (hall : rest = [] → processCapsules now s.pendingCapsules s = (result.1, result.2.1)) :
      CapsulesReplayed now s result

theorem capsulesReplayed (now : Timestamp) : ∀ (queue : List (Nat × Bytes)) (s : Session),
    s.state = .connected → s.pendingCapsules = queue →
    CapsulesReplayed now s (replayCapsules now queue.length s)
  | [], s, hs, hqueue => by
      refine .all _ (by simp [hqueue]) hs rfl ?_ silent_nil (by simp [hqueue, processCapsules,
        replayCapsules])
      exact ⟨rfl, rfl, by simp [replayCapsules, hqueue], rfl, rfl, rfl, fun _ => rfl⟩
  | (capsuleType, value) :: rest, s, hs, hqueue => by
      have hpopped : { s with pendingCapsules := rest }.state = .connected := hs
      simp only [List.length_cons, replayCapsules, hqueue]
      by_cases htype : capsuleType = wtCapsuleTypeDrainSession
      · subst htype
        rw [recvCapsule_drain hpopped]
        refine .drained _ [] rest value hqueue (by simp) rfl rfl
          ⟨rfl, rfl, rfl, rfl, rfl, rfl, fun _ => rfl⟩ (silent_nil.cons rfl) (fun hrest => ?_)
        subst hrest
        simp [hqueue, processCapsules, recvCapsule_drain hpopped]
      · rcases continues_recvCapsule hpopped htype value now with hclosed | ⟨hsame, hsilent, hstate⟩
        · simp only [hclosed, ne_eq, reduceCtorEq, not_false_eq_true, if_true]
          exact .ended _ hclosed rfl
        · simp only [hstate, ne_eq, not_true_eq_false, if_false]
          have ih := capsulesReplayed now rest
            ({ s with pendingCapsules := rest }.recvCapsule capsuleType value now).1 hstate
            hsame.pendingCapsules
          have hprocess : processCapsules now s.pendingCapsules s =
              ((processCapsules now rest
                  ({ s with pendingCapsules := rest }.recvCapsule capsuleType value now).1).1,
                ({ s with pendingCapsules := rest }.recvCapsule capsuleType value now).2 ++
                  (processCapsules now rest
                    ({ s with pendingCapsules := rest }.recvCapsule capsuleType value now).1).2) := by
            rw [hqueue]
            rfl
          have hkeep : ∀ (l : List (Nat × Bytes)) (t : Session),
              SamePending { ({ s with pendingCapsules := rest }.recvCapsule capsuleType value
                now).1 with pendingCapsules := l } t →
              SamePending { s with pendingCapsules := l } t := by
            intro l t h
            exact ⟨h.id.trans hsame.id, h.isClient.trans hsame.isClient, h.pendingCapsules,
              h.pendingStreams.trans hsame.pendingStreams,
              h.pendingDatagrams.trans hsame.pendingDatagrams,
              h.pendingDatagramRequests.trans hsame.pendingDatagramRequests,
              fun k => (h.hasStream k).trans (hsame.hasStream k)⟩
          cases ih with
          | ended hclosed hstop => exact .ended _ hclosed hstop
          | all hnone hlast hstop hothers hquiet hall =>
            refine .all _ ?_ hlast hstop (hkeep [] _ hothers) (hsilent.append hquiet) ?_
            · rw [hqueue]
              intro c hc
              rcases List.mem_cons.mp hc with rfl | hc
              · exact htype
              · exact hnone c (by rw [hsame.pendingCapsules]; exact hc)
            · rw [hsame.pendingCapsules] at hall
              rw [hprocess, hall]
          | drained first last v hsplit hfirst hlast hstop hothers hquiet hall =>
            refine .drained _ ((capsuleType, value) :: first) last v ?_ ?_ hlast hstop
              (hkeep last _ hothers) (hsilent.append hquiet) (fun hnil => ?_)
            · rw [hsame.pendingCapsules] at hsplit
              rw [hqueue, List.cons_append, ← hsplit]
            · intro c hc
              rcases List.mem_cons.mp hc with rfl | hc
              · exact htype
              · exact hfirst c hc
            · have := hall hnil
              rw [hsame.pendingCapsules] at this
              rw [hprocess, this]

/-- The second loop hands out datagrams until one of the queues is empty. -/
theorem replayDatagrams_eq : ∀ (datagrams : List Bytes) (s : Session), s.state = .connected →
    s.pendingDatagrams = datagrams →
    replayDatagrams datagrams.length s =
      ({ s with
          pendingDatagrams := datagrams.drop s.pendingDatagramRequests.length
          pendingDatagramRequests := s.pendingDatagramRequests.drop datagrams.length },
        handedDatagrams s.pendingDatagramRequests datagrams)
  | [], s, _, hdatagrams => by
      have hsame : { s with
          pendingDatagrams := List.drop s.pendingDatagramRequests.length []
          pendingDatagramRequests := s.pendingDatagramRequests.drop 0 } = s := by
        rw [List.drop_nil, List.drop_zero, ← hdatagrams]
      simp only [List.length_nil, replayDatagrams, hsame, handedDatagrams, List.zipWith_nil_right]
  | data :: rest, s, hs, hdatagrams => by
      cases hrequests : s.pendingDatagramRequests with
      | nil =>
        have hsame : { s with
            pendingDatagrams := List.drop 0 (data :: rest)
            pendingDatagramRequests := List.drop (data :: rest).length [] } = s := by
          rw [List.drop_nil, List.drop_zero, ← hdatagrams, ← hrequests]
        have hempty : s.pendingDatagramRequests.isEmpty = true := by simp [hrequests]
        simp only [List.length_nil, hsame, handedDatagrams, List.zipWith_nil_left]
        rw [List.length_cons, replayDatagrams, if_pos hempty]
      | cons requestId waiting =>
        have hempty : ¬s.pendingDatagramRequests.isEmpty = true := by simp [hrequests]
        have hreceive : { s with pendingDatagrams := rest }.recvDatagram data =
            ({ s with pendingDatagrams := rest, pendingDatagramRequests := waiting },
              [.notifyRequestDone requestId (.datagram data)]) := by
          simp [recvDatagram, isOpen, hs, hrequests]
        have ih := replayDatagrams_eq rest
          { s with pendingDatagrams := rest, pendingDatagramRequests := waiting } hs rfl
        rw [List.length_cons, replayDatagrams, if_neg hempty, hdatagrams]
        simp only [hreceive, ih]
        rfl

theorem handedDatagrams_eq_nil {requests : List RequestId} {datagrams : List Bytes}
    (h : datagrams = [] ∨ requests = []) : handedDatagrams requests datagrams = [] := by
  rcases h with rfl | rfl <;> simp [handedDatagrams]

theorem silent_handedDatagrams : ∀ (requests : List RequestId) (datagrams : List Bytes),
    Silent (handedDatagrams requests datagrams)
  | [], _ => silent_nil
  | _ :: _, [] => silent_nil
  | _ :: requests, _ :: datagrams => (silent_handedDatagrams requests datagrams).cons rfl

/-- One of the datagram queues runs empty. -/
theorem drop_length_eq_nil_or {α β : Type} {l : List α} {m : List β} :
    l.drop m.length = [] ∨ m.drop l.length = [] := by
  rcases Nat.le_total l.length m.length with h | h
  · exact Or.inl (List.drop_eq_nil_of_le h)
  · exact Or.inr (List.drop_eq_nil_of_le h)

/-! ## Complete replay -/

theorem Silent.count_openedEvent {effects : List Effect} (h : Silent effects) (s : Session)
    (k : StreamId) : effects.count (s.openedEvent k) = 0 := by
  refine List.count_eq_zero.mpr (fun hin => ?_)
  have := h _ hin
  simp [isOpenedEvent, openedEvent] at this

theorem openedEvent_injective (s : Session) : Function.Injective s.openedEvent := by
  intro j k h
  simp only [openedEvent, Effect.emitStreamEvent.injEq] at h
  exact h.1

/-- Without a DRAIN_SESSION in the queue the replay is complete. -/
theorem completeReplay_all (hnodup : s.pendingStreams.Nodup) (protocol : Option String)
    (now : Timestamp) (hannounced : Silent announced) (hstate : capsules.1.state = .connected)
    (hsame : SamePending { s.established protocol now with pendingCapsules := [] } capsules.1)
    (hsilent : Silent capsules.2.1)
    (hall : processCapsules now s.pendingCapsules (s.established protocol now) =
      (capsules.1, capsules.2.1)) :
    CompleteReplay s protocol now
      ((replayDatagrams capsules.1.pendingDatagrams.length capsules.1).1.replayStreams.1,
        announced ++ (capsules.2.1 ++
          (replayDatagrams capsules.1.pendingDatagrams.length capsules.1).2 ++
          (replayDatagrams capsules.1.pendingDatagrams.length capsules.1).1.replayStreams.2)) := by
  have hdatagrams : capsules.1.pendingDatagrams = s.pendingDatagrams := hsame.pendingDatagrams
  have hrequests : capsules.1.pendingDatagramRequests = s.pendingDatagramRequests :=
    hsame.pendingDatagramRequests
  have hstreams : capsules.1.pendingStreams = s.pendingStreams := hsame.pendingStreams
  have hevent : ∀ k, capsules.1.openedEvent k = s.openedEvent k :=
    fun k => congrFun hsame.openedEvent k
  rw [replayDatagrams_eq _ capsules.1 hstate rfl, hdatagrams, hrequests]
  have hopened : (replayStreams
      { capsules.1 with
        pendingDatagrams := s.pendingDatagrams.drop s.pendingDatagramRequests.length
        pendingDatagramRequests := s.pendingDatagramRequests.drop s.pendingDatagrams.length }).2 =
        (s.pendingStreams.filter capsules.1.hasStream).map s.openedEvent := by
    simp only [replayStreams, hstreams]
    exact List.map_congr_left (fun k _ => hevent k)
  refine ⟨hsame.pendingCapsules, rfl, fun k hk hlive => ?_, drop_length_eq_nil_or,
    announced, ?_, ?_⟩
  · -- only the third loop announces streams, and the queue names each once
    simp only [hopened, List.count_append, hannounced.count_openedEvent,
      hsilent.count_openedEvent, (silent_handedDatagrams _ _).count_openedEvent, Nat.zero_add]
    rw [List.count_map_of_injective _ _ s.openedEvent_injective]
    exact List.count_eq_one_of_mem (hnodup.filter _) (List.mem_filter.mpr ⟨hk, hlive⟩)
  · simp only [hall, hopened, List.append_assoc]
    rfl
  · simp only [hall]
    rfl

/-- Stopped by a DRAIN_SESSION, the replay is complete only if nothing was
left to do. -/
theorem completeReplay_drained_iff (protocol : Option String) (now : Timestamp)
    (announced : List Effect)
    (hsplit : s.pendingCapsules = first ++ (wtCapsuleTypeDrainSession, value) :: rest)
    (hsame : SamePending { s.established protocol now with pendingCapsules := rest } capsules.1)
    (hall : rest = [] → processCapsules now s.pendingCapsules (s.established protocol now) =
      (capsules.1, capsules.2.1)) :
    CompleteReplay s protocol now (capsules.1, announced ++ capsules.2.1) ↔
      rest = [] ∧ s.pendingStreams = [] ∧
        (s.pendingDatagrams = [] ∨ s.pendingDatagramRequests = []) := by
  have hdatagrams : capsules.1.pendingDatagrams = s.pendingDatagrams := hsame.pendingDatagrams
  have hrequests : capsules.1.pendingDatagramRequests = s.pendingDatagramRequests :=
    hsame.pendingDatagramRequests
  have hstreams : capsules.1.pendingStreams = s.pendingStreams := hsame.pendingStreams
  have hcapsules : capsules.1.pendingCapsules = rest := hsame.pendingCapsules
  constructor
  · intro h
    refine ⟨hcapsules.symm.trans h.noCapsules, hstreams.symm.trans h.noStreams, ?_⟩
    rw [← hdatagrams, ← hrequests]
    exact h.notBoth
  · rintro ⟨rfl, hnone, hboth⟩
    have hdone := hall rfl
    refine ⟨hcapsules, hstreams.trans hnone, fun k hk => ?_, ?_, announced, ?_, ?_⟩
    · rw [hnone] at hk
      cases hk
    · rw [hdatagrams, hrequests]
      exact hboth
    · simp [hdone, hnone, handedDatagrams_eq_nil hboth]
    · have hd : s.pendingDatagrams.drop s.pendingDatagramRequests.length =
          capsules.1.pendingDatagrams := by
        rw [hdatagrams]
        rcases hboth with h | h <;> simp [h]
      have hr : s.pendingDatagramRequests.drop s.pendingDatagrams.length =
          capsules.1.pendingDatagramRequests := by
        rw [hrequests]
        rcases hboth with h | h <;> simp [h]
      simp only [hdone, hd, hr, ← hstreams.trans hnone]

/-- With a DRAIN_SESSION in the queue, the condition asks that it be the last
capsule and that the other queues need no replay. -/
theorem replaySafe_iff_of_drain
    (hsplit : s.pendingCapsules = first ++ (wtCapsuleTypeDrainSession, value) :: rest)
    (hfirst : ∀ capsule ∈ first, capsule.1 ≠ wtCapsuleTypeDrainSession) :
    ReplaySafe s ↔ rest = [] ∧ s.pendingStreams = [] ∧
      (s.pendingDatagrams = [] ∨ s.pendingDatagramRequests = []) := by
  unfold ReplaySafe
  rw [hsplit]
  constructor
  · rintro (hnone | ⟨hlast, hothers⟩)
    · exact absurd rfl (hnone (wtCapsuleTypeDrainSession, value) (by simp))
    · refine ⟨?_, hothers⟩
      by_contra hne
      refine hlast (wtCapsuleTypeDrainSession, value) ?_ rfl
      rw [List.dropLast_append_cons, List.dropLast_cons_of_ne_nil hne]
      simp
  · rintro ⟨rfl, hothers⟩
    refine Or.inr ⟨?_, hothers⟩
    rw [List.dropLast_concat]
    exact hfirst

/-- Replaying the queues of a session that just became `Connected`, when that
does not end it. -/
theorem completeReplay_iff (hnodup : s.pendingStreams.Nodup) (hannounced : Silent announced)
    (hopen : ((s.established protocol now).replayPendingQueues now).1.state ≠ .closed) :
    CompleteReplay s protocol now
        (((s.established protocol now).replayPendingQueues now).1,
          announced ++ ((s.established protocol now).replayPendingQueues now).2) ↔
      ReplaySafe s := by
  have hcapsules := capsulesReplayed now s.pendingCapsules (s.established protocol now) rfl rfl
  have hlength : (s.established protocol now).pendingCapsules.length = s.pendingCapsules.length :=
    rfl
  simp only [replayPendingQueues, hlength] at hopen ⊢
  cases hcapsules with
  | ended hclosed hstop =>
    rw [if_pos hstop] at hopen
    exact absurd hclosed hopen
  | all hnone hstate hstop hsame hsilent hall =>
    rw [hstop]
    exact iff_of_true
      (completeReplay_all hnodup protocol now hannounced hstate hsame hsilent hall) (Or.inl hnone)
  | drained first rest value hsplit hfirst hstate hstop hsame hsilent hall =>
    have hqueue : s.pendingCapsules = first ++ (wtCapsuleTypeDrainSession, value) :: rest :=
      hsplit
    rw [if_pos hstop, replaySafe_iff_of_drain hqueue hfirst]
    exact completeReplay_drained_iff protocol now announced hqueue hsame hall

theorem completeReplay_accept_iff (hnodup : s.pendingStreams.Nodup)
    (hconnecting : s.state = .connecting) {requestId : RequestId} {headers : Headers}
    (hresult : (s.accept requestId headers protocol now).1.state = .connected ∨
      (s.accept requestId headers protocol now).1.state = .draining) :
    CompleteReplay s protocol now (s.accept requestId headers protocol now) ↔ ReplaySafe s := by
  have hfailed : ∀ effects : List Effect, ¬((s, effects).1.state = .connected ∨
      (s, effects).1.state = .draining) := by
    intro effects h
    simp [hconnecting] at h
  unfold accept at hresult ⊢
  split at hresult
  · exact absurd hresult (hfailed _)
  · rename_i hserver
    rw [if_neg hserver]
    split at hresult
    · exact absurd hresult (hfailed _)
    · rename_i hstate
      rw [if_neg hstate]
      split at hresult
      · exact absurd hresult (hfailed _)
      · rename_i hvalid
        rw [if_neg hvalid]
        split at hresult
        · exact absurd hresult (hfailed _)
        · refine completeReplay_iff hnodup
            (((silent_nil.cons rfl).cons rfl).cons rfl) (fun hclosed => ?_)
          rcases hresult with h | h
          · exact absurd (hclosed.symm.trans h) (by decide)
          · exact absurd (hclosed.symm.trans h) (by decide)

theorem completeReplay_confirm_iff (hnodup : s.pendingStreams.Nodup)
    (hconnecting : s.state = .connecting) (hresult : (s.confirm protocol now).1.state = .connected ∨
      (s.confirm protocol now).1.state = .draining) :
    CompleteReplay s protocol now (s.confirm protocol now) ↔ ReplaySafe s := by
  have hstate : ¬s.state ≠ .connecting := by simp [hconnecting]
  simp only [confirm, if_neg hstate] at hresult ⊢
  have hannounced : Silent [Effect.emitSessionEvent s.id .sessionReady
      { path := some s.path
        headers := some s.headers
        wtProtocol := protocol
        readyAt := some now }] := silent_nil.cons rfl
  refine completeReplay_iff hnodup hannounced (fun hclosed => ?_)
  rcases hresult with h | h
  · exact absurd (hclosed.symm.trans h) (by decide)
  · exact absurd (hclosed.symm.trans h) (by decide)

end Session

namespace SessionRun

/-- A connecting session, reached by any run, is established by `accept` or
`confirm` with a complete replay exactly when nothing is queued behind a
DRAIN_SESSION capsule. -/
theorem replay_complete_iff (id : SessionId) (path : String) (headers : Headers)
    (protocols : Option (List String)) (client : Bool) (parameters : SessionParameters)
    (createdAt : Timestamp) (w : SessionRun) (hrun : Relation.ReflTransGen Step
      (start (Session.new id path headers protocols client parameters createdAt)) w)
    (hconnecting : w.session.state = .connecting) :
    (∀ requestId headers protocol now,
      ((w.session.accept requestId headers protocol now).1.state = .connected ∨
        (w.session.accept requestId headers protocol now).1.state = .draining) →
      (w.session.CompleteReplay protocol now (w.session.accept requestId headers protocol now) ↔
        w.session.ReplaySafe)) ∧
    (∀ protocol now,
      ((w.session.confirm protocol now).1.state = .connected ∨
        (w.session.confirm protocol now).1.state = .draining) →
      (w.session.CompleteReplay protocol now (w.session.confirm protocol now) ↔
        w.session.ReplaySafe)) := by
  have h := accounted_of_run
    (accounted_start protocols) hrun
  exact ⟨fun requestId headers protocol now =>
      Session.completeReplay_accept_iff h.pendingStreams hconnecting,
    fun protocol now =>
      Session.completeReplay_confirm_iff h.pendingStreams hconnecting⟩

/-- A server session whose client drained it and opened a stream before it
was accepted. -/
def drainedRun : SessionRun :=
  ((start (Session.new 0 "/" [] none false sampleParameters 0)).step
    (.recvCapsule wtCapsuleTypeDrainSession [] 1)).step (.handleStreamOpened 2 1)

theorem run_drainedRun : Relation.ReflTransGen Step
    (start (Session.new 0 "/" [] none false sampleParameters 0)) drainedRun := by
  refine (Relation.ReflTransGen.single ⟨.recvCapsule wtCapsuleTypeDrainSession [] 1, ?_, rfl⟩).tail
    ⟨.handleStreamOpened 2 1, ?_, rfl⟩
  all_goals
    refine ⟨?_, ?_, ?_, ?_⟩
    · decide
    · intro creation h
      cases h
    · decide
    · intro streamId stream h
      cases h

/-- The accepted session is `Draining` and its stream is never announced. -/
theorem drain_stops_replay :
    drainedRun.session.state = .connecting ∧
    (drainedRun.session.accept 5 [] none 2).1.state = .draining ∧
    (drainedRun.session.accept 5 [] none 2).1.pendingStreams = [2] ∧
    ¬drainedRun.session.CompleteReplay none 2 (drainedRun.session.accept 5 [] none 2) := by
  have hpending : (drainedRun.session.accept 5 [] none 2).1.pendingStreams = [2] := by decide
  refine ⟨by decide, by decide, hpending, fun h => ?_⟩
  have := h.noStreams
  rw [hpending] at this
  cases this

theorem replay_complete_iff_drained :
    drainedRun.session.CompleteReplay none 2 (drainedRun.session.accept 5 [] none 2) ↔
      drainedRun.session.ReplaySafe :=
  (replay_complete_iff 0 "/" [] none false sampleParameters 0 drainedRun run_drainedRun
    (by decide)).1 5 [] none 2 (Or.inr (by decide))

end SessionRun

end PyWebTransport

/-
PyWebTransport.Protocol.Session.Courses — every operation of a session is a
course of moves, or adds a stream, or comes too late.

`exec_outcome` says so of all of them. What the later modules prove about
whole runs they prove for one move at a time, and for the end of a session.
-/
import PyWebTransport.Protocol.Session.Moves

namespace PyWebTransport

open PyWebTransport.Lib

namespace Session

variable {op : SessionOp} {s t : Session} {effects absent : List Effect} {streamId : StreamId}
  {method : Stream → Stream × List Effect}

variable {capsuleValue : Bytes} {now : Timestamp} {uni : Bool} {requestId : RequestId}
  {protocol : Option String} {errorCode : ErrorCode} {direction : StreamDirection}

variable {l : List RequestId} {capsuleType : Nat}

/-! ## Ending and capsules -/

theorem Course.after {u : Session} {first second : List Effect} (h : Chain (Move op) s first t)
    (hc : Course op t second u) : Course op s (first ++ second) u := by
  cases hc with
  | stays moves => exact .stays (h.trans moves)
  | ends moves ending =>
    rw [← List.append_assoc]
    exact .ends (h.trans moves) ending

/-- Nothing happens but the answer to a request. -/
theorem course_answer {e : Effect} (h : e.isQuiet = true) : Course op s [e] s :=
  .stays (moves_answer h)

/-- A session that closes on the spot. -/
theorem course_shut {last : List Effect} {closeCode : Option ErrorCode}
    {closeReason : Option String} {closedAt : Option Timestamp} {state : SessionState}
    {data : SessionEventData} {answers : List Effect} (hopen : s.isOpen = true)
    (hgone : state = .closed ∨ state = .closing) (hlast : Farewell op s last)
    (hquiet : ∀ e ∈ answers, e.isQuiet = true) :
    Course op s
      ((s.marked closeCode closeReason closedAt state).tearDown.2 ++
        (last ++ .emitSessionEvent s.id .sessionClosed data :: answers))
      (s.marked closeCode closeReason closedAt state).tearDown.1 := by
  have hclosed : (s.marked closeCode closeReason closedAt state).isOpen = false := by
    rcases hgone with rfl | rfl <;> rfl
  have hending := Ending.shut closeCode closeReason closedAt state data hopen hgone
    (moves_tearDown hclosed) hlast hquiet
  have hcourse := Course.ends (.refl s) hending
  rwa [List.nil_append] at hcourse

theorem course_abort (s : Session) (errorCode : ErrorCode) (reason : String) (now : Timestamp) :
    Course op s (s.abort errorCode reason now).2 (s.abort errorCode reason now).1 := by
  unfold abort
  split
  · exact .stays (.refl s)
  · rename_i hopen
    exact course_shut (by simpa using hopen) (Or.inl rfl) (.reset errorCode)
      (by simp)

theorem course_recvCloseSession (hstate : s.state = .connected ∨ s.state = .draining) :
    Course op s (s.recvCloseSession capsuleValue now).2 (s.recvCloseSession capsuleValue now).1 := by
  simp only [recvCloseSession]
  split
  · exact course_abort s _ _ _
  split
  · exact course_abort s _ _ _
  split
  · exact course_abort s _ _ _
  · exact course_shut (isOpen_of_established hstate) (Or.inl rfl) (.finish hstate) (by simp)

theorem course_recvMaxData (hasked : op.writesTo ≠ none ∨ op.takesCapsules = true)
    (hstate : s.state = .connected ∨ s.state = .draining) (hfc : s.flowControlNegotiated = true)
    (capsuleValue : Bytes) (now : Timestamp) :
    Course op s (s.recvMaxData capsuleValue now).2 (s.recvMaxData capsuleValue now).1 := by
  unfold recvMaxData
  split
  · exact course_abort s _ _ _
  split
  · rename_i limit _ _ hmore
    have hopen := isOpen_of_established hstate
    have hnotice : Chain (Move op) s
        [.emitSessionEvent s.id .sessionMaxDataUpdated { maxData := some limit }] s :=
      .single (.notice _ _ hstate (by decide))
    have hraised : Chain (Move op) s (s.maxDataRaised limit).2 (s.maxDataRaised limit).1 :=
      .single (.maxDataRaised limit hstate hfc hmore)
    refine .stays (hnotice.trans ?_)
    simp only [maxDataRaised] at hraised
    simp only [flushBlockedWrites]
    split
    · rename_i hfull
      rw [if_pos hfull] at hraised
      exact hraised
    · rename_i hfull
      rw [if_neg hfull] at hraised
      refine hraised.trans (moves_emitDataBlocked ?_ hasked)
      obtain ⟨_, _, _, _, hshape⟩ := flushBlockedWritesLoop_shape
        s.blockedStreamsQueue.length { s with peerMaxData := limit }
      rw [hshape]
      exact hopen
  · exact course_abort s _ _ _

/-- The requests that fit the limit are sent on; nothing of the core
changes. -/
theorem quiet_flushBlockedStreamRequestsLoop :
    ∀ s : Session, ∀ e ∈ (flushBlockedStreamRequestsLoop uni l s).2, e.isQuiet = true := by
  induction l with
  | nil =>
    intro s e he
    cases he
  | cons requestId rest ih =>
    intro s e he
    simp only [flushBlockedStreamRequestsLoop] at he
    split at he
    · rcases List.mem_cons.mp he with rfl | he
      · rfl
      · exact ih _ e he
    · cases he

theorem moves_flushBlockedStreamRequestsLoop :
    Chain (Move op) s (flushBlockedStreamRequestsLoop uni l s).2
      (flushBlockedStreamRequestsLoop uni l s).1 := by
  obtain ⟨_, _, _, _, hshape⟩ := flushBlockedStreamRequestsLoop_shape l s
  refine .single (.calm ?_ (quiet_flushBlockedStreamRequestsLoop s) ?_) <;> rw [hshape]
  · constructor <;> rfl
  · exact .of_eq rfl rfl rfl

theorem moves_flushBlockedStreamRequests
    (hopen : s.blockedStreamRequests uni ≠ [] → s.isOpen = true)
    (hearly : s.state = .connecting → op.asksForStreams = true)
    (hasked : op.asksForStreams = true ∨ op.takesCapsules = true) :
    Chain (Move op) s (s.flushBlockedStreamRequests uni).2 (s.flushBlockedStreamRequests uni).1 := by
  by_cases hempty : s.blockedStreamRequests uni = []
  · -- nothing waits: the queue stays empty and nothing is reported
    have hnone : (s.setBlockedStreamRequests uni []).emitStreamsBlocked uni =
        (s.setBlockedStreamRequests uni [], none) := by
      cases uni <;> simp [emitStreamsBlocked, blockedStreamRequests, setBlockedStreamRequests]
    have hcore : SameCore s (s.setBlockedStreamRequests uni []) := by
      cases uni <;> constructor <;> rfl
    have hmarks : KeepsMarks s (s.setBlockedStreamRequests uni []) := by
      cases uni <;> exact .of_eq rfl rfl rfl
    simpa [flushBlockedStreamRequests, hempty, flushBlockedStreamRequestsLoop, hnone] using
      moves_of_core hcore hmarks
  · obtain ⟨_, _, _, _, hshape⟩ :=
      flushBlockedStreamRequestsLoop_shape (s.blockedStreamRequests uni) s
    refine moves_flushBlockedStreamRequestsLoop.trans
      (moves_emitStreamsBlocked ?_ ?_ hasked)
    · rw [hshape]
      exact hopen hempty
    · rw [hshape]
      exact hearly

theorem course_recvMaxStreams (hasked : op.asksForStreams = true ∨ op.takesCapsules = true)
    (hstate : s.state = .connected ∨ s.state = .draining) (uni : Bool) (capsuleValue : Bytes)
    (now : Timestamp) :
    Course op s (s.recvMaxStreams uni capsuleValue now).2
      (s.recvMaxStreams uni capsuleValue now).1 := by
  unfold recvMaxStreams
  split
  · exact course_abort s _ _ _
  split
  · exact course_abort s _ _ _
  split
  · rename_i limit _ _ _ _
    have hnotice : Chain (Move op) s
        [.emitSessionEvent s.id
          (if uni then .sessionMaxStreamsUniUpdated else .sessionMaxStreamsBidiUpdated)
          { maxStreams := some limit }] s :=
      .single (.notice _ _ hstate (by cases uni <;> decide))
    obtain ⟨_, _, hset⟩ := s.setPeerMaxStreams_shape
    have hraised : Chain (Move op) s [] (s.setPeerMaxStreams uni limit) := by
      rw [hset]
      exact moves_of_core (by constructor <;> rfl) (.of_eq rfl rfl rfl)
    have hflushed : Chain (Move op) (s.setPeerMaxStreams uni limit)
        ((s.setPeerMaxStreams uni limit).flushBlockedStreamRequests uni).2
        ((s.setPeerMaxStreams uni limit).flushBlockedStreamRequests uni).1 := by
      refine moves_flushBlockedStreamRequests (fun _ => ?_) (fun hearly => ?_) hasked
      · rw [hset]
        exact isOpen_of_established hstate
      · rw [hset] at hearly
        rcases hstate with h | h <;> simp [h] at hearly
    exact .stays (hnotice.trans (hraised.trans hflushed))
  · exact course_abort s _ _ _

theorem course_recvStreamsBlocked (hstate : s.state = .connected ∨ s.state = .draining) :
    Course op s (s.recvStreamsBlocked uni capsuleValue now).2
      (s.recvStreamsBlocked uni capsuleValue now).1 := by
  unfold recvStreamsBlocked
  split
  · exact course_abort s _ _ _
  split
  · exact course_abort s _ _ _
  · have hcredit : Chain (Move op) s _ _ := moves_replenishStreamsCredit s uni true
    rcases s.replenishStreamsCredit_cases uni true with h | ⟨value, -, -, -, -, h⟩
    · rw [h]
      exact .stays (.single (.notice _ _ hstate (by decide)))
    · rw [h] at hcredit ⊢
      exact .stays hcredit

theorem course_recvDataBlocked (hstate : s.state = .connected ∨ s.state = .draining) :
    Course op s s.recvDataBlocked.2 s.recvDataBlocked.1 := by
  unfold recvDataBlocked
  have hcredit : Chain (Move op) s _ _ := moves_replenishDataCredit s true
  rcases s.replenishDataCredit_cases true with h | ⟨value, -, -, -, -, h⟩
  · rw [h]
    exact .stays (.single (.notice _ _ hstate (by decide)))
  · rw [h] at hcredit ⊢
    exact .stays hcredit

theorem course_recvDrainSession : Course op s s.recvDrainSession.2 s.recvDrainSession.1 := by
  unfold recvDrainSession
  split
  · rename_i hstate
    exact .stays (.single (.drained [] hstate (Or.inl rfl)))
  · exact .stays (.refl s)

/-- Capsules that raise a limit of the peer may be followed by reports; what
the others do does not depend on the call they come with. -/
theorem dispatchCapsule_cases (hstate : s.state = .connected ∨ s.state = .draining)
    {result : Session × List Effect} (h : s.dispatchCapsule capsuleType capsuleValue now = result) :
    (∀ op, Course op s result.2 result.1) ∨
    capsuleType = wtCapsuleTypeMaxData ∧ result = s.recvMaxData capsuleValue now ∨
    ∃ uni, result = s.recvMaxStreams uni capsuleValue now := by
  unfold dispatchCapsule at h
  split at h
  · exact Or.inl fun _ => h ▸ course_recvCloseSession hstate
  split at h
  · exact Or.inl fun _ => h ▸ course_recvDataBlocked hstate
  split at h
  · exact Or.inl fun _ => h ▸ course_recvDrainSession
  split at h
  · rename_i hmax
    exact Or.inr (Or.inl ⟨hmax, h.symm⟩)
  split at h
  · exact Or.inl fun _ => h ▸ course_abort s _ _ _
  split at h
  · exact Or.inr (Or.inr ⟨false, h.symm⟩)
  split at h
  · exact Or.inr (Or.inr ⟨true, h.symm⟩)
  split at h
  · exact Or.inl fun _ => h ▸ course_recvStreamsBlocked hstate
  split at h
  · exact Or.inl fun _ => h ▸ course_recvStreamsBlocked hstate
  · exact Or.inl fun _ => h ▸ .stays (.refl s)

theorem recvCapsule_cases (hclosed : s.state ≠ .closed) :
    (∀ op, Course op s (s.recvCapsule capsuleType capsuleValue now).2
      (s.recvCapsule capsuleType capsuleValue now).1) ∨
    (s.state = .connected ∨ s.state = .draining) ∧
      (s.flowControlNegotiated = true ∧
        s.recvCapsule capsuleType capsuleValue now = s.recvMaxData capsuleValue now ∨
      ∃ uni, s.recvCapsule capsuleType capsuleValue now =
        s.recvMaxStreams uni capsuleValue now) := by
  unfold recvCapsule
  split <;> rename_i hstate
  · split
    · exact Or.inl fun _ => course_abort s _ _ _
    · exact Or.inl fun _ =>
        .stays (moves_of_core (by constructor <;> rfl) (.of_eq rfl rfl rfl))
  · exact Or.inl fun _ => .stays (.refl s)
  · exact absurd hstate hclosed
  all_goals
    have hestablished : s.state = .connected ∨ s.state = .draining := by simp [hstate]
    split
    · exact Or.inl fun _ => .stays (.refl s)
    · rename_i hignored
      rcases dispatchCapsule_cases hestablished rfl with hcourse | ⟨hmax, hdata⟩ | hstreams
      · exact Or.inl hcourse
      · refine Or.inr ⟨hestablished, Or.inl ⟨?_, hdata⟩⟩
        have hflow : isFlowControlCapsule capsuleType = true := by simp [isFlowControlCapsule, hmax]
        simpa [hflow] using hignored
      · exact Or.inr ⟨hestablished, Or.inr hstreams⟩

theorem course_recvCapsule (htakes : op.takesCapsules = true) (hclosed : s.state ≠ .closed)
    (capsuleType : Nat) (capsuleValue : Bytes) (now : Timestamp) :
    Course op s (s.recvCapsule capsuleType capsuleValue now).2
      (s.recvCapsule capsuleType capsuleValue now).1 := by
  rcases recvCapsule_cases hclosed with
    hcourse | ⟨hstate, ⟨hfc, hdata⟩ | ⟨uni, hstreams⟩⟩
  · exact hcourse op
  · rw [hdata]
    exact course_recvMaxData (Or.inr htakes) hstate hfc _ _
  · rw [hstreams]
    exact course_recvMaxStreams (Or.inr htakes) hstate uni _ _

/-! ## Datagrams and replay -/

theorem Ending.gone (h : Ending op s effects t) : t.isOpen = false := by
  obtain @⟨_, _, _, _, closeCode, closeReason, closedAt, state, data, _, hgone, moves, _, _⟩ := h
  rw [isOpen_of_moves moves]
  rcases hgone with rfl | rfl <;> rfl

/-- A call that leaves the session open is a chain of moves. -/
theorem Course.chain_of_open (h : Course op s effects t) (hopen : t.isOpen = true) :
    Chain (Move op) s effects t := by
  cases h with
  | stays moves => exact moves
  | ends moves ending =>
    rw [ending.gone] at hopen
    cases hopen

theorem moves_recvDatagram (s : Session) (data : Bytes) :
    Chain (Move op) s (s.recvDatagram data).2 (s.recvDatagram data).1 := by
  simp only [recvDatagram]
  split
  · exact .refl s
  · have hbuffered : Chain (Move op) s
        (if s.pendingDatagrams.length ≥ s.maxPendingDatagrams then (s, [])
          else ({ s with pendingDatagrams := s.pendingDatagrams ++ [data] }, [])
            : Session × List Effect).2
        (if s.pendingDatagrams.length ≥ s.maxPendingDatagrams then (s, [])
          else ({ s with pendingDatagrams := s.pendingDatagrams ++ [data] }, [])
            : Session × List Effect).1 := by
      split
      · exact .refl s
      · exact moves_of_core (by constructor <;> rfl) (.of_eq rfl rfl rfl)
    split
    · exact hbuffered
    · split
      · exact hbuffered
      · exact .single (.calm (by constructor <;> rfl) (isQuiet_singleton rfl) (.of_eq rfl rfl rfl))

theorem moves_replayDatagrams : ∀ (fuel : Nat) (s : Session),
    Chain (Move op) s (replayDatagrams fuel s).2 (replayDatagrams fuel s).1
  | 0, s => .refl s
  | fuel + 1, s => by
      simp only [replayDatagrams]
      split
      · exact .refl s
      · split
        · exact .refl s
        · rename_i data rest _
          have hdequeued : Chain (Move op) s [] { s with pendingDatagrams := rest } :=
            moves_of_core (by constructor <;> rfl) (.of_eq rfl rfl rfl)
          exact (hdequeued.trans (moves_recvDatagram _ data)).trans (moves_replayDatagrams fuel _)

/-- The capsules are replayed until one takes the session out of
`Connected`; up to there the session is open and makes moves. -/
theorem course_replayCapsules (htakes : op.takesCapsules = true) :
    ∀ (fuel : Nat) {s : Session},
    s.state = .connected →
    Course op s (replayCapsules now fuel s).2.1 (replayCapsules now fuel s).1 ∧
      ((replayCapsules now fuel s).2.2 = false → (replayCapsules now fuel s).1.state = .connected)
  | 0, s, hstate => ⟨.stays (.refl s), fun _ => hstate⟩
  | fuel + 1, s, hstate => by
      simp only [replayCapsules]
      split
      · exact ⟨.stays (.refl s), fun _ => hstate⟩
      · rename_i capsule rest _
        have hdequeued : Chain (Move op) s [] { s with pendingCapsules := rest } :=
          moves_of_core (by constructor <;> rfl) (.of_eq rfl rfl rfl)
        have hreceived := Course.after hdequeued
          (course_recvCapsule htakes (by simp [hstate]) capsule.1 capsule.2 now)
        split
        · exact ⟨hreceived, fun hflag => by cases hflag⟩
        · rename_i hconnected
          simp only [ne_eq, not_not] at hconnected
          have hchain := hreceived.chain_of_open (by simp [isOpen, hconnected])
          obtain ⟨hrest, hflag⟩ := course_replayCapsules htakes fuel hconnected
          exact ⟨Course.after hchain hrest, hflag⟩

theorem state_recvDatagram {data : Bytes} : (s.recvDatagram data).1.state = s.state := by
  simp only [recvDatagram]
  split
  · rfl
  · split
    · split <;> rfl
    · split
      · split <;> rfl
      · rfl

theorem state_replayDatagrams : ∀ (fuel : Nat) (s : Session),
    (replayDatagrams fuel s).1.state = s.state
  | 0, _ => rfl
  | fuel + 1, s => by
      simp only [replayDatagrams]
      split
      · rfl
      · split
        · rfl
        · exact (state_replayDatagrams fuel _).trans state_recvDatagram

theorem course_replayPendingQueues (htakes : op.takesCapsules = true)
    (hstate : s.state = .connected) :
    Course op s (s.replayPendingQueues now).2 (s.replayPendingQueues now).1 := by
  obtain ⟨hcapsules, hflag⟩ : Course op s _ _ ∧ _ :=
    course_replayCapsules htakes s.pendingCapsules.length hstate
  simp only [replayPendingQueues]
  split
  · exact hcapsules
  · rename_i hcontinue
    have hconnected := hflag (by simpa using hcontinue)
    have hchain := hcapsules.chain_of_open (by simp [isOpen, hconnected])
    refine .stays ((hchain.trans (moves_replayDatagrams _ _)).trans (.single (.announced ?_)))
    rw [state_replayDatagrams]
    exact hconnected

/-! ## Establishment and closing -/

theorem course_accept {headers : Headers} :
    Course (.accept requestId headers protocol now) s
      (s.accept requestId headers protocol now).2 (s.accept requestId headers protocol now).1 := by
  unfold accept
  split
  · exact course_answer rfl
  split
  · exact course_answer rfl
  split
  · exact course_answer rfl
  split
  · exact course_answer rfl
  · rename_i hserver hstate _ _ _ _
    refine Course.after (.single (.accepted _ _ requestId ?_ ?_ ?_ ?_))
      (course_replayPendingQueues rfl rfl)
    · simpa using hserver
    · simpa using hstate
    · constructor <;> rfl
    · exact .of_eq rfl rfl rfl

theorem course_confirm :
    Course (.confirm protocol now) s (s.confirm protocol now).2 (s.confirm protocol now).1 := by
  unfold confirm
  split
  · exact .stays (.refl s)
  · rename_i hstate
    refine Course.after (.single (.confirmed _ ⟨protocol, now, rfl⟩ ?_ ?_ ?_))
      (course_replayPendingQueues rfl rfl)
    · simpa using hstate
    · constructor <;> rfl
    · exact .of_eq rfl rfl rfl

theorem course_reject (s : Session) (requestId : RequestId) (headers : Headers)
    (statusCode : Nat) (now : Timestamp) :
    Course op s (s.reject requestId headers statusCode now).2
      (s.reject requestId headers statusCode now).1 := by
  unfold reject
  split
  · exact course_answer rfl
  split
  · exact course_answer rfl
  split
  · exact course_answer rfl
  split
  · exact course_answer rfl
  · rename_i hserver hstate _ _
    have hconnecting : s.state = .connecting := by simpa using hstate
    exact course_shut (by simp [isOpen, hconnecting]) (Or.inl rfl)
      (.reject _ (by simpa using hserver) hconnecting) (isQuiet_singleton rfl)

theorem course_close {reason : Option String} :
    Course (.close requestId errorCode reason now) s
      (s.close requestId errorCode reason now).2 (s.close requestId errorCode reason now).1 := by
  simp only [close]
  split
  · exact course_answer rfl
  · rename_i hopen
    refine course_shut (by simpa using hopen)
      (Or.inr rfl) (.close ⟨requestId, errorCode, reason, now, rfl⟩ ?_) (isQuiet_singleton rfl)
    split
    · exact Or.inl rfl
    · exact Or.inr ⟨_, rfl⟩

theorem course_recvConnectClose {reason : String} :
    Course op s (s.recvConnectClose errorCode reason now).2
      (s.recvConnectClose errorCode reason now).1 := by
  unfold recvConnectClose
  split <;> rename_i hstate
  · exact .stays (.refl s)
  · exact .stays (.single (.closed hstate))
  all_goals
    exact course_shut (by simp [isOpen, hstate]) (Or.inl rfl) .silent (by simp)

theorem course_drain : Course op s s.drain.2 s.drain.1 := by
  unfold drain
  split
  · exact .stays (.refl s)
  · rename_i hstate
    exact .stays (.single (.drained [_] (by simpa using hstate) (Or.inr rfl)))

/-! ## Opening streams -/

theorem course_createStream :
    Course (.createStream requestId uni) s (s.createStream requestId uni).2
      (s.createStream requestId uni).1 := by
  simp only [createStream]
  split
  · exact course_answer rfl
  · rename_i hopen
    have hopen : s.isOpen = true := by simpa using hopen
    split
    · have hqueued : Chain (Move (.createStream requestId uni)) s []
          (s.setBlockedStreamRequests uni (s.blockedStreamRequests uni ++ [requestId])) :=
        moves_of_core (by cases uni <;> constructor <;> rfl)
          (by cases uni <;> exact .of_eq rfl rfl rfl)
      refine .stays (hqueued.trans (moves_emitStreamsBlocked ?_ (fun _ => rfl) (Or.inl rfl)))
      cases uni <;> exact hopen
    · refine .stays (.single (.calm ?_ (isQuiet_singleton rfl) ?_))
      · cases uni <;> constructor <;> rfl
      · cases uni <;> exact .of_eq rfl rfl rfl

theorem course_deferStream :
    Course op s (s.deferStream requestId uni).2 (s.deferStream requestId uni).1 := by
  unfold deferStream
  split
  · exact course_answer rfl
  · exact .stays (moves_of_core (by cases uni <;> constructor <;> rfl)
          (by cases uni <;> exact .of_eq rfl rfl rfl))

theorem outcome_bindStream :
    Outcome (.bindStream streamId requestId uni now) s
      (s.bindStream streamId requestId uni now).2 (s.bindStream streamId requestId uni now).1 := by
  simp only [bindStream]
  split
  · refine .course (.stays ((Chain.single (.refuse streamId (by simp [SessionOp.adds]) ?_)).trans
      (moves_answer rfl)))
    intro e he
    cases uni <;> simp at he
    · rcases he with rfl | rfl <;> simp [Effect.refuses]
    · rw [he]
      simp [Effect.refuses]
  · rename_i hopen
    exact .opening (.bound streamId requestId uni now rfl (by simpa using hopen)) (.refl _)

theorem refuses_refuseStream :
    ∀ e ∈ refuseStream streamId direction errorCode, e.refuses streamId = true := by
  intro e he
  unfold refuseStream at he
  split at he
  · simp only [List.mem_append, List.mem_singleton] at he
    rcases he with rfl | rfl <;> simp [Effect.refuses]
  · simp only [List.nil_append, List.mem_singleton] at he
    rw [he]
    simp [Effect.refuses]

/-- A stream of the peer that is within the limit. -/
theorem outcome_admitStream (now : Timestamp) (hopen : s.isOpen = true)
    (hdirection : streamDirectionFromId streamId s.isClient = direction)
    (hincoming : direction ≠ .sendOnly) (hwithin : s.flowControlNegotiated = true →
      s.peerStreamsOpened (decide (direction = .receiveOnly)) <
        s.localMaxStreams (decide (direction = .receiveOnly))) :
    Outcome (.handleStreamOpened streamId now) s
      ((s.setPeerStreamsOpened (decide (direction = .receiveOnly))
        (s.peerStreamsOpened (decide (direction = .receiveOnly)) + 1)).admitStream streamId
          direction now).2
      ((s.setPeerStreamsOpened (decide (direction = .receiveOnly))
        (s.peerStreamsOpened (decide (direction = .receiveOnly)) + 1)).admitStream streamId
          direction now).1 := by
  have hadmitted : Outcome (.handleStreamOpened streamId now) s _ _ :=
    .opening (.admitted rfl hopen hdirection hincoming hwithin) (.refl _)
  rw [List.append_nil] at hadmitted
  have haway : s.state = .connecting → Opening (.handleStreamOpened streamId now) s
      (refuseStream streamId direction errWtBufferedStreamRejected) (s.turnedAway direction) :=
    fun hwaiting => .turnedAway rfl hwaiting hdirection hincoming hwithin
      refuses_refuseStream
  simp only [admitStream]
  split
  · rename_i hfull
    simp only [Bool.and_eq_true, decide_eq_true_eq] at hfull
    have hwaiting : s.state = .connecting := by cases direction <;> exact hfull.1
    have hcredit := Outcome.opening (haway hwaiting) (moves_replenishStreamsCredit
      (s.turnedAway direction) (decide (direction = .receiveOnly)) false)
    cases direction <;> exact hcredit
  · cases direction <;> exact hadmitted

theorem outcome_handleStreamOpened (s : Session) (streamId : StreamId) (now : Timestamp) :
    Outcome (.handleStreamOpened streamId now) s (s.handleStreamOpened streamId now).2
      (s.handleStreamOpened streamId now).1 := by
  have hrefused : ∀ (direction : StreamDirection) (errorCode : ErrorCode),
      Chain (Move (.handleStreamOpened streamId now)) s
        (refuseStream streamId direction errorCode) s := fun direction errorCode =>
    .single (.refuse streamId (by simp [SessionOp.adds]) refuses_refuseStream)
  simp only [handleStreamOpened]
  split
  · exact .course (.stays (hrefused _ _))
  · rename_i hopen
    have hopen : s.isOpen = true := by simpa using hopen
    split <;> rename_i hdirection
    · exact .course (.stays (.refl s))
    all_goals
      split
      · exact .course (.after (hrefused _ _) (course_abort s _ _ _))
      · rename_i hwithin
        have hlimit := outcome_admitStream now hopen hdirection (by simp)
          (fun hfc => by simpa [hfc, hdirection] using hwithin)
        rw [hdirection]
        exact hlimit

/-! ## Requests and streams -/

theorem course_readDatagram (s : Session) (requestId : RequestId) :
    Course op s (s.readDatagram requestId).2 (s.readDatagram requestId).1 := by
  simp only [readDatagram]
  split
  · exact course_answer rfl
  split
  · exact .stays (moves_of_core (by constructor <;> rfl) (.of_eq rfl rfl rfl))
  split
  · exact .stays (moves_of_core (by constructor <;> rfl) (.of_eq rfl rfl rfl))
  · exact .stays (.single (.calm (by constructor <;> rfl) (isQuiet_singleton rfl) (.of_eq rfl rfl rfl)))

theorem course_sendDatagram (s : Session) (requestId : RequestId) (data : Bytes) (size : Nat) :
    Course op s (s.sendDatagram requestId data size).2 (s.sendDatagram requestId data size).1 := by
  unfold sendDatagram
  split
  · exact course_answer rfl
  split
  · exact course_answer rfl
  · exact .stays (.single (.quiet (List.forall_mem_cons.mpr ⟨rfl, isQuiet_singleton rfl⟩)))

theorem course_exportKeyingMaterial {label : String} {context : Bytes} {length : Nat} :
    Course op s (s.exportKeyingMaterial requestId label context length) s := by
  simp only [exportKeyingMaterial]
  split
  · exact course_answer rfl
  split
  · exact course_answer rfl
  · exact course_answer rfl

theorem course_diagnoseStream : Course op s (s.diagnoseStream streamId requestId) s := by
  unfold diagnoseStream
  split
  · exact course_answer rfl
  · exact course_answer rfl

/-- Nothing is suppressed among effects that are no stream events. -/
theorem suppress_eq_self (s : Session) (h : ∀ e ∈ effects, e.isStreamEvent = false) :
    s.suppressPendingStreamEvents streamId effects = effects := by
  unfold suppressPendingStreamEvents
  split
  · rw [List.filter_eq_self]
    intro e he
    have hno := h e he
    cases e <;> first | rfl | cases hno
  · rfl

theorem suppress_of_silent (s : Session) {k : StreamId} (h : Eventless k effects) :
    s.suppressPendingStreamEvents streamId effects = effects :=
  s.suppress_eq_self fun e he => (h e he).2

/-- A method of one stream whose stream events, if it has any, are
suppressed while the stream is not announced. -/
theorem course_onStream (s : Session) (streamId : StreamId) (call : ReceiveCall)
    (habsent : ∀ e ∈ absent, e.isQuiet = true) (hplain : call.isWriter = false)
    (hcut : call.cuts = true → op.givesUp = some streamId)
    (hmethod : ∀ stream, method stream = ((stream.receive call).1,
      s.suppressPendingStreamEvents streamId (stream.receive call).2)) :
    Course op s (s.onStream streamId absent method).2 (s.onStream streamId absent method).1 := by
  unfold onStream
  split
  · exact .stays (.single (.quiet habsent))
  · rename_i stream hget
    simp only [hmethod]
    exact .stays (moves_method hget hplain fun h => Or.inl (hcut h))

/-- A method of one stream that has no stream events. -/
theorem course_onStream_silent (s : Session) (streamId : StreamId) (call : ReceiveCall)
    (habsent : ∀ e ∈ absent, e.isQuiet = true) (hplain : call.isWriter = false)
    (hcut : call.cuts = true → op.givesUp = some streamId)
    (hmethod : ∀ stream, method stream = stream.receive call)
    (hsilent : ∀ stream : Stream, Eventless stream.id (stream.receive call).2) :
    Course op s (s.onStream streamId absent method).2 (s.onStream streamId absent method).1 := by
  refine course_onStream s streamId call habsent hplain hcut ?_
  intro stream
  rw [hmethod, s.suppress_of_silent (hsilent stream)]

theorem course_onWriter (s : Session) (hs : s.Settled)
    {method : Stream → Nat → Stream × List Effect × Nat} (habsent : ∀ e ∈ absent, e.isQuiet = true)
    (hnamed : op.writesTo = some streamId) (hmethod : ∀ stream : Stream,
      method stream s.sessionCredit = stream.completeWrite s.sessionCredit ∨
        ∃ requestId data endStream,
          method stream s.sessionCredit = stream.write requestId data endStream s.sessionCredit) :
    Course op s (s.onWriter streamId absent method).2 (s.onWriter streamId absent method).1 := by
  unfold onWriter
  split
  · exact .stays (.single (.quiet habsent))
  · rename_i stream hget
    have hwritten : Chain (Move op) s _ _ := .single (.written hget hnamed (hmethod stream))
    refine .stays (hwritten.trans (moves_emitDataBlocked ?_ (Or.inl (by simp [hnamed]))))
    obtain ⟨_, _, hshape⟩ := s.written_shape (method stream s.sessionCredit)
    rw [hshape]
    exact hs.isOpen_of_stream hget

theorem course_recvStreamData (s : Session) (streamId : StreamId) (data : Bytes)
    (endStream : Bool) (now : Timestamp) :
    Course op s (s.recvStreamData streamId data endStream now).2
      (s.recvStreamData streamId data endStream now).1 := by
  simp only [recvStreamData]
  split
  · exact .stays (.refl s)
  · rename_i stream hget
    have hcharged : Chain (Move op) s [] { s with dataReceived := s.dataReceived + data.length } :=
      moves_of_core (by constructor <;> rfl) (.of_eq rfl rfl rfl)
    split
    · exact Course.after hcharged (course_abort _ _ _ _)
    · have hmethod : Move op { s with dataReceived := s.dataReceived + data.length } _ _ :=
        .method (.recvData data endStream) hget rfl (fun h => by cases h)
      simp only [Stream.receive, suppress_of_silent _ stream.silent_recvData]
        at hmethod
      have hconsumed : SameCore
          { s with
            dataReceived := s.dataReceived + data.length
            streams := s.streams.insert streamId (stream.recvData data endStream).1 }
          { s with
            dataReceived := s.dataReceived + data.length
            streams := s.streams.insert streamId (stream.recvData data endStream).1
            dataConsumed := s.dataConsumed + data.length } := by
        constructor <;> rfl
      have hdata := (hcharged.trans (.single hmethod)).trans (moves_of_core hconsumed (.of_eq rfl rfl rfl))
      rw [List.append_nil, List.nil_append] at hdata
      exact .stays ((hdata.trans (moves_replenishDataCredit _ _)).trans (moves_handleClosed _ _))

/-- Every call on a session is a course of moves, or adds a stream, or comes
too late. -/
theorem exec_outcome (s : Session) (hs : s.Settled) (op : SessionOp) :
    Outcome op s (s.exec op).2 (s.exec op).1 := by
  cases op with
  | abort errorCode reason now => exact .course (course_abort s errorCode reason now)
  | accept requestId headers protocol now =>
    exact .course course_accept
  | bindStream => exact outcome_bindStream
  | close requestId errorCode reason now =>
    exact .course course_close
  | completeStreamWrite streamId =>
    exact .course (course_onWriter s hs (by simp) rfl (fun stream => Or.inl rfl))
  | confirm protocol now => exact .course course_confirm
  | createStream requestId uni => exact .course course_createStream
  | deferStream requestId uni => exact .course course_deferStream
  | diagnose requestId => exact .course (course_answer rfl)
  | diagnoseStream streamId requestId => exact .course course_diagnoseStream
  | drain => exact .course course_drain
  | exportKeyingMaterial requestId label context length =>
    exact .course course_exportKeyingMaterial
  | flushBlockedStreamRequests uni =>
    refine .course (.stays
      (moves_flushBlockedStreamRequests (fun hwaiting => ?_) (fun _ => rfl) (Or.inl rfl)))
    -- nothing waits in a session that is over
    cases hopen : s.isOpen with
    | true => rfl
    | false =>
      have hempty := hs hopen
      cases uni <;> simp [blockedStreamRequests, hempty.bidi, hempty.uni] at hwaiting
  | handleStreamDataAcknowledged streamId =>
    exact .course (course_onStream_silent s streamId (.send .handleDataAcknowledged) (by simp) rfl
      (fun h => by cases h) (fun _ => rfl) (fun _ => Eventless.nil))
  | handleStreamOpened => exact outcome_handleStreamOpened s ..
  | readDatagram requestId => exact .course (course_readDatagram s requestId)
  | readStream streamId requestId maxBytes =>
    exact .course (course_onStream_silent s streamId (.read requestId maxBytes)
      (isQuiet_singleton rfl) rfl (fun h => by cases h) (fun _ => rfl)
      (fun stream => stream.silent_read requestId maxBytes))
  | recvCapsule capsuleType capsuleValue now =>
    by_cases hclosed : s.state = .closed
    · have hlate : s.recvCapsule capsuleType capsuleValue now =
          (s, [.resetQuicStream s.id errH3MessageError]) := by
        simp only [recvCapsule, hclosed]
      rw [exec, hlate]
      exact .late hclosed
    · exact .course (course_recvCapsule rfl hclosed capsuleType capsuleValue now)
  | recvConnectClose errorCode reason now =>
    exact .course course_recvConnectClose
  | recvDatagram data => exact .course (.stays (moves_recvDatagram s data))
  | recvStopSending streamId errorCode =>
    exact .course (course_onStream s streamId (.send (.recvStopSending errorCode)) (by simp) rfl
      (fun _ => rfl) (fun stream => rfl))
  | recvStreamData streamId data endStream now =>
    exact .course (course_recvStreamData s streamId data endStream now)
  | recvStreamReset streamId errorCode =>
    exact .course (course_onStream s streamId (.recvReset errorCode) (by simp) rfl
      (fun h => by cases h) (fun stream => rfl))
  | reject requestId headers statusCode now =>
    exact .course (course_reject s requestId headers statusCode now)
  | resetStream streamId requestId errorCode =>
    exact .course (course_onStream_silent s streamId (.send (.reset requestId errorCode))
      (isQuiet_singleton rfl) rfl (fun _ => rfl) (fun _ => rfl)
      (fun stream => stream.silent_reset requestId errorCode))
  | sendDatagram requestId data size => exact .course (course_sendDatagram s requestId data size)
  | stopStream streamId requestId errorCode =>
    exact .course (course_onStream_silent s streamId (.stop requestId errorCode)
      (isQuiet_singleton rfl) rfl (fun h => by cases h) (fun _ => rfl)
      (fun stream => stream.silent_stop requestId errorCode))
  | writeStream streamId requestId data endStream =>
    refine .course (course_onWriter s hs ?_ rfl (fun stream => Or.inr ⟨_, _, _, rfl⟩))
    intro e he
    rw [List.mem_singleton.mp he]
    split <;> rfl

end Session

end PyWebTransport

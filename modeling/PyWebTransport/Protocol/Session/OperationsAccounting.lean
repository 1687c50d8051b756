/-
PyWebTransport.Protocol.Session.OperationsAccounting — the accounting law
of every operation of a session.

`SessionOp.given` is the request an operation hands to the session, and
`SessionOp.Fits` what its caller promises about it. Each operation is shown
to be `Sound`: it keeps the accounting law and the session evolves.
`balanced_exec` and `evolves_exec` collect the two halves.
-/
import PyWebTransport.Protocol.Session.Evolution

namespace PyWebTransport

open PyWebTransport.Lib

namespace Session

variable {s t u : Session} {given : List RequestId} {added : List StreamId}
  {effects more : List Effect}

variable {errorCode : ErrorCode} {reason : String} {now : Timestamp} {capsuleValue data : Bytes}
  {uni : Bool} {requestId : RequestId} {headers : Headers} {protocol : Option String}
  {streamId : StreamId} {direction : StreamDirection} {absent : List Effect}

/-! ## Sound steps -/

/-- What is asked of a step: the accounting law, and that the session
evolves. -/
structure Sound (s : Session) (given : List RequestId) (added : List StreamId)
    (result : Session × List Effect) : Prop where
  balanced : s.StreamsWF → Balanced s given added result
  evolves : Evolves added s result.1

theorem Sound.unchanged (he : subjects effects = given) : Sound s given added (s, effects) :=
  ⟨fun hs => (Balanced.unchanged hs he).widen added, Evolves.refl added s⟩

/-- The constants of a session and its queues. -/
def outline (s : Session) :=
  (s.id, s.isClient, s.flowControlNegotiated, s.initialMaxStreamsBidi, s.initialMaxStreamsUni,
    s.receiveWindow, s.blockedStreamRequestsBidi, s.blockedStreamRequestsUni,
    s.pendingDatagramRequests, s.streams, s.pendingStreams)

theorem same_of_outline (h : t.outline = s.outline) :
    SameConstants s t ∧ SameQueues s t ∧ t.pendingStreams = s.pendingStreams := by
  simp only [outline, Prod.mk.injEq] at h
  obtain ⟨id, client, negotiated, maxBidi, maxUni, window, bidi, uni, datagrams, streams, pending⟩ :=
    h
  exact ⟨⟨id, client, negotiated, maxBidi, maxUni, window⟩, ⟨bidi, uni, datagrams, streams⟩,
    pending⟩

/-- A step of an open session that touches no queue. -/
theorem Sound.steady (hopen : s.Settled → s.isOpen = true) (he : subjects effects = given)
    (hstate : t.state = s.state) (hsame : t.outline = s.outline) :
    Sound s given [] (t, effects) :=
  have ⟨hc, hq, hp⟩ := same_of_outline hsame
  ⟨fun hs => Balanced.same hs hq fun _ => by rw [he], Evolves.of_state hopen hc hstate hp⟩

/-- A step to another open state. -/
theorem Sound.forward (hrank : s.state.rank ≤ t.state.rank) (hopen : t.isOpen = true)
    (he : subjects effects = given) (hsame : t.outline = s.outline) :
    Sound s given [] (t, effects) :=
  have ⟨hc, hq, hp⟩ := same_of_outline hsame
  ⟨fun hs => Balanced.same hs hq fun _ => by rw [he], Evolves.of_open hc hrank hopen hp⟩

/-- The end of a session. -/
theorem Sound.torn (hrank : s.state.rank ≤ t.state.rank) (hmore : subjects more = given)
    (hsame : t.outline = s.outline) : Sound s given [] (t.tearDown.1, t.tearDown.2 ++ more) :=
  have ⟨hc, hq, _⟩ := same_of_outline hsame
  ⟨fun hs => ((balanced_tearDown (hq.streamsWF hs)).of_same hq).append hmore,
    evolves_tearDown hc hrank⟩

theorem Sound.trans {first second : List Effect} (h₁ : Sound s given [] (t, first))
    (h₂ : Sound t [] [] (u, second)) : Sound s given [] (u, first ++ second) where
  balanced hs := (h₁.balanced hs).trans (h₂.balanced (h₁.balanced hs).wf)
  evolves := h₁.evolves.trans h₂.evolves

/-- An effect that carries no request may be put in front. -/
theorem Sound.cons {e : Effect} (h : Sound s given added (t, effects)) (he : e.subject = none) :
    Sound s given added (t, e :: effects) :=
  ⟨fun hs => (h.balanced hs).cons he, h.evolves⟩

/-- An open session in which a balanced helper changes what may change. -/
theorem Sound.of_balanced (hb : s.StreamsWF → Balanced s given [] (t, effects))
    (hopen : s.Settled → s.isOpen = true) (hstate : t.state = s.state)
    (hp : t.pendingStreams = s.pendingStreams) (hc : SameConstants s t) :
    Sound s given [] (t, effects) :=
  ⟨hb, Evolves.of_state hopen hc hstate hp⟩

/-! ## Ending and capsules -/

theorem sound_abort (s : Session) : Sound s [] [] (s.abort errorCode reason now) := by
  unfold abort
  split
  · exact .unchanged rfl
  · exact .torn rank_le_closed rfl rfl

theorem sound_recvCloseSession (s : Session) :
    Sound s [] [] (s.recvCloseSession capsuleValue now) := by
  simp only [recvCloseSession]
  split
  · exact s.sound_abort
  split
  · exact s.sound_abort
  split
  · exact s.sound_abort
  · exact .torn rank_le_closed rfl rfl

theorem sound_recvDataBlocked (hopen : s.isOpen = true) : Sound s [] [] s.recvDataBlocked := by
  rcases s.replenishDataCredit_cases true with h | ⟨value, -, -, -, -, h⟩ <;>
    simp only [recvDataBlocked, h]
  · exact .unchanged rfl
  · exact .steady (fun _ => hopen) rfl rfl rfl

theorem sound_recvDrainSession (s : Session) : Sound s [] [] s.recvDrainSession := by
  unfold recvDrainSession
  split
  · rename_i hstate
    exact .forward (by simp [hstate, SessionState.rank]) rfl rfl rfl
  · exact .unchanged rfl

section

variable (hopen : s.isOpen = true)
include hopen

theorem sound_recvMaxData :
    Sound s [] [] (s.recvMaxData capsuleValue now) := by
  unfold recvMaxData
  split
  · exact s.sound_abort
  split
  · rename_i n _ _ _
    have hsame : SameQueues s { s with peerMaxData := n } := ⟨rfl, rfl, rfl, rfl⟩
    obtain ⟨_, _, _, _, _, h⟩ := flushBlockedWrites_shape
    refine Sound.cons (.of_balanced (fun hs => ?_) (fun _ => hopen) ?_ ?_ ?_) rfl
    · exact (balanced_flushBlockedWrites (hsame.streamsWF hs)).of_same hsame
    all_goals rw [h]
    exact ⟨rfl, rfl, rfl, rfl, rfl, rfl⟩
  · exact s.sound_abort

theorem sound_recvMaxStreams :
    Sound s [] [] (s.recvMaxStreams uni capsuleValue now) := by
  unfold recvMaxStreams
  split
  · exact s.sound_abort
  split
  · exact s.sound_abort
  split
  · rename_i n _ _ _ _
    have hsame : SameQueues s (s.setPeerMaxStreams uni n) := by cases uni <;> exact ⟨rfl, rfl, rfl, rfl⟩
    obtain ⟨_, _, hset⟩ := s.setPeerMaxStreams_shape
    obtain ⟨_, _, _, _, _, _, h⟩ := (s.setPeerMaxStreams uni n).flushBlockedStreamRequests_shape
    refine Sound.cons (.of_balanced (fun hs => ?_) (fun _ => hopen) ?_ ?_ ?_) rfl
    · exact (balanced_flushBlockedStreamRequests (hsame.streamsWF hs)).of_same hsame
    all_goals rw [h, hset]
    exact ⟨rfl, rfl, rfl, rfl, rfl, rfl⟩
  · exact s.sound_abort

theorem sound_recvStreamsBlocked :
    Sound s [] [] (s.recvStreamsBlocked uni capsuleValue now) := by
  unfold recvStreamsBlocked
  split
  · exact s.sound_abort
  split
  · exact s.sound_abort
  · rcases s.replenishStreamsCredit_cases uni true with h | ⟨value, -, -, -, -, h⟩
    · simp only [h]
      exact .unchanged rfl
    · obtain ⟨_, _, hset⟩ := s.setLocalMaxStreams_shape uni
        (saturatingAdd (s.peerStreamsClosed uni) (s.initialMaxStreams uni))
      simp only [h, hset]
      exact .steady (fun _ => hopen) rfl rfl rfl

theorem sound_dispatchCapsule {capsuleType : Nat} :
    Sound s [] [] (s.dispatchCapsule capsuleType capsuleValue now) := by
  unfold dispatchCapsule
  split
  · exact s.sound_recvCloseSession
  split
  · exact sound_recvDataBlocked hopen
  split
  · exact s.sound_recvDrainSession
  split
  · exact sound_recvMaxData hopen
  split
  · exact s.sound_abort
  split
  · exact sound_recvMaxStreams hopen
  split
  · exact sound_recvMaxStreams hopen
  split
  · exact sound_recvStreamsBlocked hopen
  split
  · exact sound_recvStreamsBlocked hopen
  · exact .unchanged rfl

end

theorem sound_recvCapsule (s : Session) (capsuleType : Nat) (capsuleValue : Bytes)
    (now : Timestamp) : Sound s [] [] (s.recvCapsule capsuleType capsuleValue now) := by
  unfold recvCapsule
  split <;> rename_i hstate
  · split
    · exact s.sound_abort
    · exact .steady (fun _ => by simp [isOpen, hstate]) rfl rfl rfl
  · exact .unchanged rfl
  · exact .unchanged rfl
  all_goals
    split
    · exact .unchanged rfl
    · exact sound_dispatchCapsule (by simp [isOpen, hstate])

/-! ## Datagrams and replay -/

theorem sound_recvDatagram (s : Session) : Sound s [] [] (s.recvDatagram data) := by
  simp only [recvDatagram]
  split
  · exact .unchanged rfl
  · rename_i hopen
    have hopen : s.Settled → s.isOpen = true := fun _ => by simpa using hopen
    have hbuffered : Sound s [] []
        (if s.pendingDatagrams.length ≥ s.maxPendingDatagrams then (s, [])
          else ({ s with pendingDatagrams := s.pendingDatagrams ++ [data] }, [])) := by
      split
      · exact .unchanged rfl
      · exact .steady hopen rfl rfl rfl
    split
    · exact hbuffered
    · split
      · exact hbuffered
      · rename_i requestId rest hreads
        refine .of_balanced (fun hs => ⟨hs, fun k hk _ => hk, fun r => ?_⟩) hopen rfl rfl
          ⟨rfl, rfl, rfl, rfl, rfl, rfl⟩
        simp only [count_waiting, hreads, subjects_cons, subject_done, subjects_nil,
          Option.toList_some, List.count_append, List.count_cons, List.count_nil]
        omega

/-- Taking an element off a queue of capsules or datagrams. -/
theorem sound_dequeue (s : Session) (capsules : List (Nat × Bytes)) (datagrams : List Bytes) :
    Sound s [] [] ({ s with pendingCapsules := capsules, pendingDatagrams := datagrams }, []) :=
  ⟨fun hs => Balanced.same hs ⟨rfl, rfl, rfl, rfl⟩ fun _ => rfl, s.evolves_dequeue ..⟩

theorem sound_replayCapsules (now : Timestamp) : ∀ (fuel : Nat) (s : Session),
    Sound s [] [] ((replayCapsules now fuel s).1, (replayCapsules now fuel s).2.1)
  | 0, s => .unchanged rfl
  | fuel + 1, s => by
      simp only [replayCapsules]
      split
      · exact .unchanged rfl
      · rename_i capsule rest _
        have hreceived := (s.sound_dequeue rest s.pendingDatagrams).trans
          (sound_recvCapsule _ capsule.1 capsule.2 now)
        split
        · exact hreceived
        · exact hreceived.trans (sound_replayCapsules now fuel _)

theorem sound_replayDatagrams : ∀ (fuel : Nat) (s : Session),
    Sound s [] [] (replayDatagrams fuel s)
  | 0, s => .unchanged rfl
  | fuel + 1, s => by
      simp only [replayDatagrams]
      split
      · exact .unchanged rfl
      · split
        · exact .unchanged rfl
        · rename_i data rest _
          exact ((s.sound_dequeue s.pendingCapsules rest).trans (sound_recvDatagram _)).trans
            (sound_replayDatagrams fuel _)

theorem sound_replayStreams : Sound s [] [] s.replayStreams where
  balanced hs := by
    have hsilent : ∀ l : List StreamId, subjects (l.map s.openedEvent) = [] := by
      intro l
      induction l with
      | nil => rfl
      | cons k rest ih =>
        rw [List.map_cons, subjects_cons, ih]
        rfl
    exact Balanced.same hs ⟨rfl, rfl, rfl, rfl⟩ fun r => by rw [hsilent]
  evolves :=
    ⟨⟨rfl, rfl, rfl, rfl, rfl, rfl⟩, Nat.le_refl _, List.nil_sublist _, fun hs hclosed =>
      let h := hs hclosed
      ⟨h.streams, h.bidi, h.uni, h.datagrams⟩⟩

theorem sound_replayPendingQueues : Sound s [] [] (s.replayPendingQueues now) := by
  have hcapsules := sound_replayCapsules now s.pendingCapsules.length s
  simp only [replayPendingQueues]
  split
  · exact hcapsules
  · exact (hcapsules.trans (sound_replayDatagrams ..)).trans sound_replayStreams

/-! ## Establishment and closing -/

theorem sound_accept (s : Session) :
    Sound s [requestId] [] (s.accept requestId headers protocol now) := by
  unfold accept
  split
  · exact .unchanged rfl
  split
  · exact .unchanged rfl
  · rename_i hstate
    have hstate : s.state = .connecting := by simpa using hstate
    split
    · exact .unchanged rfl
    split
    · exact .unchanged rfl
    · refine Sound.trans ?_ sound_replayPendingQueues
      exact .forward (by simp [hstate, SessionState.rank]) rfl rfl rfl

theorem sound_confirm (s : Session) : Sound s [] [] (s.confirm protocol now) := by
  unfold confirm
  split
  · exact .unchanged rfl
  · rename_i hstate
    have hstate : s.state = .connecting := by simpa using hstate
    have hready : Sound s [] []
        ({ s with readyAt := some now, wtProtocol := protocol, state := .connected }, []) :=
      .forward (by simp [hstate, SessionState.rank]) rfl rfl rfl
    exact (hready.trans sound_replayPendingQueues).cons rfl

theorem sound_reject (s : Session) {statusCode : Nat} :
    Sound s [requestId] [] (s.reject requestId headers statusCode now) := by
  unfold reject
  split
  · exact .unchanged rfl
  split
  · exact .unchanged rfl
  split
  · exact .unchanged rfl
  split
  · exact .unchanged rfl
  · exact .torn rank_le_closed rfl rfl

theorem sound_close (s : Session) {reason : Option String} :
    Sound s [requestId] [] (s.close requestId errorCode reason now) := by
  simp only [close]
  split
  · exact .unchanged rfl
  · rename_i hopen
    refine .torn ?_ ?_ rfl
    · cases hstate : s.state <;> simp [isOpen, hstate, SessionState.rank] at hopen ⊢
    · split <;> rfl

theorem sound_recvConnectClose (s : Session) :
    Sound s [] [] (s.recvConnectClose errorCode reason now) := by
  unfold recvConnectClose
  split <;> rename_i hstate
  · exact .unchanged rfl
  · refine ⟨fun hs => Balanced.same hs ⟨rfl, rfl, rfl, rfl⟩ fun _ => rfl,
      ⟨rfl, rfl, rfl, rfl, rfl, rfl⟩, rank_le_closed, List.sublist_append_left _ _,
      fun hs _ => ?_⟩
    have h := hs (by simp [isOpen, hstate])
    exact ⟨h.streams, h.bidi, h.uni, h.datagrams⟩
  all_goals exact .torn rank_le_closed rfl rfl

theorem sound_drain (s : Session) : Sound s [] [] s.drain := by
  unfold drain
  split
  · exact .unchanged rfl
  · rename_i hstate
    have hstate : s.state = .connected := by simpa using hstate
    exact .forward (by simp [hstate, SessionState.rank]) rfl rfl rfl

/-! ## Opening streams -/

theorem streamsWF_setBlocked (hs : s.StreamsWF) {l : List RequestId} :
    (s.setBlockedStreamRequests uni l).StreamsWF := by
  intro k st hk
  rw [streams_setBlockedStreamRequests] at hk
  exact hs k st hk

/-- A request put at the end of a queue of blocked stream requests. -/
theorem balanced_block (hs : s.StreamsWF) (requestId : RequestId) (uni : Bool) :
    Balanced s [requestId] []
      (s.setBlockedStreamRequests uni (s.blockedStreamRequests uni ++ [requestId]), []) where
  wf := streamsWF_setBlocked hs
  keys k hk _ := by rw [streams_setBlockedStreamRequests]; exact hk
  count r := by
    have := s.count_waiting_setBlocked uni (s.blockedStreamRequests uni ++ [requestId]) r
    rw [List.count_append] at this
    simp only [subjects_nil, List.count_nil]
    omega

theorem sound_createStream (s : Session) :
    Sound s [requestId] [] (s.createStream requestId uni) := by
  simp only [createStream]
  split
  · exact .unchanged rfl
  · rename_i hopen
    have hopen : s.Settled → s.isOpen = true := fun _ => by simpa using hopen
    split
    · obtain ⟨_, _, hset⟩ := s.setBlockedStreamRequests_shape uni
        (s.blockedStreamRequests uni ++ [requestId])
      obtain ⟨_, _, h⟩ := (s.setBlockedStreamRequests uni
        (s.blockedStreamRequests uni ++ [requestId])).emitStreamsBlocked_shape uni
      refine .of_balanced (fun hs => ?_) hopen (by rw [h, hset]) (by rw [h, hset]) ?_
      · have hblock := balanced_block hs requestId uni
        exact hblock.trans (balanced_emitStreamsBlocked hblock.wf)
      · rw [h, hset]
        exact ⟨rfl, rfl, rfl, rfl, rfl, rfl⟩
    · obtain ⟨_, _, hset⟩ := s.setLocalStreamsOpened_shape uni (s.localStreamsOpened uni + 1)
      rw [hset]
      exact .steady hopen rfl rfl rfl

theorem sound_deferStream (s : Session) : Sound s [requestId] [] (s.deferStream requestId uni) := by
  unfold deferStream
  split
  · exact .unchanged rfl
  · rename_i hopen
    obtain ⟨_, _, hset⟩ := s.setLocalStreamsOpened_shape uni (s.localStreamsOpened uni - 1)
    obtain ⟨_, _, h⟩ := (s.setLocalStreamsOpened uni
      (s.localStreamsOpened uni - 1)).setBlockedStreamRequests_shape uni
        (s.blockedStreamRequests uni ++ [requestId])
    refine .of_balanced (fun hs => ?_) (fun _ => by simpa using hopen) (by rw [h, hset])
      (by rw [h, hset]) ?_
    · have hsame := s.sameQueues_setLocalStreamsOpened uni (s.localStreamsOpened uni - 1)
      have hblock := balanced_block (hsame.streamsWF hs) requestId uni
      rw [blockedStreamRequests_setLocalStreamsOpened] at hblock
      exact hblock.of_same hsame
    · rw [h, hset]
      exact ⟨rfl, rfl, rfl, rfl, rfl, rfl⟩

theorem balanced_bindStream (hs : s.StreamsWF) (hfresh : s.streams.get? streamId = none) :
    Balanced s [requestId] [streamId] (s.bindStream streamId requestId uni now) := by
  simp only [bindStream]
  split
  · refine (Balanced.unchanged hs ?_).widen _
    cases uni <;> rfl
  · exact (balanced_insert_new hs hfresh (Stream.wf_new ..) Stream.waiting_new).append rfl

theorem evolves_bindStream : Evolves [] s (s.bindStream streamId requestId uni now).1 := by
  simp only [bindStream]
  split
  · exact Evolves.refl _ s
  · rename_i hopen
    exact Evolves.of_state (fun _ => by simpa using hopen) ⟨rfl, rfl, rfl, rfl, rfl, rfl⟩ rfl rfl

theorem subjects_refuseStream (streamId : StreamId) (direction : StreamDirection)
    (errorCode : ErrorCode) : subjects (refuseStream streamId direction errorCode) = [] := by
  unfold refuseStream
  split <;> rfl

theorem balanced_admitStream (hs : s.StreamsWF) (hfresh : s.streams.get? streamId = none) :
    Balanced s [] [streamId] (s.admitStream streamId direction now) := by
  simp only [admitStream]
  split
  · have hclosed := balanced_closePeerStream hs (decide (direction = .receiveOnly))
    exact (hclosed.prepend (subjects_refuseStream streamId direction
      errWtBufferedStreamRejected)).widen _
  · have hadded := balanced_insert_new hs hfresh
      (Stream.wf_new streamId s.id direction true ⟨s.maxWriteBufferSize⟩ now) rfl
    refine ⟨hadded.wf, hadded.keys, fun r => ?_⟩
    have := hadded.count r
    split <;> exact this

theorem evolves_admitStream (hopen : s.isOpen = true) :
    Evolves [streamId] s (s.admitStream streamId direction now).1 := by
  simp only [admitStream]
  split
  · obtain ⟨_, _, h⟩ := s.closePeerStream_shape (decide (direction = .receiveOnly))
    rw [h]
    exact Evolves.of_state (fun _ => hopen) ⟨rfl, rfl, rfl, rfl, rfl, rfl⟩ rfl rfl
  · refine ⟨⟨rfl, rfl, rfl, rfl, rfl, rfl⟩, Nat.le_refl _, ?_, fun _ => Settled.of_open hopen⟩
    show List.Sublist (if s.state = .connecting then s.pendingStreams ++ [streamId]
      else s.pendingStreams) _
    split
    · exact List.Sublist.refl _
    · exact List.sublist_append_left _ _

theorem balanced_handleStreamOpened (hs : s.StreamsWF) (hfresh : s.streams.get? streamId = none) :
    Balanced s [] [streamId] (s.handleStreamOpened streamId now) := by
  have hopened : ∀ uni : Bool, Balanced s [] [streamId]
      (if s.flowControlNegotiated &&
          decide (s.peerStreamsOpened uni ≥ s.localMaxStreams uni) then
        ((s.abort errWtFlowControlError "wt_session validate exceeded" now).1,
          refuseStream streamId (streamDirectionFromId streamId s.isClient) errWtSessionGone ++
            (s.abort errWtFlowControlError "wt_session validate exceeded" now).2)
      else
        (s.setPeerStreamsOpened uni (s.peerStreamsOpened uni + 1)).admitStream streamId
          (streamDirectionFromId streamId s.isClient) now) := by
    intro uni
    split
    · exact ((s.sound_abort.balanced hs).prepend
        (subjects_refuseStream streamId (streamDirectionFromId streamId s.isClient)
          errWtSessionGone)).widen _
    · have hsame : SameQueues s (s.setPeerStreamsOpened uni (s.peerStreamsOpened uni + 1)) := by
        obtain ⟨_, _, h⟩ := s.setPeerStreamsOpened_shape
        rw [h]
        exact ⟨rfl, rfl, rfl, rfl⟩
      exact (balanced_admitStream (hsame.streamsWF hs)
        (by rw [hsame.streams]; exact hfresh)).of_same hsame
  simp only [handleStreamOpened]
  split
  · exact (Balanced.unchanged hs (subjects_refuseStream ..)).widen _
  · split
    · exact Balanced.widen (Balanced.unchanged hs subjects_nil) _
    all_goals exact hopened _

theorem evolves_handleStreamOpened :
    Evolves [streamId] s (s.handleStreamOpened streamId now).1 := by
  simp only [handleStreamOpened]
  split
  · exact Evolves.refl _ s
  · rename_i hopen
    have hopen : s.isOpen = true := by simpa using hopen
    have hopened : ∀ (uni : Bool) (direction : StreamDirection), Evolves [streamId] s
        ((s.setPeerStreamsOpened uni (s.peerStreamsOpened uni + 1)).admitStream streamId direction
          now).1 := by
      intro uni direction
      obtain ⟨_, _, hset⟩ := s.setPeerStreamsOpened_shape
      rw [hset]
      refine Evolves.trans ?_ (evolves_admitStream (by simpa [isOpen] using hopen))
      exact Evolves.of_state (fun _ => hopen) ⟨rfl, rfl, rfl, rfl, rfl, rfl⟩ rfl rfl
    split
    · exact Evolves.refl _ s
    all_goals
      split
      · exact s.sound_abort.evolves.widen _
      · exact hopened _ _

/-! ## Datagram requests -/

theorem sound_readDatagram (s : Session) : Sound s [requestId] [] (s.readDatagram requestId) := by
  simp only [readDatagram]
  split
  · exact .unchanged rfl
  · rename_i hopen
    have hopen : s.Settled → s.isOpen = true := fun _ => by simpa using hopen
    have hwait : Sound s [requestId] []
        ({ s with pendingDatagramRequests := s.pendingDatagramRequests ++ [requestId] }, []) := by
      refine .of_balanced (fun hs => ⟨hs, fun k hk _ => hk, fun r => ?_⟩) hopen rfl rfl
        ⟨rfl, rfl, rfl, rfl, rfl, rfl⟩
      simp only [count_waiting, subjects_nil, List.count_nil, List.count_append]
      omega
    split
    · exact hwait
    · split
      · exact hwait
      · exact .steady hopen rfl rfl rfl

theorem sound_sendDatagram (s : Session) {size : Nat} :
    Sound s [requestId] [] (s.sendDatagram requestId data size) := by
  unfold sendDatagram
  split
  · exact .unchanged rfl
  · split
    · exact .unchanged rfl
    · exact .unchanged rfl

/-! ## Operations on one stream -/

/-- A method of one stream, lifted to the session. -/
theorem balanced_onStream (hs : s.StreamsWF) (method : Stream → Stream × List Effect)
    (habsent : subjects absent = given)
    (hmethod : ∀ stream, s.streams.get? streamId = some stream → (method stream).1.WF ∧
      ∀ r, (subjects (method stream).2).count r + (method stream).1.waiting.count r =
        given.count r + stream.waiting.count r) :
    Balanced s given [] (s.onStream streamId absent method) := by
  unfold onStream
  split
  · exact Balanced.unchanged hs habsent
  · rename_i stream hget
    obtain ⟨hwf, hcount⟩ := hmethod stream hget
    have hinsert := balanced_insert hs hget hwf hcount
    exact hinsert.trans (balanced_handleClosed hinsert.wf streamId)

theorem evolves_onStream (method : Stream → Stream × List Effect) :
    Evolves [] s (s.onStream streamId absent method).1 := by
  unfold onStream
  split
  · exact Evolves.refl _ s
  · rename_i stream hget
    obtain ⟨_, _, _, _, h⟩ := handleClosed_shape
      { s with streams := s.streams.insert streamId (method stream).1 } streamId
    simp only [h]
    exact Evolves.of_state (fun hs => hs.isOpen_of_stream hget) ⟨rfl, rfl, rfl, rfl, rfl, rfl⟩ rfl rfl

/-- A writing method of one stream, lifted to the session. -/
theorem balanced_onWriter (hs : s.StreamsWF) (method : Stream → Nat → Stream × List Effect × Nat)
    (habsent : subjects absent = given) (hmethod : ∀ stream, s.streams.get? streamId = some stream →
      (method stream s.sessionCredit).1.WF ∧
      ∀ r, (subjects (method stream s.sessionCredit).2.1).count r +
          (method stream s.sessionCredit).1.waiting.count r =
        given.count r + stream.waiting.count r) :
    Balanced s given [] (s.onWriter streamId absent method) := by
  simp only [onWriter]
  split
  · exact Balanced.unchanged hs habsent
  · rename_i stream hget
    obtain ⟨hwf, hcount⟩ := hmethod stream hget
    have hinsert := balanced_insert hs hget hwf hcount
    refine Balanced.trans (hinsert.to_same ?_) (balanced_emitDataBlocked ?_)
    · split
      · exact ⟨rfl, rfl, rfl, rfl⟩
      · exact ⟨rfl, rfl, rfl, rfl⟩
    · split
      · exact hinsert.wf
      · exact hinsert.wf

theorem evolves_onWriter (method : Stream → Nat → Stream × List Effect × Nat) :
    Evolves [] s (s.onWriter streamId absent method).1 := by
  simp only [onWriter]
  split
  · exact Evolves.refl _ s
  · rename_i stream hget
    split
    all_goals
      obtain ⟨_, h⟩ := emitDataBlocked_shape _
      rw [h]
      exact Evolves.of_state (fun hs => hs.isOpen_of_stream hget) ⟨rfl, rfl, rfl, rfl, rfl, rfl⟩
        rfl rfl

theorem sound_recvStreamData (s : Session) {endStream : Bool} :
    Sound s [] [] (s.recvStreamData streamId data endStream now) := by
  simp only [recvStreamData]
  split
  · exact .unchanged rfl
  · rename_i stream hget
    have hopen : s.Settled → s.isOpen = true := fun hs => hs.isOpen_of_stream hget
    split
    · have hcharged : Sound s [] []
          ({ s with dataReceived := s.dataReceived + data.length }, []) := .steady hopen rfl rfl rfl
      exact hcharged.trans (sound_abort ..)
    · obtain ⟨_, _, _, _, h⟩ := handleClosed_shape _ streamId
      obtain ⟨_, h'⟩ := replenishDataCredit_shape
      refine .of_balanced (fun hs => ?_) hopen (by rw [h, h']; rfl) (by rw [h, h']; rfl) ?_
      · have hinsert : Balanced s [] []
            ({ s with streams := s.streams.insert streamId (stream.recvData data endStream).1 },
              (stream.recvData data endStream).2) :=
          balanced_insert hs hget (Stream.wf_recvData (hs streamId stream hget))
            (fun r => by rw [Stream.count_recvData, List.count_nil, Nat.zero_add])
        have hconsumed : Session.StreamsWF
            { s with
              dataReceived := s.dataReceived + data.length
              streams := s.streams.insert streamId (stream.recvData data endStream).1
              dataConsumed := s.dataConsumed + data.length } := hinsert.wf
        have hcredit := balanced_replenishDataCredit hconsumed false
        refine Balanced.trans (Balanced.trans (hinsert.to_same ?_) hcredit)
          (balanced_handleClosed hcredit.wf streamId)
        exact ⟨rfl, rfl, rfl, rfl⟩
      · rw [h, h']
        exact ⟨rfl, rfl, rfl, rfl, rfl, rfl⟩

theorem evolves_flushBlockedStreamRequests : Evolves [] s (s.flushBlockedStreamRequests uni).1 := by
  obtain ⟨_, _, _, _, _, _, h⟩ := s.flushBlockedStreamRequests_shape
  refine ⟨by rw [h]; exact ⟨rfl, rfl, rfl, rfl, rfl, rfl⟩, by rw [h],
    by rw [h]; exact List.sublist_append_left _ _, fun hs hclosed => ?_⟩
  have hopen : s.isOpen = false := by
    rw [← hclosed]
    exact (isOpen_congr (by rw [h])).symm
  -- with an empty queue there is nothing to flush
  have hempty := hs hopen
  cases uni <;>
    simp only [flushBlockedStreamRequests, blockedStreamRequests, hempty.bidi, hempty.uni,
      flushBlockedStreamRequestsLoop, if_true, Bool.false_eq_true, if_false,
      setBlockedStreamRequests, emitStreamsBlocked, List.isEmpty_nil, true_or]
  all_goals
    split
    · exact ⟨hempty.streams, rfl, rfl, hempty.datagrams⟩
    · exact ⟨hempty.streams, rfl, rfl, hempty.datagrams⟩

end Session

/-! ## The law of every operation -/

/-- The request an operation of the user leaves with the session. -/
def SessionOp.submits : SessionOp → Option RequestId
  | .accept requestId .. | .close requestId .. | .createStream requestId ..
  | .diagnose requestId | .diagnoseStream _ requestId | .readDatagram requestId
  | .readStream _ requestId _ | .reject requestId .. | .resetStream _ requestId _
  | .sendDatagram requestId .. | .stopStream _ requestId _ | .writeStream _ requestId .. =>
    some requestId
  | _ => none

/-- The request of an operation that the TLS layer answers. -/
def SessionOp.exports : SessionOp → Option RequestId
  | .exportKeyingMaterial requestId .. => some requestId
  | _ => none

/-- The stream creation an operation answers: its request and direction. -/
def SessionOp.answers : SessionOp → Option (RequestId × Bool)
  | .bindStream _ requestId uni _ => some (requestId, uni)
  | .deferStream requestId uni => some (requestId, uni)
  | _ => none

/-- The requests an operation hands to the session. -/
def SessionOp.given (op : SessionOp) : List RequestId :=
  op.submits.toList ++ (op.answers.map Prod.fst).toList

/-- The stream an operation may add. -/
def SessionOp.adds : SessionOp → List StreamId
  | .bindStream streamId .. | .handleStreamOpened streamId _ => [streamId]
  | _ => []

/-- What the caller promises: a stream to add is new, a write has a request
that waits nowhere, and only a stream without a write in flight is
acknowledged. -/
def SessionOp.Fits (s : Session) : SessionOp → Prop
  | .bindStream streamId .. | .handleStreamOpened streamId _ => s.streams.get? streamId = none
  | .writeStream _ requestId .. => requestId ∉ s.waiting
  | .handleStreamDataAcknowledged streamId =>
    ∀ stream, s.streams.get? streamId = some stream → stream.pendingWriteRequest = none
  | _ => True

namespace Session

variable {s : Session}

variable {streamId : StreamId} {requestId : RequestId} {errorCode : ErrorCode}

theorem not_mem_waiting_stream {stream : Stream} (hget : s.streams.get? streamId = some stream)
    (hfresh : requestId ∉ s.waiting) : requestId ∉ stream.waiting := by
  intro hin
  have hle := s.streams.count_le Stream.waiting hget requestId
  have hzero := List.count_eq_zero.mpr hfresh
  have hpos := List.count_pos_iff.mpr hin
  rw [count_waiting, streamsWaiting] at hzero
  omega

section

variable (hs : s.StreamsWF)
include hs

theorem balanced_writeStream {data : Bytes} {endStream : Bool} (hfresh : requestId ∉ s.waiting) :
    Balanced s [requestId] [] (s.writeStream streamId requestId data endStream) := by
  refine balanced_onWriter hs _ ?_ (fun stream hget => ?_)
  · split <;> rfl
  · have hnew := not_mem_waiting_stream hget hfresh
    have hwf := hs streamId stream hget
    exact ⟨Stream.wf_write hwf hnew,
      Stream.count_write hwf hnew⟩

theorem balanced_completeStreamWrite :
    Balanced s [] [] (s.completeStreamWrite streamId) := by
  refine balanced_onWriter hs _ rfl (fun stream hget => ?_)
  have hwf := hs streamId stream hget
  exact ⟨Stream.wf_completeWrite hwf, fun r => by
    rw [Stream.count_completeWrite hwf, List.count_nil, Nat.zero_add]⟩

theorem balanced_handleStreamDataAcknowledged
    (hfit : ∀ stream, s.streams.get? streamId = some stream →
      stream.pendingWriteRequest = none) :
    Balanced s [] [] (s.handleStreamDataAcknowledged streamId) := by
  refine balanced_onStream hs _ rfl (fun stream hget => ?_)
  exact ⟨Stream.wf_handleDataAcknowledged (hs streamId stream hget) (hfit stream hget),
    fun r => by simp⟩

theorem balanced_recvStopSending :
    Balanced s [] [] (s.recvStopSending streamId errorCode) := by
  refine balanced_onStream hs _ rfl (fun stream hget => ?_)
  refine ⟨Stream.wf_recvStopSending (hs streamId stream hget), fun r => ?_⟩
  rw [subjects_suppressPendingStreamEvents, Stream.count_recvStopSending, List.count_nil,
    Nat.zero_add]

theorem balanced_recvStreamReset :
    Balanced s [] [] (s.recvStreamReset streamId errorCode) := by
  refine balanced_onStream hs _ rfl (fun stream hget => ?_)
  refine ⟨Stream.wf_recvReset (hs streamId stream hget), fun r => ?_⟩
  rw [subjects_suppressPendingStreamEvents, Stream.count_recvReset, List.count_nil, Nat.zero_add]

theorem balanced_exec {op : SessionOp} (hfit : op.Fits s)
    (hexports : op.exports = none) : Balanced s op.given op.adds (s.exec op) := by
  cases op with
  | abort => exact s.sound_abort.balanced hs
  | accept => exact s.sound_accept.balanced hs
  | bindStream streamId requestId uni now =>
    exact balanced_bindStream hs hfit
  | close => exact s.sound_close.balanced hs
  | completeStreamWrite => exact balanced_completeStreamWrite hs
  | confirm => exact s.sound_confirm.balanced hs
  | createStream => exact s.sound_createStream.balanced hs
  | deferStream => exact s.sound_deferStream.balanced hs
  | diagnose requestId => exact Balanced.unchanged hs rfl
  | diagnoseStream streamId requestId =>
    refine Balanced.unchanged hs ?_
    simp only [diagnoseStream]
    split <;> rfl
  | drain => exact s.sound_drain.balanced hs
  | exportKeyingMaterial requestId label context length => cases hexports
  | flushBlockedStreamRequests => exact balanced_flushBlockedStreamRequests hs
  | handleStreamDataAcknowledged streamId =>
    exact balanced_handleStreamDataAcknowledged hs hfit
  | handleStreamOpened streamId now => exact balanced_handleStreamOpened hs hfit
  | readDatagram => exact s.sound_readDatagram.balanced hs
  | readStream streamId requestId maxBytes =>
    exact balanced_onStream hs _ rfl (fun stream hget =>
      ⟨Stream.wf_read (hs streamId stream hget), Stream.count_read⟩)
  | recvCapsule => exact (s.sound_recvCapsule ..).balanced hs
  | recvConnectClose => exact s.sound_recvConnectClose.balanced hs
  | recvDatagram => exact s.sound_recvDatagram.balanced hs
  | recvStopSending => exact balanced_recvStopSending hs
  | recvStreamData => exact s.sound_recvStreamData.balanced hs
  | recvStreamReset => exact balanced_recvStreamReset hs
  | reject => exact s.sound_reject.balanced hs
  | resetStream streamId requestId errorCode =>
    exact balanced_onStream hs _ rfl (fun stream hget =>
      ⟨Stream.wf_reset (hs streamId stream hget), Stream.count_reset⟩)
  | sendDatagram => exact s.sound_sendDatagram.balanced hs
  | stopStream streamId requestId errorCode =>
    exact balanced_onStream hs _ rfl (fun stream hget =>
      ⟨Stream.wf_stop (hs streamId stream hget), Stream.count_stop⟩)
  | writeStream streamId requestId data endStream =>
    exact balanced_writeStream hs hfit

end

theorem evolves_exec (s : Session) (op : SessionOp) : Evolves op.adds s (s.exec op).1 := by
  cases op with
  | abort => exact s.sound_abort.evolves
  | accept => exact s.sound_accept.evolves
  | bindStream streamId requestId uni now =>
    exact evolves_bindStream.widen _
  | close => exact s.sound_close.evolves
  | completeStreamWrite streamId => exact evolves_onWriter _
  | confirm => exact s.sound_confirm.evolves
  | createStream => exact s.sound_createStream.evolves
  | deferStream => exact s.sound_deferStream.evolves
  | diagnose requestId | diagnoseStream streamId requestId => exact Evolves.refl _ s
  | drain => exact s.sound_drain.evolves
  | exportKeyingMaterial requestId label context length => exact Evolves.refl _ s
  | flushBlockedStreamRequests => exact evolves_flushBlockedStreamRequests
  | handleStreamDataAcknowledged streamId => exact evolves_onStream _
  | handleStreamOpened => exact evolves_handleStreamOpened
  | readDatagram => exact s.sound_readDatagram.evolves
  | readStream streamId requestId maxBytes => exact evolves_onStream _
  | recvCapsule => exact (s.sound_recvCapsule ..).evolves
  | recvConnectClose => exact s.sound_recvConnectClose.evolves
  | recvDatagram => exact s.sound_recvDatagram.evolves
  | recvStopSending streamId errorCode => exact evolves_onStream _
  | recvStreamData => exact s.sound_recvStreamData.evolves
  | recvStreamReset streamId errorCode => exact evolves_onStream _
  | reject => exact s.sound_reject.evolves
  | resetStream streamId requestId errorCode => exact evolves_onStream _
  | sendDatagram => exact s.sound_sendDatagram.evolves
  | stopStream streamId requestId errorCode => exact evolves_onStream _
  | writeStream streamId requestId data endStream => exact evolves_onWriter _

end Session

end PyWebTransport

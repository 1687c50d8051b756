/-
PyWebTransport.Protocol.Session.BlockedSignals — what is true when a session
tells its peer that it is held up.

`emit_data_blocked` looks at the set of blocked streams, not at the streams.
A stream that is reset while it waits stays in the set, or in the queue from
which a flush puts it back, so the session may report that it waits for
credit although no stream does. As long as no stream that waits is reset or
stopped, every entry is a stream that is stuck at the front of its buffer
(`Current`), and the report is true in the state in which it is made. The
reports about streams look at what they are about and are always true.
-/
import PyWebTransport.Protocol.Session.Replay
import PyWebTransport.Protocol.Session.Signals

namespace PyWebTransport

open PyWebTransport.Lib

/-! ## Streams that are stuck -/

namespace Stream

variable {s : Stream}

variable {credit : Nat}

/-- Data is waiting and no write is in flight. -/
def Stuck (s : Stream) : Prop :=
  s.pendingWriteRequest = none ∧ ∃ entry rest, s.writeBuffer = entry :: rest ∧ entry.data ≠ []

theorem Stuck.isBlocked (h : s.Stuck) : s.isBlocked = true := by
  obtain ⟨hidle, entry, rest, hbuffer, -⟩ := h
  simp [Stream.isBlocked, hidle, hbuffer]

theorem Stuck.not_isClosed (h : s.Stuck) (hsteady : s.Steady) : s.isClosed = false := by
  obtain ⟨-, entry, rest, hbuffer, -⟩ := h
  have hready := hsteady.ready (by simp [hbuffer])
  simp [isClosed, isSendTerminated, hready]

/-- Without credit a stuck stream stays as it is. -/
theorem Stuck.flushWrites (h : s.Stuck) : s.flushWrites 0 = (s, [], 0) := by
  obtain ⟨hidle, entry, rest, hbuffer, hdata⟩ := h
  unfold Stream.flushWrites
  rw [hbuffer]
  simp [List.length_pos_iff.mpr hdata]

theorem Stuck.enqueueWrite (h : s.Stuck) (entry : WriteEntry) : (s.enqueueWrite entry).Stuck := by
  obtain ⟨hidle, front, rest, hbuffer, hdata⟩ := h
  exact ⟨hidle, front, rest ++ [entry], by simp [Stream.enqueueWrite, hbuffer], hdata⟩

/-- A flush that leaves the stream blocked leaves it stuck. -/
theorem stuck_flushWrites (hsteady : s.Steady)
    (hblocked : (s.flushWrites credit).1.isBlocked = true) : (s.flushWrites credit).1.Stuck := by
  obtain ⟨rfl, hidle, hfront⟩ := stuck_of_isBlocked_flushWrites hsteady hblocked
  have hstuck : s.Stuck := ⟨hidle, hfront⟩
  rw [hstuck.flushWrites]
  exact hstuck

/-- The methods that write leave a stream that is blocked stuck, if it was
stuck whenever it was blocked; and they do not help a stuck one without
credit. -/
structure LeavesStuck (s : Stream) (credit : Nat) (t : Stream) : Prop where
  blocked : (s.isBlocked = true → s.Stuck) → t.isBlocked = true → t.Stuck
  helpless : s.Stuck → credit = 0 → t.Stuck

theorem leavesStuck_completeWrite (hsteady : s.Steady) :
    LeavesStuck s credit (s.completeWrite credit).1 := by
  unfold completeWrite
  split
  · exact ⟨fun h hblocked => h hblocked, fun h _ => h⟩
  · rename_i requestId hpending
    refine ⟨fun _ hblocked => stuck_flushWrites (steady_detach hsteady) hblocked, ?_⟩
    rintro ⟨hidle, -⟩ -
    rw [hpending] at hidle
    cases hidle

theorem leavesStuck_write (hsteady : s.Steady) {requestId : RequestId} {data : Bytes}
    {endStream : Bool} : LeavesStuck s credit (s.write requestId data endStream credit).1 := by
  rcases s.write_cases requestId data endStream credit with ⟨htakes, heq⟩ | ⟨-, _, heq, -⟩ <;>
    rw [heq]
  · refine ⟨fun _ hblocked => ?_, fun hstuck hcredit => ?_⟩
    · exact stuck_flushWrites (steady_enqueueWrite hsteady htakes _) hblocked
    · subst hcredit
      rw [(hstuck.enqueueWrite _).flushWrites]
      exact hstuck.enqueueWrite _
  · exact ⟨fun h hblocked => h hblocked, fun h _ => h⟩

theorem Stuck.keepsBuffer {t : Stream} (h : s.Stuck) (hkeeps : KeepsBuffer s t) : t.Stuck := by
  obtain ⟨hidle, hfront⟩ := h
  refine ⟨hkeeps.pending.trans hidle, ?_⟩
  rw [hkeeps.buffer]
  exact hfront

end Stream

/-- A call that writes gives up nothing. -/
theorem SessionOp.givesUp_of_writesTo {op : SessionOp} {k : StreamId} (h : op.writesTo = some k) :
    op.givesUp = none := by
  cases op <;> first | rfl | cases h

/-! ## An up-to-date set of blocked streams -/

namespace Session

variable {op : SessionOp} {s t : Session} {effects : List Effect} {P : Session → Nat → Prop}
  {streamId : StreamId} {signal : Signal}

variable {uni : Bool} {now : Timestamp}

variable {other : Bool} {capsuleType : Nat} {capsuleValue : Bytes}

/-- Whatever is in the set of blocked streams, or in their queue, is a stream
that is stuck. -/
structure Current (s : Session) : Prop where
  queued : ∀ k ∈ s.blockedStreamsQueue, k ∈ s.blockedStreams
  stuck : ∀ k ∈ s.blockedStreams, ∃ stream, s.streams.get? k = some stream ∧ stream.Stuck

/-- The call gives up no stream that waits for credit. -/
def Spares (s : Session) (op : SessionOp) : Prop :=
  ∀ k, op.givesUp = some k → k ∉ s.blockedStreams

instance (s : Session) (op : SessionOp) : Decidable (s.Spares op) :=
  match h : op.givesUp with
  | none => .isTrue fun k hk => by rw [h] at hk; cases hk
  | some k => decidable_of_iff (k ∉ s.blockedStreams)
      ⟨fun hk _ hj => by rw [h] at hj; cases hj; exact hk, fun hs => hs k h⟩

section

variable (hs : s.Current)
include hs

theorem Current.same (h : SameAccount s t) : t.Current where
  queued := by
    rw [h.blockedStreams, h.blockedStreamsQueue]
    exact hs.queued
  stuck := by
    rw [h.blockedStreams, h.streams]
    exact hs.stuck

/-- A blocked stream that is there is stuck, since it is in the set. -/
theorem Current.stuck_of_isBlocked (hlined : s.Lined) {k : StreamId}
    {stream : Stream} (hget : s.streams.get? k = some stream) (hblocked : stream.isBlocked = true) :
    stream.Stuck := by
  obtain ⟨found, hfound, hstuck⟩ := hs.stuck k (hlined.listed hget hblocked)
  rw [hget] at hfound
  cases hfound
  exact hstuck

/-- One stream is put into the table, and no other joins the set. -/
theorem Current.put {new : Stream} (hstreams : t.streams = s.streams.insert streamId new)
    (hqueued : ∀ k ∈ t.blockedStreamsQueue, k ∈ t.blockedStreams)
    (hothers : ∀ k ∈ t.blockedStreams, k ≠ streamId → k ∈ s.blockedStreams)
    (hstuck : streamId ∈ t.blockedStreams → new.Stuck) : t.Current := by
  refine ⟨hqueued, fun k hk => ?_⟩
  rw [hstreams]
  by_cases hname : k = streamId
  · subst hname
    exact ⟨new, OrderedMap.get?_insert_self _ _ _, hstuck hk⟩
  · obtain ⟨stream, hget, hold⟩ := hs.stuck k (hothers k hk hname)
    exact ⟨stream, (s.streams.get?_insert_of_ne new (Ne.symm hname)).trans hget, hold⟩

/-- A round of the flush takes streams out of the set and adds none. -/
theorem Current.round (hlined : s.Lined) (h : Round s effects t) :
    t.Current ∧ t.Lined ∧ t.blockedStreams ⊆ s.blockedStreams := by
  cases h with
  | @putBack streamId rest queue spent =>
    have hmem : streamId ∈ s.blockedStreams := hs.queued streamId (by simp [queue])
    rw [Finset.insert_eq_of_mem hmem]
    exact ⟨hs, hlined, Finset.Subset.refl _⟩
  | @stale streamId rest queue absent =>
    -- what is in the queue is there
    obtain ⟨stream, hget, -⟩ := hs.stuck streamId (hs.queued streamId (by simp [queue]))
    rw [absent] at hget
    cases hget
  | @flush streamId rest stream queue credit present =>
    refine ⟨?_, (hlined.flush queue present credit).1, ?_⟩ <;>
      rw [flushBlockedStream_of_credit (hlined.steady present) credit]
    · refine hs.put rfl (fun k hk => ?_) (fun k hk _ => ?_) (fun hk => ?_)
      · have hne : k ≠ streamId := by
          rintro rfl
          exact List.count_eq_zero.mp (hlined.front queue present).2 hk
        exact Finset.mem_erase.mpr ⟨hne, hs.queued k (by rw [queue]; exact .tail _ hk)⟩
      · exact Finset.mem_of_mem_erase hk
      · exact absurd hk (Finset.notMem_erase _ _)
    · exact Finset.erase_subset _ _

theorem Current.rounds (hlined : s.Lined) (h : Chain Round s effects t) :
    t.Current ∧ t.Lined ∧ t.blockedStreams ⊆ s.blockedStreams := by
  induction h with
  | refl s => exact ⟨hs, hlined, Finset.Subset.refl _⟩
  | head round _ ih =>
    obtain ⟨hmid, hmidLined, hsub⟩ := hs.round hlined round
    obtain ⟨hlast, hlastLined, hrest⟩ := ih hmid hmidLined
    exact ⟨hlast, hlastLined, hrest.trans hsub⟩

theorem Current.maxDataRaised (hlined : s.Lined) {limit : Nat} (hmore : s.peerMaxData < limit) :
    (s.maxDataRaised limit).1.Current ∧
      (s.maxDataRaised limit).1.blockedStreams ⊆ s.blockedStreams := by
  have hraised : Current { s with peerMaxData := limit } := ⟨hs.queued, hs.stuck⟩
  obtain ⟨hcurrent, -, hsub⟩ :=
    hraised.rounds (hlined.raised hmore) (s.rounds_maxDataRaised limit)
  exact ⟨hcurrent, hsub⟩

theorem Current.written (hfunded : s.Funded) {streamId : StreamId} {stream : Stream}
    (hget : s.streams.get? streamId = some stream) {result : Stream × List Effect × Nat}
    (hleaves : Stream.LeavesStuck stream s.sessionCredit result.1) :
    (s.written streamId result).Current := by
  have hblocked : result.1.isBlocked = true → result.1.Stuck :=
    hleaves.blocked fun h => hs.stuck_of_isBlocked hfunded.lined hget h
  have hlisted : streamId ∈ s.blockedStreams → result.1.Stuck := by
    intro hmem
    obtain ⟨found, hfound, hstuck⟩ := hs.stuck streamId hmem
    rw [hget] at hfound
    cases hfound
    exact hleaves.helpless hstuck (hfunded.spent streamId stream hget hstuck.isBlocked)
  unfold Session.written
  dsimp only
  split
  · rename_i hjoins
    simp only [Bool.and_eq_true, decide_eq_true_eq] at hjoins
    refine hs.put rfl (fun k hk => ?_) (fun k hk hne => ?_) (fun _ => hblocked hjoins.1)
    · rcases List.mem_append.mp hk with hk | hk
      · exact Finset.mem_insert_of_mem (hs.queued k hk)
      · rw [List.mem_singleton.mp hk]
        exact Finset.mem_insert_self _ _
    · exact (Finset.mem_insert.mp hk).resolve_left hne
  · exact hs.put rfl hs.queued (fun k hk _ => hk) hlisted

theorem Current.dropped (hlined : s.Lined) {streamId : StreamId}
    {stream : Stream} (hget : s.streams.get? streamId = some stream)
    (hgone : stream.isClosed = true) : (s.dropped streamId).Current := by
  have hunlisted : streamId ∉ s.blockedStreams := by
    intro hmem
    obtain ⟨found, hfound, hstuck⟩ := hs.stuck streamId hmem
    rw [hget] at hfound
    cases hfound
    rw [hstuck.not_isClosed (hlined.steady hget)] at hgone
    cases hgone
  obtain ⟨_, _, hshape⟩ := s.dropped_shape
  rw [hshape]
  refine ⟨?_, ?_⟩ <;> dsimp only <;> rw [Finset.erase_eq_of_notMem hunlisted]
  · exact hs.queued
  · intro k hk
    obtain ⟨found, hfound, hstuck⟩ := hs.stuck k hk
    have hne : streamId ≠ k := by
      rintro rfl
      exact hunlisted hk
    exact ⟨found, (s.streams.get?_erase_of_ne hne).trans hfound, hstuck⟩

end

/-- In an open session the set is up to date, and the call `op` keeps it so. -/
def Attended (op : SessionOp) (s : Session) : Prop :=
  s.isOpen = true → s.Current ∧ s.Spares op

theorem Attended.same (hs : s.Attended op) (h : SameAccount s t) (hopen : t.isOpen = s.isOpen) :
    t.Attended op := by
  intro ht
  rw [hopen] at ht
  obtain ⟨hcurrent, hspares⟩ := hs ht
  refine ⟨hcurrent.same h, fun k hk => ?_⟩
  rw [h.blockedStreams]
  exact hspares k hk

theorem Attended.method (hs : s.Attended op) {streamId : StreamId} {stream : Stream}
    {call : ReceiveCall} (hget : s.streams.get? streamId = some stream)
    (hplain : call.isWriter = false)
    (hcut : call.cuts = true → op.givesUp = some streamId ∨ s.isOpen = false) :
    Attended op { s with streams := s.streams.insert streamId (stream.receive call).1 } := by
  intro hopen
  have hopen : s.isOpen = true := hopen
  obtain ⟨hcurrent, hspares⟩ := hs hopen
  refine ⟨hcurrent.put rfl hcurrent.queued (fun k hk _ => hk) (fun hmem => ?_), hspares⟩
  have huncut : call.cuts = false := by
    rw [← Bool.not_eq_true]
    intro hcuts
    rcases hcut hcuts with hgives | hgone
    · exact hspares streamId hgives hmem
    · rw [hopen] at hgone
      cases hgone
  obtain ⟨found, hfound, hstuck⟩ := hcurrent.stuck streamId hmem
  rw [hget] at hfound
  cases hfound
  exact hstuck.keepsBuffer (stream.keepsBuffer_of_uncut hplain huncut)

theorem Attended.move (hs : s.Attended op) (hfunded : s.Funded) (h : Move op s effects t) :
    t.Attended op := by
  have hsame : t.isOpen = s.isOpen := h.isOpen_eq
  cases h with
  | calm core => exact hs.same core.account hsame
  | grantStreams uni => cases uni <;> exact hs.same ⟨rfl, rfl, rfl, rfl, rfl, rfl⟩ rfl
  | dataBlocked core | streamsBlocked core => exact hs.same core.account hsame
  | accepted headers data requestId server waiting core | confirmed data named waiting core =>
    exact hs.same ⟨core.blockedStreams, core.blockedStreamsQueue, core.dataSent,
      core.flowControlNegotiated, core.peerMaxData, core.streams⟩ hsame
  | method call present plain cut => exact hs.method present plain cut
  | @dropped streamId stream present gone =>
    intro ht
    obtain ⟨hcurrent, hspares⟩ := hs (hsame.symm.trans ht)
    refine ⟨hcurrent.dropped hfunded.lined present gone, fun k hk hmem => hspares k hk ?_⟩
    obtain ⟨_, _, hshape⟩ := s.dropped_shape
    rw [hshape] at hmem
    exact Finset.mem_of_mem_erase hmem
  | @written streamId stream result present named method =>
    intro ht
    obtain ⟨hcurrent, -⟩ := hs (hsame.symm.trans ht)
    have hsteady := hfunded.lined.steady present
    refine ⟨hcurrent.written hfunded present ?_, fun k hk => ?_⟩
    · rcases method with rfl | ⟨requestId, data, endStream, rfl⟩
      · exact Stream.leavesStuck_completeWrite hsteady
      · exact Stream.leavesStuck_write hsteady
    · rw [SessionOp.givesUp_of_writesTo named] at hk
      cases hk
  | maxDataRaised limit established negotiated more =>
    intro ht
    obtain ⟨hcurrent, hspares⟩ := hs (hsame.symm.trans ht)
    obtain ⟨hraised, hsub⟩ := hcurrent.maxDataRaised hfunded.lined more
    exact ⟨hraised, fun k hk hmem => hspares k hk (hsub hmem)⟩
  | cleared gone =>
    intro ht
    rw [hsame, gone] at ht
    cases ht
  | drained | closed => exact hs.same ⟨rfl, rfl, rfl, rfl, rfl, rfl⟩ hsame
  | _ => exact hs.same ⟨rfl, rfl, rfl, rfl, rfl, rfl⟩ rfl

theorem Attended.opening {used : List StreamId} (hs : s.Attended op) (hw : s.Within used)
    (h : Opening op s effects t) (hfresh : ∀ k ∈ op.adds, k ∉ used) : t.Attended op := by
  have hadd : ∀ {streamId : StreamId} {new : Stream} {t : Session}, streamId ∈ op.adds →
      t.streams = s.streams.insert streamId new → t.blockedStreams = s.blockedStreams →
      t.blockedStreamsQueue = s.blockedStreamsQueue → t.state = s.state → t.Attended op := by
    intro streamId new t hadds hstreams hset hqueue hstate hopen
    rw [isOpen_congr hstate] at hopen
    obtain ⟨hcurrent, hspares⟩ := hs hopen
    have hunlisted : streamId ∉ s.blockedStreams :=
      fun hmem => hfresh streamId hadds (hw.blocked streamId hmem)
    refine ⟨hcurrent.put hstreams ?_ ?_ ?_, fun k hk => ?_⟩ <;> rw [hset]
    · rw [hqueue]
      exact hcurrent.queued
    · exact fun k hk _ => hk
    · exact fun hmem => absurd hmem hunlisted
    · exact hspares k hk
  cases h with
  | bound streamId requestId uni now named =>
    exact hadd (by simp [named, SessionOp.adds]) rfl rfl rfl rfl
  | @admitted streamId now direction named =>
    obtain ⟨_, _, hshape⟩ := s.admitted_shape
    rw [hshape]
    exact @hadd streamId _ _ (by simp [named, SessionOp.adds]) rfl rfl rfl rfl
  | @turnedAway _ streamId now direction =>
    obtain ⟨_, _, _, _, hshape⟩ := s.turnedAway_shape
    rw [hshape]
    exact hs.same ⟨rfl, rfl, rfl, rfl, rfl, rfl⟩ rfl

/-! ## Capsules that are true when they are sent -/

/-- What a DATA_BLOCKED capsule says: the limit is used up, and data waits. -/
structure DataHeld (s : Session) (limit : Nat) : Prop where
  current : limit = s.peerMaxData
  reached : s.dataSent = s.peerMaxData
  waiting : ∃ k stream, s.streams.get? k = some stream ∧ stream.Stuck

/-- What a STREAMS_BLOCKED capsule says: the limit is used up, and a request
for a stream waits. -/
structure StreamsHeld (uni : Bool) (s : Session) (limit : Nat) : Prop where
  current : limit = s.peerMaxStreams uni
  reached : limit ≤ s.localStreamsOpened uni
  waiting : s.blockedStreamRequests uni ≠ []

/-- Every capsule of this kind carries a limit that the session bears out. -/
def TrueIn (signal : Signal) (P : Session → Nat → Prop) (effects : List Effect) (t : Session) :
    Prop :=
  ∀ value ∈ capsuleValues signal.capsuleType effects, ∃ limit, Encodes limit value ∧ P t limit

section

variable {signal : Signal} {P : Session → Nat → Prop}

theorem TrueIn.of_absent (h : capsuleValues signal.capsuleType effects = []) :
    TrueIn signal P effects t := by
  intro value hvalue
  rw [h] at hvalue
  cases hvalue

theorem TrueIn.of_unsignalled (hsound : signal.Sound) (h : Unsignalled effects) :
    TrueIn signal P effects t :=
  .of_absent (capsuleValues_of_unsignalled hsound.isSignal h)

theorem TrueIn.after (hsound : signal.Sound) {first : List Effect} (hfirst : Unsignalled first)
    (h : TrueIn signal P effects t) : TrueIn signal P (first ++ effects) t := by
  intro value hvalue
  rw [capsuleValues_append, capsuleValues_of_unsignalled hsound.isSignal hfirst] at hvalue
  exact h value hvalue

end

theorem trueIn_emitDataBlocked (hlined : s.Lined) (hcurrent : s.Current) :
    TrueIn .dataBlocked DataHeld s.emitDataBlocked.2.toList s.emitDataBlocked.1 := by
  unfold emitDataBlocked
  split
  · exact .of_absent rfl
  · rename_i hfc
    split
    · rename_i hheld
      unfold varintCapsule
      split
      · rename_i value hvalue
        intro v hv
        have hv : v = value := List.mem_singleton.mp hv
        obtain ⟨k, hk⟩ := Finset.nonempty_iff_ne_empty.mpr hheld.2.1
        obtain ⟨stream, hget, hstuck⟩ := hcurrent.stuck k hk
        rw [hv]
        exact ⟨s.peerMaxData, hvalue, rfl, Nat.le_antisymm (hlined.budget (by simpa using hfc))
          hheld.1, k, stream, hget, hstuck⟩
      · exact .of_absent rfl
    · exact .of_absent rfl

theorem trueIn_emitStreamsBlocked :
    TrueIn (.streamsBlocked uni) (StreamsHeld uni) (s.emitStreamsBlocked other).2.toList
      (s.emitStreamsBlocked other).1 := by
  simp only [emitStreamsBlocked]
  split
  · exact .of_absent rfl
  · split
    · exact .of_absent rfl
    · rename_i hheld
      simp only [not_or, Nat.not_lt, List.isEmpty_iff] at hheld
      unfold varintCapsule
      split
      · exact .of_absent rfl
      · rename_i capsule hcapsule
        split at hcapsule
        · rename_i value hvalue
          cases hcapsule
          by_cases hother : other = uni
          · subst hother
            intro v hv
            have hv : v = value := by
              cases other <;> exact List.mem_singleton.mp hv
            rw [hv]
            refine ⟨s.peerMaxStreams other, hvalue, ?_⟩
            cases other <;> exact ⟨rfl, hheld.2.1, hheld.1⟩
          · refine .of_absent ?_
            cases other <;> cases uni <;> first | rfl | exact absurd rfl hother
        · cases hcapsule

/-! ## Calls that may report -/

/-- What a call does that neither writes nor takes capsules. -/
theorem TrueIn.dataBlocked_of_course (h : Course .drain s effects t) :
    TrueIn .dataBlocked P effects t :=
  .of_absent ((Outcome.course h).absent_dataBlocked rfl rfl)

theorem TrueIn.streamsBlocked_of_course (h : Course .drain s effects t) :
    TrueIn (.streamsBlocked uni) P effects t :=
  .of_absent ((Outcome.course h).absent_streamsBlocked uni rfl rfl)

theorem trueIn_recvMaxData (hfunded : s.Funded) (hcurrent : s.Current) (capsuleValue : Bytes)
    (now : Timestamp) :
    TrueIn .dataBlocked DataHeld (s.recvMaxData capsuleValue now).2
      (s.recvMaxData capsuleValue now).1 := by
  have haborted : ∀ errorCode reason, TrueIn .dataBlocked DataHeld
      (s.abort errorCode reason now).2 (s.abort errorCode reason now).1 := fun _ _ =>
    .dataBlocked_of_course (course_abort s _ _ _)
  unfold recvMaxData
  split
  · exact haborted _ _
  · rename_i limit rest _
    split
    · rename_i hmore
      have hraised := s.rounds_maxDataRaised limit
      have hlined := (hfunded.maxDataRaised hmore).lined
      have hset := (hcurrent.maxDataRaised hfunded.lined hmore).1
      simp only [flushBlockedWrites]
      split
      · exact .of_absent rfl
      · rename_i hroom
        rw [maxDataRaised, if_neg hroom] at hraised hlined hset
        have hsilent : Unsignalled (.emitSessionEvent s.id .sessionMaxDataUpdated
            { maxData := some limit } :: _) := .cons rfl (unsignalled_rounds hraised)
        have htrue := TrueIn.after sound_dataBlocked hsilent (trueIn_emitDataBlocked hlined hset)
        exact htrue
    · exact haborted _ _

theorem trueIn_flushBlockedStreamRequests (s : Session) (uni other : Bool) :
    TrueIn (.streamsBlocked uni) (StreamsHeld uni) (s.flushBlockedStreamRequests other).2
      (s.flushBlockedStreamRequests other).1 :=
  .after sound_streamsBlocked (.quiet (quiet_flushBlockedStreamRequestsLoop s))
    trueIn_emitStreamsBlocked

theorem trueIn_recvMaxStreams (s : Session) (uni other : Bool) (capsuleValue : Bytes)
    (now : Timestamp) :
    TrueIn (.streamsBlocked uni) (StreamsHeld uni) (s.recvMaxStreams other capsuleValue now).2
      (s.recvMaxStreams other capsuleValue now).1 := by
  have haborted : ∀ errorCode reason, TrueIn (.streamsBlocked uni) (StreamsHeld uni)
      (s.abort errorCode reason now).2 (s.abort errorCode reason now).1 := fun _ _ =>
    .streamsBlocked_of_course (course_abort s _ _ _)
  unfold recvMaxStreams
  split
  · exact haborted _ _
  split
  · exact haborted _ _
  split
  · rename_i limit _ _ _ _
    have hsilent : Unsignalled [.emitSessionEvent s.id
        (if other then .sessionMaxStreamsUniUpdated else .sessionMaxStreamsBidiUpdated)
        { maxStreams := some limit }] := by
      simp [Unsignalled, Effect.isSignal]
    have htrue := TrueIn.after sound_streamsBlocked hsilent
      (trueIn_flushBlockedStreamRequests (s.setPeerMaxStreams other limit) uni other)
    exact htrue
  · exact haborted _ _

theorem trueIn_recvCapsule_data (hfunded : s.Funded) (hcurrent : s.isOpen = true → s.Current) :
    TrueIn .dataBlocked DataHeld (s.recvCapsule capsuleType capsuleValue now).2
      (s.recvCapsule capsuleType capsuleValue now).1 := by
  by_cases hclosed : s.state = .closed
  · simp only [recvCapsule, hclosed]
    exact .of_absent rfl
  · rcases recvCapsule_cases hclosed with
      hcourse | ⟨hstate, ⟨hfc, hdata⟩ | ⟨uni, hstreams⟩⟩
    · exact .dataBlocked_of_course (hcourse .drain)
    · rw [hdata]
      exact trueIn_recvMaxData hfunded (hcurrent (isOpen_of_established hstate)) _ _
    · rw [hstreams]
      have hcourse : Course (.createStream 0 uni) s _ _ :=
        course_recvMaxStreams (Or.inl rfl) hstate uni capsuleValue now
      exact .of_absent ((Outcome.course hcourse).absent_dataBlocked rfl rfl)

theorem trueIn_recvCapsule_streams :
    TrueIn (.streamsBlocked uni) (StreamsHeld uni) (s.recvCapsule capsuleType capsuleValue now).2
      (s.recvCapsule capsuleType capsuleValue now).1 := by
  by_cases hclosed : s.state = .closed
  · simp only [recvCapsule, hclosed]
    exact .of_absent rfl
  · rcases recvCapsule_cases hclosed with
      hcourse | ⟨hstate, ⟨hfc, hdata⟩ | ⟨other, hstreams⟩⟩
    · exact .streamsBlocked_of_course (hcourse .drain)
    · rw [hdata]
      have hcourse : Course (.completeStreamWrite 0) s _ _ :=
        course_recvMaxData (Or.inl (by simp [SessionOp.writesTo])) hstate hfc capsuleValue now
      exact .of_absent ((Outcome.course hcourse).absent_streamsBlocked uni rfl rfl)
    · rw [hstreams]
      exact trueIn_recvMaxStreams s uni other capsuleValue now

theorem trueIn_onWriter (hs : s.Settled) (hfunded : s.Funded) (hattended : s.Attended op)
    {absent : List Effect} {method : Stream → Nat → Stream × List Effect × Nat}
    (habsent : ∀ e ∈ absent, e.isQuiet = true) (hnamed : op.writesTo = some streamId)
    (hmethod : ∀ stream : Stream,
      method stream s.sessionCredit = stream.completeWrite s.sessionCredit ∨
        ∃ requestId data endStream,
          method stream s.sessionCredit = stream.write requestId data endStream s.sessionCredit) :
    TrueIn .dataBlocked DataHeld (s.onWriter streamId absent method).2
      (s.onWriter streamId absent method).1 := by
  unfold onWriter
  split
  · exact .of_unsignalled sound_dataBlocked (.quiet habsent)
  · rename_i stream hget
    have hmove : Move op s _ _ := .written hget hnamed (hmethod stream)
    have hopen := hs.isOpen_of_stream hget
    have hcurrent := (hattended.move hfunded hmove (hmove.isOpen_eq.trans hopen)).1
    have hsilent : Unsignalled (method stream s.sessionCredit).2.1 := by
      rcases hmethod stream with heq | ⟨requestId, data, endStream, heq⟩ <;> rw [heq]
      · exact .own fun e he => (stream.silent_completeWrite e he).1
      · exact .own fun e he => (stream.silent_write e he).1
    exact .after sound_dataBlocked hsilent
      (trueIn_emitDataBlocked (hfunded.move hmove).lined hcurrent)

theorem trueIn_createStream {requestId : RequestId} :
    TrueIn (.streamsBlocked uni) (StreamsHeld uni) (s.createStream requestId other).2
      (s.createStream requestId other).1 := by
  simp only [createStream]
  split
  · exact .of_absent rfl
  split
  · exact trueIn_emitStreamsBlocked
  · exact .of_absent rfl

/-! ## The replay of queued capsules -/

/-- What one capsule makes a session report is true once it is done, and
while the session stays connected it is ready for the next one. -/
def TrueOfEach (signal : Signal) (P : Session → Nat → Prop) (ready : Session → Prop)
    (now : Timestamp) : Prop :=
  ∀ (s : Session) (rest : List (Nat × Bytes)) (capsuleType : Nat) (value : Bytes), ready s →
    let received := { s with pendingCapsules := rest }.recvCapsule capsuleType value now
    TrueIn signal P received.2 received.1 ∧ (received.1.state = .connected → ready received.1)

/-- The capsules are replayed one after the other, so what they make the
session report is true after one of them. -/
theorem trueIn_replayCapsules {ready : Session → Prop} (hcapsule : TrueOfEach signal P ready now) :
    ∀ (fuel : Nat) {s : Session}, ready s →
      ∀ value ∈ capsuleValues signal.capsuleType (replayCapsules now fuel s).2.1,
        ∃ n ≤ fuel, ∃ limit, Encodes limit value ∧ P (replayCapsules now n s).1 limit
  | 0, s, _, value, hvalue => nomatch hvalue
  | fuel + 1, s, hs, value, hvalue => by
      simp only [replayCapsules] at hvalue
      split at hvalue
      · cases hvalue
      · rename_i capsule rest hqueue
        obtain ⟨htrue, hkept⟩ := hcapsule s rest capsule.1 capsule.2 hs
        split at hvalue
        · rename_i hover
          obtain ⟨limit, hencoded, hholds⟩ := htrue value hvalue
          refine ⟨fuel + 1, Nat.le_refl _, limit, hencoded, ?_⟩
          simp only [replayCapsules, hqueue, if_pos hover]
          exact hholds
        · rename_i hgoes
          rw [capsuleValues_append] at hvalue
          rcases List.mem_append.mp hvalue with hvalue | hvalue
          · obtain ⟨limit, hencoded, hholds⟩ := htrue value hvalue
            refine ⟨1, Nat.succ_le_succ (Nat.zero_le _), limit, hencoded, ?_⟩
            simp only [replayCapsules, hqueue, if_neg hgoes]
            exact hholds
          · simp only [ne_eq, not_not] at hgoes
            obtain ⟨n, hn, limit, hencoded, hholds⟩ :=
              trueIn_replayCapsules hcapsule fuel (hkept hgoes) value hvalue
            refine ⟨n + 1, Nat.succ_le_succ hn, limit, hencoded, ?_⟩
            simp only [replayCapsules, hqueue, ne_eq, hgoes, not_true_eq_false, if_false]
            exact hholds

/-- Nothing else that is replayed makes the session report. -/
theorem values_replayPendingQueues (hsound : signal.Sound)
    (hdrain : ∀ {s effects t}, Chain (Move .drain) s effects t →
      capsuleValues signal.capsuleType effects = []) (s : Session) (now : Timestamp) :
    capsuleValues signal.capsuleType (s.replayPendingQueues now).2 =
      capsuleValues signal.capsuleType (replayCapsules now s.pendingCapsules.length s).2.1 := by
  simp only [replayPendingQueues]
  split
  · rfl
  · have hstreams : ∀ u : Session, Unsignalled u.replayStreams.2 := by
      intro u e he
      obtain ⟨k, -, rfl⟩ := List.mem_map.mp he
      rfl
    rw [capsuleValues_append, capsuleValues_append, hdrain (moves_replayDatagrams _ _),
      capsuleValues_of_unsignalled hsound.isSignal (hstreams _), List.append_nil, List.append_nil]

/-- A session that works off its queue of capsules. -/
structure Replaying (s : Session) : Prop where
  connected : s.state = .connected
  funded : s.Funded
  current : s.Current

theorem Replaying.recvCapsule (hs : s.Replaying) (rest : List (Nat × Bytes)) (capsuleType : Nat)
    (value : Bytes) (now : Timestamp)
    (hstate : ({ s with pendingCapsules := rest }.recvCapsule capsuleType value now).1.state =
      .connected) :
    ({ s with pendingCapsules := rest }.recvCapsule capsuleType value now).1.Replaying := by
  have hcourse : Course (.recvCapsule capsuleType value now) { s with pendingCapsules := rest } _ _ :=
    course_recvCapsule rfl (by simp [hs.connected]) capsuleType value now
  have hopen := isOpen_of_established (Or.inl hstate)
  have hsame : SameAccount s { s with pendingCapsules := rest } := ⟨rfl, rfl, rfl, rfl, rfl, rfl⟩
  have hkept := (hcourse.chain_of_open hopen).keeps
    (P := fun u => u.Funded ∧ u.Attended (.recvCapsule capsuleType value now))
    (fun _ _ _ hmove hu => ⟨hu.1.move hmove, hu.2.move hu.1 hmove⟩)
    ⟨hs.funded.same hsame, fun _ => ⟨hs.current.same hsame, fun _ hk => nomatch hk⟩⟩
  exact ⟨hstate, hkept.1, (hkept.2 hopen).1⟩

/-! ## The states in which a call reports -/

/-- The states a session goes through as it is established: one after each
capsule that was queued. -/
def replayMoments (s : Session) (wtProtocol : Option String) (now : Timestamp) : List Session :=
  (List.range (s.pendingCapsules.length + 1)).map fun n =>
    (replayCapsules now n (s.established wtProtocol now)).1

/-- The states in which a call ends the part of its work that may report a
limit. -/
def moments (s : Session) : SessionOp → List Session
  | .accept _ _ wtProtocol now => s.replayMoments wtProtocol now
  | .confirm wtProtocol now => s.replayMoments wtProtocol now
  | op => [(s.exec op).1]

/-- Every capsule of this kind is true in one of these states. -/
def TrueAt (signal : Signal) (P : Session → Nat → Prop) (effects : List Effect)
    (states : List Session) : Prop :=
  ∀ value ∈ capsuleValues signal.capsuleType effects,
    ∃ u ∈ states, ∃ limit, Encodes limit value ∧ P u limit

section

variable {signal : Signal} {P : Session → Nat → Prop}

variable {now : Timestamp} {wtProtocol : Option String}

theorem TrueIn.at (h : TrueIn signal P effects t) : TrueAt signal P effects [t] :=
  fun value hvalue => ⟨t, List.mem_singleton.mpr rfl, h value hvalue⟩

theorem TrueAt.of_absent {states : List Session}
    (h : capsuleValues signal.capsuleType effects = []) : TrueAt signal P effects states := by
  intro value hvalue
  rw [h] at hvalue
  cases hvalue

theorem trueAt_replay (hsound : signal.Sound)
    (hdrain : ∀ {s effects t}, Chain (Move .drain) s effects t →
      capsuleValues signal.capsuleType effects = []) {ready : Session → Prop}
    (hcapsule : TrueOfEach signal P ready now) (hs : ready (s.established wtProtocol now))
    {first : List Effect} (hfirst : Unsignalled first) :
    TrueAt signal P (first ++ ((s.established wtProtocol now).replayPendingQueues now).2)
      (s.replayMoments wtProtocol now) := by
  intro value hvalue
  rw [capsuleValues_append, capsuleValues_of_unsignalled hsound.isSignal hfirst, List.nil_append,
    values_replayPendingQueues hsound hdrain] at hvalue
  obtain ⟨n, hn, hholds⟩ := trueIn_replayCapsules hcapsule _ hs value hvalue
  exact ⟨_, List.mem_map.mpr ⟨n, List.mem_range.mpr (Nat.lt_succ_of_le hn), rfl⟩, hholds⟩

/-- A session is established by `accept` or `confirm`, which replay what was
queued, or nothing is reported. -/
theorem trueAt_accept (hsound : signal.Sound) {requestId : RequestId} {headers : Headers}
    (hreplay : s.state = .connecting → ∀ first, Unsignalled first →
      TrueAt signal P (first ++ ((s.established wtProtocol now).replayPendingQueues now).2)
        (s.replayMoments wtProtocol now)) :
    TrueAt signal P (s.accept requestId headers wtProtocol now).2
      (s.replayMoments wtProtocol now) := by
  have hrefused : ∀ e : Effect, e.isSignal = false →
      TrueAt signal P [e] (s.replayMoments wtProtocol now) := fun e he =>
    .of_absent (capsuleValues_of_unsignalled hsound.isSignal (.cons he (fun _ h => nomatch h)))
  unfold accept
  split
  · exact hrefused _ rfl
  split
  · exact hrefused _ rfl
  split
  · exact hrefused _ rfl
  split
  · exact hrefused _ rfl
  · rename_i hstate _ _ _ _
    exact hreplay (by simpa using hstate) _ (by simp [Unsignalled, Effect.isSignal])

theorem trueAt_confirm (hreplay : s.state = .connecting → ∀ first, Unsignalled first →
      TrueAt signal P (first ++ ((s.established wtProtocol now).replayPendingQueues now).2)
        (s.replayMoments wtProtocol now)) :
    TrueAt signal P (s.confirm wtProtocol now).2 (s.replayMoments wtProtocol now) := by
  unfold confirm
  split
  · exact .of_absent rfl
  · rename_i hstate
    exact hreplay (by simpa using hstate) [_] (by simp [Unsignalled, Effect.isSignal])

end

theorem trueOfEach_data : TrueOfEach .dataBlocked DataHeld Replaying now := by
  intro s rest capsuleType value hs
  have hsame : SameAccount s { s with pendingCapsules := rest } := ⟨rfl, rfl, rfl, rfl, rfl, rfl⟩
  exact ⟨trueIn_recvCapsule_data (hs.funded.same hsame) (fun _ => hs.current.same hsame),
    hs.recvCapsule rest capsuleType value now⟩

/-- A DATA_BLOCKED capsule is true if the set of blocked streams is up to
date. -/
theorem trueAt_data (hs : s.Settled) (hfunded : s.Funded) (hattended : s.Attended op) :
    TrueAt .dataBlocked DataHeld (s.exec op).2 (s.moments op) := by
  have hreplay : ∀ wtProtocol now, s.state = .connecting → ∀ first, Unsignalled first →
      TrueAt .dataBlocked DataHeld
        (first ++ ((s.established wtProtocol now).replayPendingQueues now).2)
        (s.replayMoments wtProtocol now) := by
    intro wtProtocol now hstate first hfirst
    have hsame : SameAccount s (s.established wtProtocol now) := ⟨rfl, rfl, rfl, rfl, rfl, rfl⟩
    have hcurrent := (hattended (isOpen_of_state hstate (by decide))).1
    exact trueAt_replay sound_dataBlocked
      (fun h => (Outcome.course (.stays h)).absent_dataBlocked rfl rfl) trueOfEach_data
      ⟨rfl, hfunded.same hsame, hcurrent.same hsame⟩ hfirst
  cases op with
  | accept requestId headers wtProtocol now =>
    exact trueAt_accept sound_dataBlocked
      (hreplay wtProtocol now)
  | confirm wtProtocol now => exact trueAt_confirm (hreplay wtProtocol now)
  | recvCapsule capsuleType capsuleValue now =>
    exact (trueIn_recvCapsule_data hfunded (fun hopen => (hattended hopen).1)).at
  | completeStreamWrite streamId =>
    exact (trueIn_onWriter hs hfunded hattended (by simp) rfl (fun _ => Or.inl rfl)).at
  | writeStream streamId requestId data endStream =>
    refine (trueIn_onWriter hs hfunded hattended ?_ rfl (fun _ => Or.inr ⟨_, _, _, rfl⟩)).at
    intro e he
    rw [List.mem_singleton.mp he]
    split <;> rfl
  | _ => exact .of_absent ((exec_outcome s hs _).absent_dataBlocked rfl rfl)

/-- A STREAMS_BLOCKED capsule is true in any case. -/
theorem trueAt_streams (hs : s.Settled) :
    TrueAt (.streamsBlocked uni) (StreamsHeld uni) (s.exec op).2 (s.moments op) := by
  have hreplay : ∀ wtProtocol now, s.state = .connecting → ∀ first, Unsignalled first →
      TrueAt (.streamsBlocked uni) (StreamsHeld uni)
        (first ++ ((s.established wtProtocol now).replayPendingQueues now).2)
        (s.replayMoments wtProtocol now) := by
    intro wtProtocol now _ first hfirst
    have heach : TrueOfEach (.streamsBlocked uni) (StreamsHeld uni) (fun _ => True) now :=
      fun _ _ _ _ _ => ⟨trueIn_recvCapsule_streams, fun _ => trivial⟩
    exact trueAt_replay sound_streamsBlocked
      (fun h => (Outcome.course (.stays h)).absent_streamsBlocked uni rfl rfl) heach trivial hfirst
  cases op with
  | accept requestId headers wtProtocol now =>
    exact trueAt_accept sound_streamsBlocked
      (hreplay wtProtocol now)
  | confirm wtProtocol now => exact trueAt_confirm (hreplay wtProtocol now)
  | recvCapsule capsuleType capsuleValue now =>
    exact trueIn_recvCapsule_streams.at
  | createStream requestId other => exact trueIn_createStream.at
  | flushBlockedStreamRequests other => exact (trueIn_flushBlockedStreamRequests s uni other).at
  | _ => exact .of_absent ((exec_outcome s hs _).absent_streamsBlocked uni rfl rfl)

end Session

/-! ## Whole runs -/

namespace Life

open Session

/-- The callers give every stream id once, and no stream is reset or stopped
while it waits for credit. -/
structure Sparing (w : Life) (op : SessionOp) : Prop where
  fresh : w.GivesFresh op
  spares : w.session.Spares op

structure Vigilant (w : Life) : Prop where
  solvent : w.Solvent
  current : w.session.isOpen = true → w.session.Current

theorem Vigilant.step {w : Life} (h : w.Vigilant) {op : SessionOp} (hop : w.Sparing op) :
    (w.step op).Vigilant := by
  refine ⟨h.solvent.step hop.fresh, ?_⟩
  have houtcome := exec_outcome w.session h.solvent.settled op
  have hattended : w.session.Attended op := fun hopen => ⟨h.current hopen, hop.spares⟩
  have hkept := houtcome.carries (P := fun u _ => u.Funded ∧ u.Attended op) []
    (fun _ _ _ _ hmove hu => ⟨hu.1.move hmove, hu.2.move hu.1 hmove⟩)
    (fun _ _ hfirst => ⟨h.solvent.funded.opening h.solvent.within hfirst hop.fresh,
      hattended.opening h.solvent.within hfirst hop.fresh⟩)
    (fun u closeCode closeReason closedAt state _ _ hgone hu => by
      refine ⟨hu.1.same ⟨rfl, rfl, rfl, rfl, rfl, rfl⟩, fun hopen => ?_⟩
      rcases hgone with rfl | rfl <;> cases hopen)
    (fun _ _ _ _ _ _ _ _ hu => hu) ⟨h.solvent.funded, hattended⟩ ⟨h.solvent.funded, hattended⟩
  exact fun hopen => (hkept.2 hopen).1

/-- In every run the limits that a session reports rise, and whenever it
reports a limit on streams, a request waits and the limit is used up. If no
stream is reset or stopped while it waits for credit, then whenever the
session reports a limit on data, the limit is used up and a stream has data
that waits. -/
theorem blocked_signals_truthful (id : SessionId) (path : String) (headers : Headers)
    (protocols : Option (List String)) (client : Bool) (parameters : SessionParameters)
    (createdAt : Timestamp) :
    (∀ w, Relation.ReflTransGen (Step fun _ _ => True)
        (start (Session.new id path headers protocols client parameters createdAt)) w →
      (∃ limits, List.Forall₂ Encodes limits (capsuleValues wtCapsuleTypeDataBlocked w.trace) ∧
        limits.Pairwise (· < ·)) ∧
      ∀ uni, (∃ limits, List.Forall₂ Encodes limits (capsuleValues
          (if uni then wtCapsuleTypeStreamsBlockedUni else wtCapsuleTypeStreamsBlockedBidi)
          w.trace) ∧ limits.Pairwise (· < ·)) ∧
        ∀ op, TrueAt (.streamsBlocked uni) (StreamsHeld uni) (w.session.exec op).2
          (w.session.moments op)) ∧
    (∀ w, Relation.ReflTransGen (Step Sparing)
        (start (Session.new id path headers protocols client parameters createdAt)) w →
      ∀ op, w.Sparing op →
        TrueAt .dataBlocked DataHeld (w.session.exec op).2 (w.session.moments op)) := by
  have hopen : (Session.new id path headers protocols client parameters createdAt).Settled :=
    Session.Settled.of_open rfl
  refine ⟨fun w hrun => ⟨?_, fun uni => ⟨?_, fun op => ?_⟩⟩, fun w hrun op hop => ?_⟩
  · obtain ⟨limits, hlimits, hclimbs⟩ := reports_run sound_dataBlocked hopen hrun
    exact ⟨limits, hlimits, hclimbs.sorted⟩
  · obtain ⟨limits, hlimits, hclimbs⟩ := reports_run sound_streamsBlocked hopen hrun
    exact ⟨limits, hlimits, hclimbs.sorted⟩
  · have hsettled : w.session.Settled := run_invariant (P := fun w => w.session.Settled)
      (fun w op hw _ => (evolves_exec w.session op).settled hw) hopen hrun
    exact trueAt_streams hsettled
  · have hvigilant : w.Vigilant := run_invariant (fun _ _ hw hop => hw.step hop)
      ⟨solvent_start protocols,
        fun _ => ⟨fun _ hk => (nomatch hk), fun _ hk => (nomatch hk)⟩⟩ hrun
    exact trueAt_data hvigilant.solvent.settled hvigilant.solvent.funded
      fun hopen => ⟨hvigilant.current hopen, hop.spares⟩

/-- A client without credit. -/
def poorClient : Session :=
  Session.new 0 "/" [] none true
    { SessionRun.sampleParameters with flowControlNegotiated := true } 0

/-- Two of its streams wait for credit, and the second one is reset. -/
def resetWhileBlocked : Life :=
  ((((((start poorClient).step (.confirm none 1)).step (.bindStream 4 7 false 2)).step
    (.bindStream 8 8 false 2)).step (.writeStream 4 9 [1, 2, 3, 4, 5] false)).step
      (.writeStream 8 10 [1] false)).step (.resetStream 8 11 0)

/-- With credit for three bytes the first stream has a write in flight and
nothing else waits, yet the session reports that it is held up. -/
theorem data_blocked_untrue :
    Relation.ReflTransGen (Step GivesFresh) (start poorClient) resetWhileBlocked ∧
    capsuleValues wtCapsuleTypeDataBlocked
      (resetWhileBlocked.session.exec (.recvCapsule wtCapsuleTypeMaxData [3] 3)).2 = [[3]] ∧
    (resetWhileBlocked.session.exec (.recvCapsule wtCapsuleTypeMaxData [3] 3)).1.streams.entries.all
      (fun entry => !entry.2.isBlocked) = true ∧
    ¬TrueAt .dataBlocked DataHeld
      (resetWhileBlocked.session.exec (.recvCapsule wtCapsuleTypeMaxData [3] 3)).2
      (resetWhileBlocked.session.moments (.recvCapsule wtCapsuleTypeMaxData [3] 3)) := by
  have hvalues : capsuleValues wtCapsuleTypeDataBlocked
      (resetWhileBlocked.session.exec (.recvCapsule wtCapsuleTypeMaxData [3] 3)).2 = [[3]] := by
    decide +kernel
  have hidle : (resetWhileBlocked.session.exec
      (.recvCapsule wtCapsuleTypeMaxData [3] 3)).1.streams.entries.all
        (fun entry => !entry.2.isBlocked) = true := by
    decide +kernel
  refine ⟨?_, hvalues, hidle, fun htrue => ?_⟩
  · refine (((((Relation.ReflTransGen.single ⟨.confirm none 1, ?_, rfl⟩).tail
      ⟨.bindStream 4 7 false 2, ?_, rfl⟩).tail ⟨.bindStream 8 8 false 2, ?_, rfl⟩).tail
        ⟨.writeStream 4 9 [1, 2, 3, 4, 5] false, ?_, rfl⟩).tail
          ⟨.writeStream 8 10 [1] false, ?_, rfl⟩).tail ⟨.resetStream 8 11 0, ?_, rfl⟩
    all_goals decide +kernel
  · obtain ⟨u, hu, limit, -, -, -, k, stream, hget, hstuck⟩ := htrue [3] (by
      rw [show Signal.dataBlocked.capsuleType = wtCapsuleTypeDataBlocked from rfl, hvalues]
      exact List.mem_singleton.mpr rfl)
    rw [List.mem_singleton.mp hu] at hget
    have hfree := List.all_eq_true.mp hidle (k, stream) ((OrderedMap.mem_entries _ k stream).mpr hget)
    simp [hstuck.isBlocked] at hfree

end Life

end PyWebTransport

/-
PyWebTransport.Protocol.Session.PeerStreams — how many streams the peer may
have open at once.

A session counts the streams its peer has opened and those that are closed,
per direction, and advertises a limit: each direction is a meter, and every
move of the session is a step of both meters (`Move.meters`). What the
meters keep then holds of the session in every run (`peer_streams_bounded`):
there are never more streams of the peer than the initial limit, and the
limits that were advertised only grow.
-/
import PyWebTransport.Lib.Meter
import PyWebTransport.Protocol.Session.SendCredit

namespace PyWebTransport

open PyWebTransport.Lib

namespace Session

variable {op : SessionOp} {s t : Session} {effects : List Effect} {uni : Bool}
  {streamId : StreamId}

/-! ## The meters of a session -/

/-- Whether the peer has opened this stream, and in this direction. -/
def isFromPeer ( isClient uni : Bool) (streamId : StreamId) : Bool :=
  isPeerInitiatedStream streamId isClient && (isUnidirectionalStream streamId == uni)

/-- The number of streams of the peer that are there. -/
def livePeerStreams (s : Session) (uni : Bool) : Nat :=
  s.streams.keys.countP (isFromPeer s.isClient uni)

def meter (s : Session) (uni : Bool) : Meter where
  opened := s.peerStreamsOpened uni
  closed := s.peerStreamsClosed uni
  limit := s.localMaxStreams uni
  initial := s.initialMaxStreams uni
  live := s.livePeerStreams uni

/-- One step of a meter. -/
def MeterStep (s t : Session) (uni : Bool) : Prop :=
  Meter.Step s.flowControlNegotiated (s.meter uni) (t.meter uni)

theorem meterStep_of_eq (h : t.meter uni = s.meter uni) : MeterStep s t uni := by
  unfold MeterStep
  rw [h]
  exact .same _

theorem SameCore.meter (h : SameCore s t) : t.meter uni = s.meter uni := by
  unfold Session.meter livePeerStreams peerStreamsOpened peerStreamsClosed localMaxStreams
    initialMaxStreams
  rw [h.peerStreamsBidiOpened, h.peerStreamsUniOpened, h.peerStreamsBidiClosed,
    h.peerStreamsUniClosed, h.localMaxStreamsBidi, h.localMaxStreamsUni, h.initialMaxStreamsBidi,
    h.initialMaxStreamsUni, h.streams, h.isClient]

/-- Replacing a stream leaves the meters alone. -/
theorem meter_replace {old new : Stream} (hget : s.streams.get? streamId = some old) :
    meter { s with streams := s.streams.insert streamId new } uni = s.meter uni := by
  have hcount := s.streams.countP_keys_insert hget new (isFromPeer s.isClient uni)
  simp only [meter, livePeerStreams, hcount]
  rfl

theorem Round.meter_eq (h : Round s effects t) : t.meter uni = s.meter uni := by
  cases h with
  | putBack | stale => rfl
  | @flush streamId rest stream queue credit present =>
    have hafter : ((s.popped streamId rest).flushBlockedStream streamId stream).1.meter uni =
        meter
          { s with
            streams := s.streams.insert streamId
              (stream.flushWrites (s.popped streamId rest).sessionCredit).1 } uni := by
      simp only [flushBlockedStream]
      split <;> rfl
    rw [hafter]
    exact meter_replace present

theorem meter_rounds (h : Chain Round s effects t) : t.meter uni = s.meter uni := by
  induction h with
  | refl s => rfl
  | head round _ ih => exact ih.trans round.meter_eq

/-! ## Moves are steps of the meters -/

theorem meterStep_granted {other : Bool} (hmore : s.localMaxStreams other <
      saturatingAdd (s.peerStreamsClosed other) (s.initialMaxStreams other)) :
    MeterStep s (s.setLocalMaxStreams other
      (saturatingAdd (s.peerStreamsClosed other) (s.initialMaxStreams other))) uni := by
  by_cases hother : other = uni
  · subst hother
    have hgrant : Meter.Step s.flowControlNegotiated (s.meter other) { s.meter other with
        limit := saturatingAdd (s.peerStreamsClosed other) (s.initialMaxStreams other) } :=
      .grant _ _ hmore saturatingAdd_le_add
    cases other <;> exact hgrant
  · refine meterStep_of_eq ?_
    cases other <;> cases uni <;> first | rfl | exact absurd rfl hother

/-- A stream of the peer that is dropped makes room for another one. -/
theorem meterStep_dropped {stream : Stream} (hget : s.streams.get? streamId = some stream) :
    MeterStep s (s.dropped streamId) uni := by
  have hcount := s.streams.countP_keys_erase hget (isFromPeer s.isClient uni)
  unfold dropped
  split
  · rename_i hpeer
    by_cases hdir : isUnidirectionalStream streamId = uni
    · have hfrom : isFromPeer s.isClient uni streamId = true := by simp [isFromPeer, hpeer, hdir]
      rw [hfrom, if_pos rfl] at hcount
      have hdrop : Meter.Step s.flowControlNegotiated (s.meter uni) { s.meter uni with
          closed := s.peerStreamsClosed uni + 1
          live := (s.streams.erase streamId).keys.countP (isFromPeer s.isClient uni) } :=
        .drop _ _ hcount.symm
      rw [hdir]
      cases uni <;> exact hdrop
    · have hfrom : isFromPeer s.isClient uni streamId = false := by simp [isFromPeer, hdir]
      rw [hfrom] at hcount
      refine meterStep_of_eq ?_
      have hremoved : (s.removed streamId).meter uni = s.meter uni := by
        simp only [meter, livePeerStreams, removed]
        simpa [peerStreamsOpened, peerStreamsClosed, localMaxStreams, initialMaxStreams] using hcount
      rw [← hremoved]
      cases hd : isUnidirectionalStream streamId <;> cases uni <;>
        first | rfl | exact absurd hd hdir
  · rename_i hlocal
    have hfrom : isFromPeer s.isClient uni streamId = false := by simp [isFromPeer, hlocal]
    rw [hfrom] at hcount
    refine meterStep_of_eq ?_
    simp only [meter, livePeerStreams, removed]
    simpa [peerStreamsOpened, peerStreamsClosed, localMaxStreams, initialMaxStreams] using hcount

/-- Every move is a step of both meters. -/
theorem Move.meters (h : Move op s effects t) (uni : Bool) : MeterStep s t uni := by
  cases h with
  | calm core => exact meterStep_of_eq core.meter
  | grantStreams other encoded negotiated may more => exact meterStep_granted more
  | dataBlocked core | streamsBlocked core | accepted headers data requestId server waiting core
  | confirmed data named waiting core => exact meterStep_of_eq core.meter
  | method call present plain => exact meterStep_of_eq (meter_replace present)
  | dropped present gone => exact meterStep_dropped present
  | @written streamId stream result present =>
    refine meterStep_of_eq ?_
    have hafter : (s.written streamId result).meter uni =
        meter { s with streams := s.streams.insert streamId result.1 } uni := by
      obtain ⟨_, _, hshape⟩ := s.written_shape result
      rw [hshape]
      rfl
    rw [hafter]
    exact meter_replace present
  | maxDataRaised limit =>
    refine meterStep_of_eq ?_
    rw [meter_rounds (s.rounds_maxDataRaised limit)]
    rfl
  | cleared gone empty core => exact meterStep_of_eq core.meter
  | _ => exact meterStep_of_eq rfl

/-- A stream is given to the session under an id of the side that opened it. -/
def Numbers (s : Session) : SessionOp → Prop
  | .bindStream streamId _ _ _ => isPeerInitiatedStream streamId s.isClient = false
  | .handleStreamOpened streamId _ => isPeerInitiatedStream streamId s.isClient = true
  | _ => True

theorem direction_of_peer { isClient : Bool} {direction : StreamDirection}
    (hpeer : isPeerInitiatedStream streamId isClient = true)
    (hdirected : streamDirectionFromId streamId isClient = direction) :
    decide (direction = .receiveOnly) = isUnidirectionalStream streamId := by
  rw [← hdirected, streamDirectionFromId, hpeer]
  cases isUnidirectionalStream streamId <;> rfl

theorem Opening.meters (h : Opening op s effects t) (hop : s.Numbers op)
    (hfresh : ∀ k ∈ op.adds, s.streams.get? k = none) (uni : Bool) : MeterStep s t uni := by
  cases h with
  | bound streamId requestId sendOnly now named =>
    subst named
    have hfrom : isFromPeer s.isClient uni streamId = false := by
      have hlocal : isPeerInitiatedStream streamId s.isClient = false := hop
      simp [isFromPeer, hlocal]
    have hcount := s.streams.countP_keys_insert_new (hfresh streamId (by simp [SessionOp.adds]))
      (Stream.new streamId s.id (if sendOnly then .sendOnly else .bidirectional) false
        ⟨s.maxWriteBufferSize⟩ now) (isFromPeer s.isClient uni)
    rw [hfrom] at hcount
    refine meterStep_of_eq ?_
    simp only [meter, livePeerStreams]
    simpa [peerStreamsOpened, peerStreamsClosed, localMaxStreams, initialMaxStreams] using hcount
  | @admitted streamId now direction named opened directed incoming within =>
    subst named
    have hpeer : isPeerInitiatedStream streamId s.isClient = true := hop
    have hdirection := direction_of_peer hpeer directed
    have hcount := s.streams.countP_keys_insert_new (hfresh streamId (by simp [SessionOp.adds]))
      (Stream.new streamId s.id direction true ⟨s.maxWriteBufferSize⟩ now)
      (isFromPeer s.isClient uni)
    by_cases hdir : isUnidirectionalStream streamId = uni
    · have hfrom : isFromPeer s.isClient uni streamId = true := by simp [isFromPeer, hpeer, hdir]
      have hmeter : (s.admitted streamId direction now).meter uni = { s.meter uni with
          opened := s.peerStreamsOpened uni + 1
          live := (s.streams.insert streamId (Stream.new streamId s.id direction true
            ⟨s.maxWriteBufferSize⟩ now)).keys.countP (isFromPeer s.isClient uni) } := by
        unfold Session.admitted
        rw [hdirection, hdir]
        cases uni <;> rfl
      rw [hdirection, hdir] at within
      rw [hfrom, if_pos rfl] at hcount
      unfold MeterStep
      rw [hmeter, hcount]
      exact .accept _ within
    · have hfrom : isFromPeer s.isClient uni streamId = false := by simp [isFromPeer, hdir]
      rw [hfrom] at hcount
      refine meterStep_of_eq ?_
      have hmeter : (s.admitted streamId direction now).meter uni = { s.meter uni with
          live := (s.streams.insert streamId (Stream.new streamId s.id direction true
            ⟨s.maxWriteBufferSize⟩ now)).keys.countP (isFromPeer s.isClient uni) } := by
        unfold Session.admitted
        rw [hdirection]
        cases hd : isUnidirectionalStream streamId <;> cases uni <;>
          first | rfl | exact absurd hd hdir
      rw [hmeter, hcount]
      rfl
  | @turnedAway _ streamId now direction named waiting directed incoming within =>
    by_cases hdir : decide (direction = .receiveOnly) = uni
    · have hmeter : (s.turnedAway direction).meter uni = { s.meter uni with
          opened := s.peerStreamsOpened uni + 1
          closed := s.peerStreamsClosed uni + 1 } := by
        unfold Session.turnedAway
        rw [hdir]
        cases uni <;> rfl
      rw [hdir] at within
      unfold MeterStep
      rw [hmeter]
      exact .refuse _ within
    · refine meterStep_of_eq ?_
      unfold Session.turnedAway
      cases hd : decide (direction = .receiveOnly) <;> cases uni <;>
        first | rfl | exact absurd hd hdir

/-! ## Sound meters -/

/-- Both meters are sound, in a session that keeps its flow control. -/
def Metered (s : Session) : Prop := ∀ uni, Meter.Sound s.flowControlNegotiated (s.meter uni)

theorem Metered.step (h : s.Metered) (hfc : t.flowControlNegotiated = s.flowControlNegotiated)
    (hstep : ∀ uni, MeterStep s t uni) : t.Metered := by
  intro uni
  rw [hfc]
  exact (h uni).step (hstep uni)

theorem Metered.outcome (h : s.Metered) (houtcome : Outcome op s effects t) (hop : s.Numbers op)
    (hfresh : ∀ k ∈ op.adds, s.streams.get? k = none) : t.Metered :=
  houtcome.keeps
    (fun _ _ _ hmove hu => hu.step hmove.forward.1.flowControlNegotiated hmove.meters)
    (fun _ _ hfirst =>
      h.step hfirst.forward.1.flowControlNegotiated (hfirst.meters hop hfresh))
    (fun _ _ _ _ _ hu => hu) h

/-- What was advertised is never taken back. -/
structure Generous (s t : Session) : Prop where
  streams : ∀ uni, s.localMaxStreams uni ≤ t.localMaxStreams uni
  data : s.localMaxData ≤ t.localMaxData

theorem Generous.refl (s : Session) : Generous s s := ⟨fun _ => Nat.le_refl _, Nat.le_refl _⟩

theorem Generous.trans {u : Session} (h₁ : Generous s t) (h₂ : Generous t u) : Generous s u :=
  ⟨fun uni => (h₁.streams uni).trans (h₂.streams uni), h₁.data.trans h₂.data⟩

theorem Move.localMaxData_le (h : Move op s effects t) : s.localMaxData ≤ t.localMaxData := by
  cases h with
  | calm core => rw [core.localMaxData]
  | grantData encoded negotiated may more => exact Nat.le_of_lt more
  | grantStreams uni => cases uni <;> exact Nat.le_refl _
  | dataBlocked core | streamsBlocked core | accepted headers data requestId server waiting core
  | confirmed data named waiting core => rw [core.localMaxData]
  | @dropped streamId =>
    obtain ⟨_, _, hshape⟩ := s.dropped_shape
    rw [hshape]
  | @written streamId stream result =>
    obtain ⟨_, _, hshape⟩ := s.written_shape result
    rw [hshape]
  | maxDataRaised limit =>
    obtain ⟨_, _, _, _, hshape⟩ := s.maxDataRaised_shape
    rw [hshape]
  | cleared gone empty core => rw [core.localMaxData]
  | _ => exact Nat.le_refl _

theorem Move.generous (h : Move op s effects t) : Generous s t :=
  ⟨fun uni => (h.meters uni).limit_le, h.localMaxData_le⟩

theorem Opening.generous (h : Opening op s effects t) : Generous s t := by
  cases h with
  | bound => exact ⟨fun _ => Nat.le_refl _, Nat.le_refl _⟩
  | @admitted streamId now direction =>
    obtain ⟨_, _, hshape⟩ := s.admitted_shape
    rw [hshape]
    exact ⟨fun _ => Nat.le_refl _, Nat.le_refl _⟩
  | @turnedAway _ streamId now direction =>
    obtain ⟨_, _, _, _, hshape⟩ := s.turnedAway_shape
    rw [hshape]
    exact ⟨fun _ => Nat.le_refl _, Nat.le_refl _⟩

theorem Outcome.generous (h : Outcome op s effects t) : Generous s t :=
  h.keeps (P := fun u => Generous s u) (fun _ _ _ hmove hu => hu.trans hmove.generous)
    (fun _ _ hfirst => hfirst.generous) (fun _ _ _ _ _ hu => ⟨hu.streams, hu.data⟩) (.refl s)

end Session

/-! ## Whole runs -/

namespace Life

/-- The callers give each stream id once, and with the number of the side
that opened the stream. -/
structure GivesNumbered (w : Life) (op : SessionOp) : Prop where
  fresh : w.GivesFresh op
  numbers : w.session.Numbers op

structure Counted (limited : Bool) (w : Life) : Prop where
  settled : w.session.Settled
  within : w.session.Within w.used
  flowControl : w.session.flowControlNegotiated = limited
  metered : w.session.Metered

theorem Counted.step {limited : Bool} {w : Life} (h : w.Counted limited) {op : SessionOp}
    (hop : w.GivesNumbered op) : (w.step op).Counted limited := by
  have houtcome := Session.exec_outcome w.session h.settled op
  have hevolves := Session.evolves_exec w.session op
  refine ⟨hevolves.settled h.settled, ?_,
    hevolves.constants.flowControlNegotiated.trans h.flowControl, ?_⟩
  · exact (h.within.weaken fun _ hk => List.mem_append_right _ hk).outcome houtcome
      fun _ hk => List.mem_append_left _ hk
  · refine h.metered.outcome houtcome hop.numbers fun k hk => ?_
    cases hget : w.session.streams.get? k with
    | none => rfl
    | some stream => exact absurd (h.within.streams hget) (hop.fresh k hk)

theorem counted_start (id : SessionId) (path : String) (headers : Headers)
    (protocols : Option (List String)) (client : Bool) (parameters : SessionParameters)
    (createdAt : Timestamp) :
    Counted parameters.flowControlNegotiated
      (start (Session.new id path headers protocols client parameters createdAt)) where
  settled := Session.Settled.of_open rfl
  within := Session.within_new protocols
  flowControl := rfl
  metered uni := by
    cases uni
    · exact ⟨rfl, fun _ => Nat.zero_le _, Nat.le_of_eq (Nat.zero_add _).symm⟩
    · exact ⟨rfl, fun _ => Nat.zero_le _, Nat.le_of_eq (Nat.zero_add _).symm⟩

/-- In every run of a session with flow control the counters of each
direction agree with the streams of the peer that are there, and there are
never more of them than the initial limit. What was advertised is never taken
back. -/
theorem peer_streams_bounded (id : SessionId) (path : String) (headers : Headers)
    (protocols : Option (List String)) (client : Bool) (parameters : SessionParameters)
    (createdAt : Timestamp) (hfc : parameters.flowControlNegotiated = true) (w : Life)
    (hrun : Relation.ReflTransGen (Step GivesNumbered)
      (start (Session.new id path headers protocols client parameters createdAt)) w) :
    (∀ uni,
      w.session.livePeerStreams uni =
        w.session.peerStreamsOpened uni - w.session.peerStreamsClosed uni ∧
      w.session.peerStreamsClosed uni ≤ w.session.peerStreamsOpened uni ∧
      w.session.peerStreamsOpened uni ≤ w.session.localMaxStreams uni ∧
      w.session.localMaxStreams uni ≤
        w.session.peerStreamsClosed uni + w.session.initialMaxStreams uni ∧
      w.session.livePeerStreams uni ≤ w.session.initialMaxStreams uni) ∧
    ∀ op, w.GivesNumbered op →
      (∀ uni, w.session.localMaxStreams uni ≤ (w.step op).session.localMaxStreams uni) ∧
      w.session.localMaxData ≤ (w.step op).session.localMaxData := by
  have h : w.Counted true := by
    have hstart := counted_start id path headers protocols client parameters createdAt
    rw [hfc] at hstart
    exact run_invariant (fun _ _ hw hop => hw.step hop) hstart hrun
  refine ⟨fun uni => ?_, fun op _ => ?_⟩
  · have hsound : Meter.Sound true (w.session.meter uni) := h.flowControl ▸ h.metered uni
    exact ⟨hsound.live_eq, hsound.closed_le, hsound.within rfl, hsound.bounded, hsound.live_le⟩
  · have hgenerous := (Session.exec_outcome w.session h.settled op).generous
    exact ⟨hgenerous.streams, hgenerous.data⟩

/-- A server session that lets its client open one bidirectional stream. -/
def oneStreamParameters : SessionParameters :=
  { SessionRun.sampleParameters with flowControlNegotiated := true, initialMaxStreamsBidi := 1 }

def oneStream : Life :=
  (start (Session.new 0 "/" [] none false oneStreamParameters 0)).step (.handleStreamOpened 4 1)

theorem peer_streams_bounded_oneStream :
    oneStream.session.livePeerStreams false = 1 ∧
      oneStream.session.livePeerStreams false ≤ oneStream.session.initialMaxStreams false := by
  have h := peer_streams_bounded 0 "/" [] none false oneStreamParameters 0 rfl oneStream
    (.single ⟨.handleStreamOpened 4 1, ⟨by decide, rfl⟩, rfl⟩)
  exact ⟨by decide, (h.1 false).2.2.2.2⟩

end Life

end PyWebTransport

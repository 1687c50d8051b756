/-
PyWebTransport.Protocol.H3.ControlPlane — the streams that carry HTTP/3
itself, in one call.

The peer has one control stream and one stream for each half of QPACK. The
layer registers each of them once (`registerPeerInfrastructureStream_registers`),
reads SETTINGS, GOAWAY and MAX_PUSH_ID off the control stream in an order
that the raised events tell (`ControlFrames.tells`), and treats the end
of any of them as the end of the connection.

`PlaneCall` says what a call of `handle_transport_event` can be to this part
of the layer: a call that leaves it alone, a chunk of a registered stream
that fails and with it the connection, or a chunk of a registered stream
that is handled. `handleTransportEvent_planeCall` says that these are all.
-/
import PyWebTransport.Protocol.H3.LayerRuns
import PyWebTransport.Lib.Trace

namespace PyWebTransport

open PyWebTransport.Lib

namespace H3

variable {Q : Qpack} {h h' : H3 Q} {streamType : Nat} {streamId : StreamId}
  {fed stream : H3Stream} {connection : Connection}
  {r : H3 Q × Except WebTransportError (Bytes × Outcome)} {data : Bytes}

/-! ## SETTINGS, then GOAWAY -/

def isSettings : ProtocolEvent → Bool
  | .h3SettingsReceived _ => true
  | _ => false

def isGoaway : ProtocolEvent → Bool
  | .h3GoawayReceived => true
  | _ => false

/-- Read events in order: whether SETTINGS were among them, if they came at
most once and no GOAWAY came before them. -/
def settingsAfter : Bool → List ProtocolEvent → Option Bool
  | seen, [] => some seen
  | seen, event :: rest =>
    if isSettings event then if seen then none else settingsAfter true rest
    else if isGoaway event then if seen then settingsAfter true rest else none
    else settingsAfter seen rest

theorem settingsAfter_append {seen : Bool} {events more : List ProtocolEvent} :
    settingsAfter seen (events ++ more) =
      (settingsAfter seen events).bind fun seen => settingsAfter seen more := by
  induction events generalizing seen with
  | nil => rfl
  | cons event rest ih =>
    simp only [List.cons_append, settingsAfter]
    split_ifs <;> simp [ih]

/-- Neither SETTINGS nor GOAWAY. -/
def Unrelated (events : List ProtocolEvent) : Prop :=
  ∀ event ∈ events, isSettings event = false ∧ isGoaway event = false

theorem settingsAfter_unrelated {events : List ProtocolEvent} (h : Unrelated events)
    (seen : Bool) : settingsAfter seen events = some seen := by
  induction events generalizing seen with
  | nil => rfl
  | cons event rest ih =>
    obtain ⟨hsettings, hgoaway⟩ := h event List.mem_cons_self
    simp only [settingsAfter, hsettings, hgoaway, Bool.false_eq_true, if_false]
    exact ih (fun e he => h e (List.mem_cons_of_mem _ he)) seen

theorem countP_of_settingsAfter {seen after : Bool} {events : List ProtocolEvent}
    (h : settingsAfter seen events = some after) : events.countP isSettings + seen.toNat ≤ 1 := by
  induction events generalizing seen with
  | nil => simpa using Bool.toNat_le seen
  | cons event rest ih =>
    simp only [settingsAfter] at h
    split_ifs at h with hsettings hseen hgoaway hseen'
    · have hrest := ih h
      have hfresh : seen = false := by simpa using hseen
      simp only [List.countP_cons, hsettings, if_true, hfresh, Bool.toNat_false]
      simpa using hrest
    · have hrest := ih h
      rw [List.countP_cons, if_neg hsettings, hseen']
      exact hrest
    · rw [List.countP_cons, if_neg hsettings]
      exact ih h

theorem atEach_of_settingsAfter {seen after : Bool} {events : List ProtocolEvent}
    (h : settingsAfter seen events = some after) :
    AtEach (fun before event => isGoaway event = true →
      seen = true ∨ ∃ earlier ∈ before, isSettings earlier = true) events := by
  induction events generalizing seen with
  | nil => exact atEach_nil _
  | cons event rest ih =>
    rw [atEach_cons]
    simp only [settingsAfter] at h
    split_ifs at h with hsettings hseen hgoaway hseen'
    · refine ⟨fun hgoaway => ?_, ?_⟩
      · cases event <;> simp [isSettings, isGoaway] at hsettings hgoaway
      · refine (ih h).mono fun before x _ _ _ => ?_
        exact Or.inr ⟨event, List.mem_cons_self, hsettings⟩
    · refine ⟨fun _ => Or.inl hseen', ?_⟩
      exact (ih h).mono fun before x _ _ _ => Or.inl hseen'
    · refine ⟨fun hgoaway' => absurd hgoaway' hgoaway, ?_⟩
      refine (ih h).mono fun before x _ hx hgo => ?_
      rcases hx hgo with hseen | ⟨earlier, hmem, hearlier⟩
      · exact Or.inl hseen
      · exact Or.inr ⟨earlier, List.mem_cons_of_mem _ hmem, hearlier⟩

/-! ## The frames of a control stream -/

/-- The push limit does not fall, and the flag stays set. -/
structure Advances (h h' : H3 Q) : Prop where
  maxPushId : ∀ m, h.peerMaxPushId = some m → ∃ m', h'.peerMaxPushId = some m' ∧ m ≤ m'
  settings : h.settingsReceived = true → h'.settingsReceived = true

theorem Advances.of_eq (hpush : h'.peerMaxPushId = h.peerMaxPushId)
    (hsettings : h'.settingsReceived = h.settingsReceived) : Advances h h' :=
  ⟨fun m hm => ⟨m, hpush.trans hm, Nat.le_refl m⟩, fun hset => hsettings.trans hset⟩

theorem Advances.refl (h : H3 Q) : Advances h h := Advances.of_eq rfl rfl

theorem Advances.trans {h'' : H3 Q} (h₁ : Advances h h') (h₂ : Advances h' h'') :
    Advances h h'' where
  maxPushId m hm := by
    obtain ⟨m', hm', hle⟩ := h₁.maxPushId m hm
    obtain ⟨m'', hm'', hle'⟩ := h₂.maxPushId m' hm'
    exact ⟨m'', hm'', hle.trans hle'⟩
  settings hset := h₂.settings (h₁.settings hset)

/-- Frames are handled in an order the events tell. -/
structure Tells (h : H3 Q) (r : H3 Q × Except WebTransportError Outcome) : Prop where
  advances : Advances h r.1
  log : ∀ outcome, r.2 = .ok outcome →
    settingsAfter h.settingsReceived outcome.1 = some r.1.settingsReceived

theorem Tells.failed {h h' : H3 Q} (hadvances : Advances h h') (e : WebTransportError) :
    Tells h (h', .error e) :=
  ⟨hadvances, fun _ hok => nomatch hok⟩

theorem Tells.quiet (hadvances : Advances h h')
    (hsettings : h'.settingsReceived = h.settingsReceived) : Tells h (h', .ok ([], [])) := by
  refine ⟨hadvances, fun outcome hok => ?_⟩
  cases hok
  exact congrArg some hsettings.symm

theorem ControlFrame.tells {r : H3 Q × Except WebTransportError Outcome}
    (hframe : ControlFrame h r) : Tells h r := by
  cases hframe with
  | failed =>
    refine Tells.failed ?_ _
    exact Advances.of_eq rfl rfl
  | settings _ _ _ first =>
    refine ⟨⟨fun m hm => ⟨m, hm, Nat.le_refl m⟩, fun _ => rfl⟩, fun outcome hok => ?_⟩
    cases hok
    simp only [settingsAfter, isSettings, first, Bool.false_eq_true, if_true, if_false]
  | goaway known =>
    refine ⟨Advances.refl h, fun outcome hok => ?_⟩
    cases hok
    simp only [settingsAfter, isSettings, isGoaway, known, Bool.false_eq_true, if_true, if_false]
  | maxPushId limit grows =>
    exact Tells.quiet ⟨fun m hm => ⟨limit, rfl, grows m hm⟩, fun hset => hset⟩ rfl
  | ignored => exact Tells.quiet (Advances.refl h) rfl

theorem ControlFrames.tells {r : H3 Q × Except WebTransportError Outcome}
    (hframes : ControlFrames h r) : Tells h r := by
  induction hframes with
  | none h => exact Tells.quiet (Advances.refl h) rfl
  | failed =>
    refine Tells.failed ?_ _
    exact Advances.of_eq rfl rfl
  | @cons h h' outcome r frame _ ih =>
    have hframe := frame.tells
    refine ⟨hframe.advances.trans ih.advances, fun whole hok => ?_⟩
    obtain ⟨h'', result⟩ := r
    cases result with
    | error e => cases hok
    | ok rest =>
      cases hok
      rw [settingsAfter_append, hframe.log outcome rfl]
      exact ih.log rest rfl

/-! ## Registered streams -/

/-- The stream of the peer that has the type. -/
def registered (h : H3 Q) (streamType : Nat) : Option StreamId :=
  if streamType = h3StreamTypeControl then h.peerControlStreamId
  else if streamType = h3StreamTypeQpackDecoder then h.peerDecoderStreamId
  else if streamType = h3StreamTypeQpackEncoder then h.peerEncoderStreamId
  else none

theorem registered_control : h.registered h3StreamTypeControl = h.peerControlStreamId := rfl

theorem registered_decoder : h.registered h3StreamTypeQpackDecoder = h.peerDecoderStreamId := rfl

theorem registered_encoder : h.registered h3StreamTypeQpackEncoder = h.peerEncoderStreamId := rfl

theorem isInfrastructure_of_registered {id : StreamId} (hreg : h.registered streamType = some id) :
    IsInfrastructure streamType := by
  unfold registered at hreg
  split_ifs at hreg with hcontrol hdecoder hencoder
  · exact Or.inl hcontrol
  · exact Or.inr (Or.inl hdecoder)
  · exact Or.inr (Or.inr hencoder)

theorem SamePlane.registered (hsame : SamePlane h h') : h'.registered = h.registered := by
  funext streamType
  simp only [H3.registered, hsame.control, hsame.decoder, hsame.encoder]

theorem Reaches.registered (hr : Reaches h h') : h'.registered = h.registered := by
  obtain ⟨_, _, _, _, rfl⟩ := hr
  rfl

theorem contains_registered_iff :
    [h.peerControlStreamId, h.peerDecoderStreamId, h.peerEncoderStreamId].contains
      (some streamId) = true ↔ ∃ streamType, h.registered streamType = some streamId := by
  rw [List.contains_iff_mem]
  simp only [List.mem_cons, List.not_mem_nil, or_false]
  constructor
  · rintro (hid | hid | hid)
    · exact ⟨h3StreamTypeControl, hid.symm⟩
    · exact ⟨h3StreamTypeQpackDecoder, hid.symm⟩
    · exact ⟨h3StreamTypeQpackEncoder, hid.symm⟩
  · rintro ⟨streamType, hreg⟩
    rcases isInfrastructure_of_registered hreg with rfl | rfl | rfl
    · exact Or.inl hreg.symm
    · exact Or.inr (Or.inl hreg.symm)
    · exact Or.inr (Or.inr hreg.symm)

/-- A stream that was not registered is, for a type that had none. -/
structure Registers (h : H3 Q) (streamId : StreamId) (streamType : Nat) (h' : H3 Q) : Prop where
  unused : ∀ other, h.registered other ≠ some streamId
  vacant : h.registered streamType = none
  now : h'.registered streamType = some streamId
  others : ∀ other, other ≠ streamType → h'.registered other = h.registered other
  maxPushId : h'.peerMaxPushId = h.peerMaxPushId
  settings : h'.settingsReceived = h.settingsReceived

theorem registerPeerInfrastructureStream_registers (hinfra : IsInfrastructure streamType)
    (hr : h.registerPeerInfrastructureStream streamId streamType = .ok h') :
    Registers h streamId streamType h' := by
  unfold registerPeerInfrastructureStream at hr
  simp only at hr
  split at hr
  · cases hr
  · rename_i hnone
    have hunused : ∀ other, h.registered other ≠ some streamId := fun other hreg =>
      hnone (contains_registered_iff.mpr ⟨other, hreg⟩)
    rcases hinfra with rfl | rfl | rfl
    · rw [if_pos rfl] at hr
      split at hr
      · cases hr
      · rename_i hvacant
        cases hr
        refine ⟨hunused, by simpa [registered_control] using hvacant, rfl, fun other hne => ?_, rfl, rfl⟩
        simp only [H3.registered, if_neg hne]
    · rw [if_neg (by decide), if_pos rfl] at hr
      split at hr
      · cases hr
      · rename_i hvacant
        cases hr
        refine ⟨hunused, by simpa [registered_decoder] using hvacant, rfl, fun other hne => ?_, rfl,
          rfl⟩
        simp only [H3.registered, if_neg hne]
    · rw [if_neg (by decide), if_neg (by decide), if_pos rfl] at hr
      split at hr
      · cases hr
      · rename_i hvacant
        cases hr
        refine ⟨hunused, by simpa [registered_encoder] using hvacant, rfl, fun other hne => ?_, rfl,
          rfl⟩
        simp only [H3.registered, if_neg hne]

theorem Registers.of_samePlane {g : H3 Q} (hsame : SamePlane g h)
    (hr : Registers h streamId streamType h') : Registers g streamId streamType h' where
  unused := by simpa only [hsame.registered] using hr.unused
  vacant := by simpa only [hsame.registered] using hr.vacant
  now := hr.now
  others := by simpa only [hsame.registered] using hr.others
  maxPushId := hr.maxPushId.trans hsame.maxPushId
  settings := hr.settings.trans hsame.settings

/-- The stream has the type already, or gets it now. -/
inductive Joins (h : H3 Q) (streamId : StreamId) (fed : H3Stream) (streamType : Nat)
    (h' : H3 Q) : Prop where
  | known (type : fed.streamType = some streamType) (plane : SamePlane h h')
  | fresh (type : fed.streamType = none) (registers : Registers h streamId streamType h')

theorem Joins.advances (hjoins : Joins h streamId fed streamType h') : Advances h h' := by
  cases hjoins with
  | known _ plane => exact Advances.of_eq plane.maxPushId plane.settings
  | fresh _ registers => exact Advances.of_eq registers.maxPushId registers.settings

/-! ## A chunk of a unidirectional stream -/

/-- What a chunk can be to the control plane. -/
inductive UniChunk (h : H3 Q) (streamId : StreamId) (fed : H3Stream) (h' : H3 Q) :
    Except WebTransportError Outcome → Prop where
  | aside {result : Except WebTransportError Outcome} (plane : SamePlane h h')
      (stranger : ∀ streamType, fed.streamType = some streamType → ¬IsInfrastructure streamType)
      (entry : ∀ stream, h'.streams.get? streamId = some stream → ∀ streamType,
        stream.streamType = some streamType → ¬IsInfrastructure streamType)
      (unrelated : ∀ outcome, result = .ok outcome → Unrelated outcome.1) :
      UniChunk h streamId fed h' result
  | failed {streamType : Nat} {joined : H3 Q} {e : WebTransportError}
      (infrastructure : IsInfrastructure streamType)
      (joins : Joins h streamId fed streamType joined) (ids : h'.registered = joined.registered)
      (advances : Advances joined h')
      (flag : streamType ≠ h3StreamTypeControl →
        h'.settingsReceived = joined.settingsReceived)
      (gone : h'.streams.get? streamId = none) (wide : e.ConnectionWide)
      (critical : fed.ended = true → streamType = h3StreamTypeControl → e = closedCriticalStream) :
      UniChunk h streamId fed h' (.error e)
  | handled {streamType : Nat} {joined : H3 Q} {outcome : Outcome}
      (infrastructure : IsInfrastructure streamType)
      (joins : Joins h streamId fed streamType joined) (ids : h'.registered = joined.registered)
      (advances : Advances joined h') (notEnded : fed.ended = false) (stream : H3Stream)
      (entry : h'.streams.get? streamId = some stream)
      (type : stream.streamType = some streamType) (open_ : stream.ended = false)
      (log : settingsAfter joined.settingsReceived outcome.1 = some h'.settingsReceived)
      (quiet : streamType ≠ h3StreamTypeControl → outcome.1 = []) :
      UniChunk h streamId fed h' (.ok outcome)

theorem not_isInfrastructure_webtransport : ¬IsInfrastructure h3StreamTypeWebtransport := by
  rintro (h | h | h) <;> exact absurd h (by decide)

theorem Typed.joins {g joined : H3 Q} (hsame : SamePlane g h)
    (htyped : Typed h streamId fed joined stream streamType)
    (hinfra : IsInfrastructure streamType) : Joins g streamId fed streamType joined := by
  cases htyped with
  | already type => exact .known type hsame
  | session => exact absurd hinfra not_isInfrastructure_webtransport
  | registered untyped _ registers =>
    exact .fresh untyped
      ((registerPeerInfrastructureStream_registers hinfra registers).of_samePlane hsame)

/-- A stream that is not of the layer itself is not registered. -/
theorem Typed.stranger {joined : H3 Q} (htyped : Typed h streamId fed joined stream streamType)
    (hstranger : ¬IsInfrastructure streamType) :
    joined = h ∧ (fed.streamType = none ∨ fed.streamType = some streamType) := by
  cases htyped with
  | already type => exact ⟨rfl, Or.inr type⟩
  | session untyped => exact ⟨rfl, Or.inl untyped⟩
  | registered _ infrastructure => exact absurd infrastructure hstranger

/-- The bytes of a control stream or a QPACK stream. -/
theorem Infrastructure.tells (hr : Infrastructure h stream streamType connection r) :
    Tells h (r.1, r.2.map Prod.snd) := by
  cases hr with
  | critical => exact Tells.failed (Advances.refl h) _
  | frames => exact (parseControlFrames_frames connection _ h stream.buffer).tells
  | codec =>
    refine Tells.quiet ?_ rfl
    exact Advances.of_eq rfl rfl
  | codecFailed =>
    refine Tells.failed ?_ _
    exact Advances.of_eq rfl rfl
  | other => exact Tells.quiet (Advances.refl h) rfl

theorem Infrastructure.quiet {kept : Bytes × Outcome}
    (hr : Infrastructure h stream streamType connection (h', .ok kept))
    (htype : streamType ≠ h3StreamTypeControl) : kept.2.1 = [] := by
  generalize hresult : (h', Except.ok kept) = result at hr
  cases hr with
  | critical type | frames type => exact absurd type htype
  | codec =>
    cases hresult
    rfl
  | codecFailed => cases hresult
  | other =>
    cases hresult
    rfl

/-- A control stream that ends is an error, whatever came with the end. -/
theorem Infrastructure.critical_error {e : WebTransportError}
    (hr : Infrastructure h stream streamType connection (h', .error e))
    (hended : stream.ended = true) (htype : streamType = h3StreamTypeControl) :
    e = closedCriticalStream := by
  generalize hresult : ((h', Except.error e) : H3 Q × Except WebTransportError (Bytes × Outcome)) =
    result at hr
  cases hr with
  | critical =>
    cases hresult
    rfl
  | frames _ running =>
    rw [hended] at running
    cases running
  | codec _ _ type | codecFailed _ _ _ type => exact absurd htype type
  | other stranger => exact absurd (Or.inl htype) stranger

theorem Infrastructure.settings (hr : Infrastructure h stream streamType connection r)
    (htype : streamType ≠ h3StreamTypeControl) : r.1.settingsReceived = h.settingsReceived := by
  cases hr with
  | critical type | frames type => exact absurd type htype
  | codec | codecFailed | other => rfl

theorem Infrastructure.stranger_same (hr : Infrastructure h stream streamType connection r)
    (hstranger : ¬IsInfrastructure streamType) : r = (h, .ok (stream.buffer, [], [])) := by
  cases hr with
  | critical type | frames type => exact absurd (Or.inl type) hstranger
  | codec _ _ _ infrastructure | codecFailed _ _ _ _ infrastructure =>
    exact absurd infrastructure hstranger
  | other => rfl

theorem awaitHeader_entry {found : H3Stream}
    (hget : (h.awaitHeader streamId stream).1.streams.get? streamId = some found) :
    found = stream := by
  unfold awaitHeader at hget
  split at hget
  · rw [cleanupStream_get?_self] at hget
    cases hget
  · rw [OrderedMap.get?_insert_self] at hget
    cases hget
    rfl

theorem awaitHeader_events : (h.awaitHeader streamId stream).2.1 = [] := by
  unfold awaitHeader
  split <;> rfl

theorem unrelated_nil : Unrelated [] := fun _ hmem => nomatch hmem

/-- The header of a session's stream is nothing to the control plane. -/
theorem parseStreamHeader_aside {h : H3 Q} {streamId : StreamId} {stream : H3Stream}
    (hgone : h.streams.get? streamId = none) :
    (∀ found, (h.parseStreamHeader streamId stream).1.streams.get? streamId = some found →
      found = stream) ∧
    ∀ outcome, (h.parseStreamHeader streamId stream).2 = .ok outcome → Unrelated outcome.1 := by
  unfold parseStreamHeader
  split
  · refine ⟨fun found hget => awaitHeader_entry hget, fun outcome hok => ?_⟩
    cases hok
    rw [awaitHeader_events]
    exact unrelated_nil
  · have hnone : ∀ found, h.streams.get? streamId = some found → found = stream := by
      intro found hget
      rw [hgone] at hget
      cases hget
    split
    · exact ⟨hnone, fun outcome hok => nomatch hok⟩
    · refine ⟨hnone, fun outcome hok => ?_⟩
      cases hok
      intro event hevent
      cases List.mem_singleton.mp hevent
      exact ⟨rfl, rfl⟩

theorem recvUnidirectionalStreamData_chunk (hQ : Q.NonBlocking) {streamEnded : Bool}
    {r : H3 Q × Except WebTransportError Outcome}
    (hr : h.recvUnidirectionalStreamData streamId data streamEnded connection = some r) :
    UniChunk h streamId (h.feedStream streamId data streamEnded) r.1 r.2 := by
  have hcases := recvUnidirectionalStreamData_cases hQ hr
  generalize h.feedStream streamId data streamEnded = fed at hcases
  have hwithout : SamePlane h { h with streams := h.streams.erase streamId } :=
    ⟨rfl, rfl, rfl, rfl, rfl⟩
  have hgone : ({ h with streams := h.streams.erase streamId } : H3 Q).streams.get? streamId =
      none := OrderedMap.get?_erase_self h.streams streamId
  generalize ({ h with streams := h.streams.erase streamId } : H3 Q) = without
    at hwithout hgone hcases
  -- a stream without a type is nobody's, and an entry that is gone has no type
  have hnobody : fed.streamType = none → ∀ streamType, fed.streamType = some streamType →
      ¬IsInfrastructure streamType := by
    intro hnone streamType hsome
    rw [hnone] at hsome
    cases hsome
  have hnothing : ∀ {h' : H3 Q}, h'.streams.get? streamId = none → ∀ stream,
      h'.streams.get? streamId = some stream → ∀ streamType,
      stream.streamType = some streamType → ¬IsInfrastructure streamType := by
    intro h' hgone stream hget
    rw [hgone] at hget
    cases hget
  have hstranger : ∀ {joined : H3 Q} {stream : H3Stream} {streamType : Nat},
      Typed without streamId fed joined stream streamType → ¬IsInfrastructure streamType →
      joined = without ∧ ∀ t, fed.streamType = some t → ¬IsInfrastructure t := by
    intro joined stream streamType typed hnot
    obtain ⟨hsame, hnone | hsome⟩ := typed.stranger hnot
    · exact ⟨hsame, hnobody hnone⟩
    · refine ⟨hsame, fun t ht => ?_⟩
      rw [hsome] at ht
      cases ht
      exact hnot
  have hread : ∀ {joined h' : H3 Q} {stream : H3Stream} {streamType : Nat}
      {result : Except WebTransportError (Bytes × Outcome)},
      Typed without streamId fed joined stream streamType →
      Infrastructure joined stream streamType connection (h', result) →
      h'.streams.get? streamId = none := by
    intro joined h' stream streamType result typed read
    have hstreams : h'.streams = without.streams :=
      read.controls.streams.trans typed.same.2.1
    rw [hstreams, hgone]
  cases hcases with
  | waits untyped =>
    refine .aside (hwithout.trans without.awaitHeader_keeps.1) (hnobody untyped)
      (fun stream hget => ?_) (fun outcome hok => ?_)
    · rw [awaitHeader_entry hget]
      exact hnobody untyped
    · cases hok
      rw [awaitHeader_events]
      exact unrelated_nil
  | refused untyped =>
    exact .aside hwithout (hnobody untyped) (hnothing hgone) (fun _ hok => nomatch hok)
  | stopped untyped =>
    refine .aside hwithout (hnobody untyped) (hnothing hgone) (fun outcome hok => ?_)
    cases hok
    exact unrelated_nil
  | @header joined stream typed =>
    obtain ⟨rfl, hfed⟩ := hstranger typed not_isInfrastructure_webtransport
    obtain ⟨hfound, hevents⟩ := @parseStreamHeader_aside _ joined streamId stream hgone
    refine .aside (hwithout.trans joined.parseStreamHeader_keeps.1) hfed
      (fun found hget t ht => ?_) hevents
    rw [hfound found hget, typed.same.2.2.1] at ht
    cases ht
    exact not_isInfrastructure_webtransport
  | @failed joined h' stream streamType e typed read =>
    by_cases hinfra : IsInfrastructure streamType
    · exact .failed hinfra (typed.joins hwithout hinfra) read.reaches.registered
        read.tells.advances read.settings (hread typed read) read.controls.level
        (fun hfin => read.critical_error (typed.same.2.2.2.1.trans hfin))
    · cases read.stranger_same hinfra
  | @ended joined h' stream streamType kept typed read =>
    by_cases hinfra : IsInfrastructure streamType
    · exact .failed hinfra (typed.joins hwithout hinfra) read.reaches.registered
        read.tells.advances read.settings (hread typed read) trivial (fun _ _ => rfl)
    · obtain ⟨rfl, hfed⟩ := hstranger typed hinfra
      cases read.stranger_same hinfra
      exact .aside hwithout hfed (hnothing hgone) (fun _ hok => nomatch hok)
  | @kept joined h' stream streamType kept typed _ running read =>
    obtain ⟨-, -, htype, hended, -⟩ := typed.same
    by_cases hinfra : IsInfrastructure streamType
    · refine .handled hinfra (typed.joins hwithout hinfra) read.reaches.registered ?_
        (hended.symm.trans running) _ (OrderedMap.get?_insert_self _ _ _) htype running
        (read.tells.log kept.2 rfl) read.quiet
      exact ⟨read.tells.advances.maxPushId, read.tells.advances.settings⟩
    · obtain ⟨rfl, hfed⟩ := hstranger typed hinfra
      cases read.stranger_same hinfra
      refine .aside ?_ hfed (fun found hget t ht => ?_) (fun outcome hok => ?_)
      · exact ⟨hwithout.control, hwithout.decoder, hwithout.encoder, hwithout.maxPushId,
          hwithout.settings⟩
      · rw [OrderedMap.get?_insert_self] at hget
        cases hget
        rw [htype] at ht
        cases ht
        exact hinfra
      · cases hok
        exact unrelated_nil

/-! ## One call -/

/-- The entry of a stream changes, though not by its own bytes as a control
or QPACK stream: the stream is announced, or the entry is not that of a
stream registered for its type. -/
def Displaced (h : H3 Q) (event : ProtocolEvent) (id : StreamId) : Prop :=
  event = .transportStreamOpened id ∨ ∀ streamType stream, h.registered streamType = some id →
    h.streams.get? id = some stream → stream.streamType ≠ some streamType

/-- What a call can be to the control plane. -/
inductive PlaneCall (h h' : H3 Q) : ProtocolEvent → Outcome → Prop where
  | aside {event : ProtocolEvent} {outcome : Outcome} (plane : SamePlane h h')
      (unrelated : Unrelated outcome.1)
      (stranger : ∀ streamId data endStream,
        event = .transportStreamDataReceived streamId data endStream →
        isUnidirectionalStream streamId = true → ∀ streamType,
        (h.feedStream streamId data endStream).streamType = some streamType →
        ¬IsInfrastructure streamType)
      (entries : ∀ id, isUnidirectionalStream id = true →
        h'.streams.get? id = h.streams.get? id ∨
        Displaced h event id ∧ ∀ stream, h'.streams.get? id = some stream → ∀ streamType,
          stream.streamType = some streamType → ¬IsInfrastructure streamType) :
      PlaneCall h h' event outcome
  | failed {streamId : StreamId} {data : Bytes} {endStream : Bool} {streamType : Nat}
      {joined : H3 Q} {errorCode : ErrorCode} {reason : Option String}
      (unidirectional : isUnidirectionalStream streamId = true)
      (others : ∀ id, id ≠ streamId → h'.streams.get? id = h.streams.get? id)
      (infrastructure : IsInfrastructure streamType)
      (joins : Joins h streamId (h.feedStream streamId data endStream) streamType joined)
      (ids : h'.registered = joined.registered) (advances : Advances joined h')
      (flag : streamType ≠ h3StreamTypeControl →
        h'.settingsReceived = joined.settingsReceived)
      (gone : h'.streams.get? streamId = none)
      (critical : (h.feedStream streamId data endStream).ended = true →
        streamType = h3StreamTypeControl → errorCode = errH3ClosedCriticalStream) :
      PlaneCall h h' (.transportStreamDataReceived streamId data endStream)
        ([], [.closeQuicConnection errorCode reason])
  | handled {streamId : StreamId} {data : Bytes} {endStream : Bool} {streamType : Nat}
      {joined : H3 Q} {outcome : Outcome}
      (unidirectional : isUnidirectionalStream streamId = true)
      (others : ∀ id, id ≠ streamId → h'.streams.get? id = h.streams.get? id)
      (infrastructure : IsInfrastructure streamType)
      (joins : Joins h streamId (h.feedStream streamId data endStream) streamType joined)
      (ids : h'.registered = joined.registered) (advances : Advances joined h')
      (notEnded : (h.feedStream streamId data endStream).ended = false) (stream : H3Stream)
      (entry : h'.streams.get? streamId = some stream)
      (type : stream.streamType = some streamType) (running : stream.ended = false)
      (log : settingsAfter joined.settingsReceived outcome.1 = some h'.settingsReceived)
      (quiet : streamType ≠ h3StreamTypeControl → outcome.1 = []) :
      PlaneCall h h' (.transportStreamDataReceived streamId data endStream) outcome

theorem feedStream_streamType (h : H3 Q) {endStream : Bool}
    (hget : h.streams.get? streamId = some stream) :
    (h.feedStream streamId data endStream).streamType = stream.streamType := by
  simp only [feedStream, hget, Option.getD_some]

/-- The bytes of a unidirectional stream. -/
theorem uni_call (hQ : Q.NonBlocking) (hwf : h.TableWF)
    (huni : isUnidirectionalStream streamId = true) {endStream : Bool} {outcome : Outcome}
    (hr : h.handleTransportEvent (.transportStreamDataReceived streamId data endStream)
      connection = some (h', outcome)) :
    PlaneCall h h' (.transportStreamDataReceived streamId data endStream) outcome := by
  obtain ⟨htouches, -⟩ := data_call_touches hQ hwf hr
  -- a stream whose bytes are not those of its registered type may be displaced
  have hdisplaced : (∀ streamType, (h.feedStream streamId data endStream).streamType =
      some streamType → ¬IsInfrastructure streamType) →
      Displaced h (.transportStreamDataReceived streamId data endStream) streamId := by
    intro hstranger
    refine Or.inr fun streamType stream hreg hget htype => ?_
    rw [← h.feedStream_streamType hget] at htype
    exact hstranger streamType htype (isInfrastructure_of_registered hreg)
  have haside : ∀ {result : H3 Q}, SamePlane h result → SamePlane result h' →
      (∀ streamType, (h.feedStream streamId data endStream).streamType = some streamType →
        ¬IsInfrastructure streamType) →
      (∀ stream, h'.streams.get? streamId = some stream → ∀ streamType,
        stream.streamType = some streamType → ¬IsInfrastructure streamType) →
      Unrelated outcome.1 →
      PlaneCall h h' (.transportStreamDataReceived streamId data endStream) outcome := by
    intro result hplane hplane' hstranger hentry hunrelated
    refine .aside (hplane.trans hplane') hunrelated ?_ fun id _ => ?_
    · intro id bytes fin heq _
      cases heq
      exact hstranger
    by_cases hid : id = streamId
    · subst hid
      exact Or.inr ⟨hdisplaced hstranger, hentry⟩
    · exact Or.inl (htouches.others id hid)
  have hresult := h.transportResult_uni huni data endStream connection
  rcases handleTransportEvent_cases hr with hok | ⟨failed, e, herror, hfail⟩
  · have hchunk := recvUnidirectionalStreamData_chunk hQ (hresult.symm.trans hok)
    generalize hret : (Except.ok outcome : Except WebTransportError Outcome) = result at hchunk
    cases hchunk with
    | aside plane stranger entry unrelated =>
      exact haside plane (SamePlane.refl h') stranger entry (unrelated outcome hret.symm)
    | failed => cases hret
    | handled infrastructure joins ids advances notEnded stream entry type open_ log quiet =>
      cases hret
      exact .handled huni htouches.others infrastructure joins ids advances notEnded stream entry
        type open_ log quiet
  · have hchunk := recvUnidirectionalStreamData_chunk hQ (hresult.symm.trans herror)
    obtain ⟨-, hgone, hsilent⟩ := data_call_failed hQ hwf herror hfail
    have hkeeps := (failed.failTransportEvent_keeps e).1
    rw [hfail] at hkeeps
    generalize hret : (Except.error e : Except WebTransportError Outcome) = result at hchunk
    cases hchunk with
    | aside plane stranger entry unrelated =>
      refine haside plane hkeeps stranger (fun stream hget => ?_) (hsilent ▸ unrelated_nil)
      rw [hgone] at hget
      cases hget
    | @failed streamType joined _ infrastructure joins ids advances flag gone wide critical =>
      cases hret
      have hids : h'.registered = joined.registered := hkeeps.registered.trans ids
      have hadvances : Advances joined h' :=
        advances.trans (Advances.of_eq hkeeps.maxPushId hkeeps.settings)
      have hflag : streamType ≠ h3StreamTypeControl →
          h'.settingsReceived = joined.settingsReceived :=
        fun hne => hkeeps.settings.trans (flag hne)
      cases e with
      | stream => exact False.elim wide
      | protocol errorCode reason =>
        cases hfail
        refine .failed huni htouches.others infrastructure joins hids hadvances hflag hgone
          (fun hended htype => ?_)
        cases critical hended htype
        rfl
      | _ =>
        cases hfail
        exact .failed huni htouches.others infrastructure joins hids hadvances hflag hgone
          (fun hended htype => nomatch critical hended htype)
    | handled => cases hret

theorem CapsulesOnly.unrelated {events : List ProtocolEvent} (h : CapsulesOnly streamId events) :
    Unrelated events := by
  intro event hevent
  obtain ⟨capsuleType, capsuleValue, rfl⟩ := h event hevent
  exact ⟨rfl, rfl⟩

theorem Parses.unrelated {s : H3Stream} {p : H3Stream × Outcome} (h : Parses streamId s p) :
    Unrelated p.2.1 := by
  rcases h.raises with hon | ⟨headers, hheaders⟩
  · exact hon.capsules.unrelated
  · obtain ⟨capsules, hevents, honly⟩ := hheaders.events
    rw [hevents]
    intro event hevent
    rcases List.mem_cons.mp hevent with rfl | hevent
    · exact ⟨rfl, rfl⟩
    · exact honly.unrelated event hevent

/-- A bidirectional stream has nothing to say about the connection. -/
theorem Received.unrelated { isClient : Bool} {entry : Option H3Stream} {outcome : Outcome}
    (hbidi : isUnidirectionalStream streamId = false)
    (h : Received isClient streamId fed entry (.ok outcome)) : Unrelated outcome.1 := by
  cases h with
  | dropped | waiting => exact unrelated_nil
  | opened _ sessionId =>
    intro event hevent
    cases List.mem_singleton.mp hevent
    exact ⟨rfl, rfl⟩
  | control unidirectional =>
    rw [hbidi] at unidirectional
    cases unidirectional
  | finished _ stream _ p parses =>
    intro event hevent
    rcases List.mem_append.mp hevent with hparsed | hclosed
    · exact parses.unrelated event hparsed
    · split at hclosed
      · cases List.mem_singleton.mp hclosed
        exact ⟨rfl, rfl⟩
      · cases hclosed
  | kept _ stream _ p parses => exact parses.unrelated

/-- The bytes of a bidirectional stream. -/
theorem bidi_call (hQ : Q.NonBlocking) (hwf : h.TableWF)
    (hbidi : isUnidirectionalStream streamId = false) {endStream : Bool} {outcome : Outcome}
    (hr : h.handleTransportEvent (.transportStreamDataReceived streamId data endStream)
      connection = some (h', outcome)) :
    PlaneCall h h' (.transportStreamDataReceived streamId data endStream) outcome := by
  obtain ⟨htouches, -⟩ := data_call_touches hQ hwf hr
  have hentries : ∀ id, isUnidirectionalStream id = true →
      h'.streams.get? id = h.streams.get? id := by
    intro id huni
    refine htouches.others id ?_
    rintro rfl
    rw [hbidi] at huni
    cases huni
  have hresult := h.transportResult_bidi hbidi data endStream connection
  have hstranger : ∀ id bytes fin,
      ProtocolEvent.transportStreamDataReceived streamId data endStream =
        .transportStreamDataReceived id bytes fin →
      isUnidirectionalStream id = true → ∀ streamType,
      (h.feedStream id bytes fin).streamType = some streamType →
      ¬IsInfrastructure streamType := by
    intro id bytes fin heq huni
    cases heq
    rw [hbidi] at huni
    cases huni
  rcases handleTransportEvent_cases hr with hok | ⟨failed, e, herror, hfail⟩
  · have hreceived := (transportResult_data_received hQ hwf hok).2
    exact .aside (recvRequestData_keeps hQ hwf (hresult.symm.trans hok)).1
      (hreceived.unrelated hbidi) hstranger fun id huni => Or.inl (hentries id huni)
  · have hplane := (recvRequestData_keeps hQ hwf (hresult.symm.trans herror)).1
    have hplane' := (failed.failTransportEvent_keeps e).1
    obtain ⟨-, -, hsilent⟩ := data_call_failed hQ hwf herror hfail
    rw [hfail] at hplane'
    exact .aside (hplane.trans hplane') (hsilent ▸ unrelated_nil) hstranger
      fun id huni => Or.inl (hentries id huni)

theorem other_call_unrelated {event : ProtocolEvent} {outcome : Outcome}
    (hr : h.handleTransportEvent event connection = some (h', outcome))
    (hevent : ∀ streamId data endStream,
      event ≠ .transportStreamDataReceived streamId data endStream) : Unrelated outcome.1 := by
  rcases handleTransportEvent_cases hr with hok | ⟨failed, e, herror, hfail⟩
  · cases event with
    | transportStreamDataReceived streamId data endStream =>
      exact absurd rfl (hevent streamId data endStream)
    | transportDatagramReceived data =>
      simp only [transportResult, recvDatagram, Option.some.injEq, Prod.mk.injEq] at hok
      obtain ⟨-, hok⟩ := hok
      split at hok
      · cases hok
      · split at hok
        · cases hok
        · cases hok
          intro event hevent
          cases List.mem_singleton.mp hevent
          exact ⟨rfl, rfl⟩
    | transportResetStreamReceived streamId errorCode =>
      simp only [transportResult, recvStreamReset, Option.some.injEq] at hok
      split at hok
      · cases hok
      · cases hok
        exact unrelated_nil
    | transportStopSendingReceived streamId errorCode =>
      simp only [transportResult, recvStopSending, Option.some.injEq, Prod.mk.injEq] at hok
      obtain ⟨-, hok⟩ := hok
      split at hok
      · cases hok
      · cases hok
        exact unrelated_nil
    | _ =>
      cases hok
      exact unrelated_nil
  · have hsilent : (failed.failTransportEvent e).2.1 = [] := by cases e <;> rfl
    rw [hfail] at hsilent
    rw [show outcome.1 = [] from hsilent]
    exact unrelated_nil

/-- Every call is one of the three. -/
theorem handleTransportEvent_planeCall (hQ : Q.NonBlocking) (hwf : h.TableWF)
    {event : ProtocolEvent} {outcome : Outcome}
    (hr : h.handleTransportEvent event connection = some (h', outcome)) :
    PlaneCall h h' event outcome := by
  by_cases hdata : ∃ streamId data endStream,
      event = .transportStreamDataReceived streamId data endStream
  · obtain ⟨streamId, data, endStream, rfl⟩ := hdata
    cases huni : isUnidirectionalStream streamId with
    | true => exact uni_call hQ hwf huni hr
    | false => exact bidi_call hQ hwf huni hr
  · have hevent : ∀ streamId data endStream,
        event ≠ .transportStreamDataReceived streamId data endStream :=
      fun streamId data endStream heq => hdata ⟨_, _, _, heq⟩
    have hother := other_call hr hevent
    refine .aside hother.plane (other_call_unrelated hr hevent)
      (fun streamId data endStream heq => absurd heq (hevent streamId data endStream)) fun id _ => ?_
    cases hother.table with
    | same hstreams => exact Or.inl (by rw [hstreams])
    | @opened streamId hstreams =>
      by_cases hid : streamId = id
      · subst hid
        refine Or.inr ⟨Or.inl rfl, fun stream hget streamType htype => ?_⟩
        rw [hstreams, OrderedMap.get?_insert_self] at hget
        cases hget
        cases htype
      · exact Or.inl (by rw [hstreams, OrderedMap.get?_insert_of_ne _ _ hid])
    | @forgotten streamId errorCode hunregistered hstreams =>
      by_cases hid : streamId = id
      · subst hid
        refine Or.inr ⟨Or.inr fun streamType stream hreg => ?_, fun stream hget => ?_⟩
        · have hcontains := contains_registered_iff.mpr ⟨streamType, hreg⟩
          rw [hunregistered] at hcontains
          cases hcontains
        · rw [hstreams, OrderedMap.get?_erase_self] at hget
          cases hget
      · exact Or.inl (by rw [hstreams, OrderedMap.get?_erase_of_ne _ hid])

end H3

end PyWebTransport

/-
PyWebTransport.Protocol.H3.ControlPlaneRuns — the streams that carry HTTP/3
itself, over a whole run.

The layer takes a stream out of its table before it looks at its bytes and
puts it back only if they were fine, so after an error the next bytes of the
same stream are read as those of a new one. What keeps this harmless:

* a type is registered once, and never for a stream that is registered
  already;
* an entry of the table with the type of a control or QPACK stream is the
  stream registered for it (`Plane.typed`), so a control stream that was
  lost is never read as a control stream again;
* SETTINGS sets a flag before it is raised, and may be lost with the chunk
  it came in, but then the control stream is lost too (`Logged`).

The end of a registered stream ends the connection because the registered
streams are in the table (`Present`). That is so until the connection is
closed, and as long as a stream is announced before its bytes come.
-/
import PyWebTransport.Protocol.H3.ControlChunks
import PyWebTransport.Protocol.H3.ControlPlane

namespace PyWebTransport

open PyWebTransport.Lib

namespace H3

variable {Q : Qpack} {h h' : H3 Q} {streamId id : StreamId} {fed : H3Stream} {streamType : Nat}
  {data : Bytes} {endStream : Bool} {event : ProtocolEvent} {connection : Connection}

/-! ## The registered streams -/

/-- What is true of the registered streams after every call. -/
structure Plane (h : H3 Q) : Prop where
  unidirectional : ∀ streamType id, h.registered streamType = some id →
    isUnidirectionalStream id = true
  distinct : ∀ first second id, h.registered first = some id → h.registered second = some id →
    first = second
  typed : ∀ id stream streamType, isUnidirectionalStream id = true →
    h.streams.get? id = some stream → stream.streamType = some streamType →
    IsInfrastructure streamType → h.registered streamType = some id
  flagged : h.settingsReceived = true → h.peerControlStreamId.isSome = true

theorem plane_new {isClient : Bool} {parameters : H3Parameters} :
    Plane (H3.new isClient parameters : H3 Q) := by
  have hnone : ∀ streamType, (H3.new isClient parameters : H3 Q).registered streamType = none := by
    intro streamType
    unfold registered
    split_ifs <;> rfl
  refine ⟨fun streamType id hreg => ?_, fun first _ id hreg => ?_, fun id stream _ _ hget => ?_,
    fun hset => ?_⟩
  · rw [hnone] at hreg
    cases hreg
  · rw [hnone] at hreg
    cases hreg
  · cases hget
  · cases hset

/-- A registered type stays with its stream. -/
theorem Joins.keeps {joined : H3 Q} (hjoins : Joins h streamId fed streamType joined)
    {other : Nat} (hreg : h.registered other = some id) : joined.registered other = some id := by
  cases hjoins with
  | known _ plane => rw [plane.registered, hreg]
  | fresh _ registers =>
    by_cases hother : other = streamType
    · subst hother
      rw [registers.vacant] at hreg
      cases hreg
    · rw [registers.others other hother, hreg]

/-- What is registered afterwards was before, or is the stream that joins. -/
theorem Joins.registered_cases {joined : H3 Q} (hjoins : Joins h streamId fed streamType joined)
    {other : Nat} (hreg : joined.registered other = some id) :
    h.registered other = some id ∨
      other = streamType ∧ id = streamId ∧ ∀ known, h.registered known ≠ some streamId := by
  cases hjoins with
  | known _ plane => exact Or.inl (by rw [← plane.registered, hreg])
  | fresh _ registers =>
    by_cases hother : other = streamType
    · subst hother
      rw [registers.now] at hreg
      cases hreg
      exact Or.inr ⟨rfl, rfl, registers.unused⟩
    · exact Or.inl (by rw [← registers.others other hother, hreg])

/-- The entry of a stream whose bytes have a type. -/
theorem entry_of_feedStream
    (htype : (h.feedStream streamId data endStream).streamType = some streamType) :
    ∃ stream, h.streams.get? streamId = some stream ∧ stream.streamType = some streamType := by
  cases hget : h.streams.get? streamId with
  | none =>
    simp only [feedStream, hget, Option.getD_none, reduceCtorEq] at htype
  | some stream =>
    rw [h.feedStream_streamType hget] at htype
    exact ⟨stream, rfl, htype⟩

theorem Plane.joined {joined : H3 Q} (hplane : Plane h)
    (huni : isUnidirectionalStream streamId = true) (hinfra : IsInfrastructure streamType)
    (hjoins : Joins h streamId (h.feedStream streamId data endStream) streamType joined) :
    joined.registered streamType = some streamId := by
  cases hjoins with
  | known type plane =>
    obtain ⟨stream, hget, htype⟩ := entry_of_feedStream type
    rw [plane.registered]
    exact hplane.typed streamId stream streamType huni hget htype hinfra
  | fresh _ registers => exact registers.now

/-- After a stream joins, whatever becomes of its own entry. -/
theorem Plane.join {joined : H3 Q} (hplane : Plane h)
    (huni : isUnidirectionalStream streamId = true) (hinfra : IsInfrastructure streamType)
    (hjoins : Joins h streamId (h.feedStream streamId data endStream) streamType joined)
    (hids : h'.registered = joined.registered)
    (hothers : ∀ id, id ≠ streamId → h'.streams.get? id = h.streams.get? id)
    (hentry : ∀ stream, h'.streams.get? streamId = some stream →
      stream.streamType = some streamType) (hflag : streamType ≠ h3StreamTypeControl →
      h'.settingsReceived = joined.settingsReceived) : Plane h' := by
  have hnow := hplane.joined huni hinfra hjoins
  refine ⟨fun other id hreg => ?_, fun first second id hfirst hsecond => ?_,
    fun id stream other hid hget htype hother => ?_, fun hset => ?_⟩
  · rw [hids] at hreg
    rcases hjoins.registered_cases hreg with hold | ⟨-, rfl, -⟩
    · exact hplane.unidirectional other id hold
    · exact huni
  · rw [hids] at hfirst hsecond
    rcases hjoins.registered_cases hfirst with hold | ⟨rfl, rfl, hunused⟩
    · rcases hjoins.registered_cases hsecond with hold' | ⟨rfl, rfl, hunused⟩
      · exact hplane.distinct first second id hold hold'
      · exact absurd hold (hunused first)
    · rcases hjoins.registered_cases hsecond with hold' | ⟨rfl, -, -⟩
      · exact absurd hold' (hunused second)
      · rfl
  · rw [hids]
    by_cases hsame : id = streamId
    · subst hsame
      rw [hentry stream hget] at htype
      cases htype
      exact hnow
    · rw [hothers id hsame] at hget
      exact hjoins.keeps (hplane.typed id stream other hid hget htype hother)
  · have hcontrol : h'.peerControlStreamId = joined.registered h3StreamTypeControl := by
      rw [← hids]
      rfl
    rw [hcontrol]
    by_cases htype : streamType = h3StreamTypeControl
    · subst htype
      rw [hnow]
      rfl
    · have hbefore : h.settingsReceived = true := by
        rw [hflag htype] at hset
        cases hjoins with
        | known _ plane => exact plane.settings.symm.trans hset
        | fresh _ registers => exact registers.settings.symm.trans hset
      obtain ⟨id, hid⟩ := Option.isSome_iff_exists.mp (hplane.flagged hbefore)
      have hcontrol : h.registered h3StreamTypeControl = some id := hid
      rw [hjoins.keeps hcontrol]
      rfl

/-- Nothing the control plane sees has changed, and no entry has got a type
it did not have. -/
theorem Plane.same (hplane : Plane h) (hsame : SamePlane h h')
    (hentries : ∀ id, isUnidirectionalStream id = true →
      h'.streams.get? id = h.streams.get? id ∨ ∀ stream, h'.streams.get? id = some stream →
        ∀ streamType, stream.streamType = some streamType → ¬IsInfrastructure streamType) :
    Plane h' := by
  refine ⟨fun streamType id hreg => ?_, fun first second id hfirst hsecond => ?_,
    fun id stream streamType huni hget htype hinfra => ?_, fun hset => ?_⟩
  · rw [hsame.registered] at hreg
    exact hplane.unidirectional streamType id hreg
  · rw [hsame.registered] at hfirst hsecond
    exact hplane.distinct first second id hfirst hsecond
  · rcases hentries id huni with hold | hnew
    · rw [hold] at hget
      rw [hsame.registered]
      exact hplane.typed id stream streamType huni hget htype hinfra
    · exact absurd hinfra (hnew stream hget streamType htype)
  · rw [hsame.control]
    rw [hsame.settings] at hset
    exact hplane.flagged hset

theorem settings_of_quiet {before after : Bool} {events : List ProtocolEvent}
    (hlog : settingsAfter before events = some after) (hquiet : events = []) : after = before := by
  rw [hquiet] at hlog
  cases hlog
  rfl

theorem Plane.call (hplane : Plane h) {outcome : Outcome} (hcall : PlaneCall h h' event outcome) :
    Plane h' := by
  cases hcall with
  | aside plane _ _ entries =>
    exact hplane.same plane fun id huni => (entries id huni).imp (fun h => h) And.right
  | failed unidirectional others infrastructure joins ids _ flag gone =>
    refine hplane.join unidirectional infrastructure joins ids others (fun stream hget => ?_) flag
    rw [gone] at hget
    cases hget
  | handled unidirectional others infrastructure joins ids _ _ stream entry type _ log quiet =>
    refine hplane.join unidirectional infrastructure joins ids others (fun found hget => ?_)
      fun hne => settings_of_quiet log (quiet hne)
    rw [entry] at hget
    cases hget
    exact type

/-! ## SETTINGS and GOAWAY over a run -/

/-- There is a control stream to read from. -/
def HasControl (h : H3 Q) : Prop :=
  ∃ id stream, isUnidirectionalStream id = true ∧ h.streams.get? id = some stream ∧
    stream.streamType = some h3StreamTypeControl

/-- The events so far are in order. The flag may be ahead of them, but then
there is no control stream left. -/
def Logged (h : H3 Q) (events : List ProtocolEvent) : Prop :=
  ∃ seen, settingsAfter false events = some seen ∧ (seen = true → h.settingsReceived = true) ∧
    (h.settingsReceived = true → HasControl h → seen = true)

theorem Logged.same {events more : List ProtocolEvent} (hlogged : Logged h events)
    (hflag : h'.settingsReceived = h.settingsReceived) (hunrelated : Unrelated more)
    (hcontrol : HasControl h' → HasControl h) : Logged h' (events ++ more) := by
  obtain ⟨seen, hevents, hseen, hkept⟩ := hlogged
  refine ⟨seen, ?_, fun h => hflag.trans (hseen h), fun hset hhas => ?_⟩
  · rw [settingsAfter_append, hevents]
    exact settingsAfter_unrelated hunrelated seen
  · exact hkept (hflag.symm.trans hset) (hcontrol hhas)

theorem Joins.settings {joined : H3 Q} (hjoins : Joins h streamId fed streamType joined) :
    joined.settingsReceived = h.settingsReceived := by
  cases hjoins with
  | known _ plane => exact plane.settings
  | fresh _ registers => exact registers.settings

theorem Logged.call (hplane : Plane h) {events : List ProtocolEvent} (hlogged : Logged h events)
    {outcome : Outcome} (hcall : PlaneCall h h' event outcome) :
    Logged h' (events ++ outcome.1) := by
  cases hcall with
  | aside plane unrelated _ entries =>
    refine hlogged.same plane.settings unrelated ?_
    rintro ⟨id, stream, huni, hget, htype⟩
    rcases entries id huni with hold | ⟨-, hnew⟩
    · exact ⟨id, stream, huni, hold ▸ hget, htype⟩
    · exact absurd (Or.inl rfl) (hnew stream hget _ htype)
  | @failed streamId data endStream streamType joined errorCode reason unidirectional others
      infrastructure joins ids advances flag gone _ =>
      -- an entry that is left is an old one
      have hold : ∀ id stream, h'.streams.get? id = some stream →
          id ≠ streamId ∧ h.streams.get? id = some stream := by
        intro id stream hget
        have hne : id ≠ streamId := by
          rintro rfl
          rw [gone] at hget
          cases hget
        exact ⟨hne, others id hne ▸ hget⟩
      by_cases htype : streamType = h3StreamTypeControl
      · subst htype
        obtain ⟨seen, hevents, hseen, -⟩ := hlogged
        have hnow := hplane.joined unidirectional infrastructure joins
        rw [List.append_nil]
        refine ⟨seen, hevents, fun h => advances.settings (joins.settings.trans (hseen h)),
          fun _ => ?_⟩
        rintro ⟨id, stream, huni, hget, hcontrol⟩
        obtain ⟨hne, hget⟩ := hold id stream hget
        have hreg := joins.keeps (hplane.typed id stream _ huni hget hcontrol infrastructure)
        rw [hnow] at hreg
        exact absurd (Option.some.inj hreg).symm hne
      · refine hlogged.same ((flag htype).trans joins.settings) unrelated_nil ?_
        rintro ⟨id, stream, huni, hget, hcontrol⟩
        exact ⟨id, stream, huni, (hold id stream hget).2, hcontrol⟩
  | @handled streamId data endStream streamType joined _ unidirectional others infrastructure joins
      ids advances _ stream entry type _ log quiet =>
      by_cases htype : streamType = h3StreamTypeControl
      · subst htype
        obtain ⟨seen, hevents, hseen, hkept⟩ := hlogged
        -- the control stream was in the table, or there had been none
        have hflag : joined.settingsReceived = seen := by
          rw [joins.settings]
          cases hset : h.settingsReceived with
          | false =>
            cases seen with
            | false => rfl
            | true =>
              rw [hseen rfl] at hset
              cases hset
          | true =>
            cases joins with
            | known type' _ =>
              obtain ⟨old, hget, holdType⟩ := entry_of_feedStream type'
              exact (hkept hset ⟨streamId, old, unidirectional, hget, holdType⟩).symm
            | fresh _ registers =>
              have hvacant : h.peerControlStreamId = none := registers.vacant
              have hsome := hplane.flagged hset
              rw [hvacant] at hsome
              cases hsome
        refine ⟨h'.settingsReceived, ?_, fun h => h, fun h _ => h⟩
        rw [settingsAfter_append, hevents]
        rw [hflag] at log
        exact log
      · have hnothing := quiet htype
        refine hlogged.same ((settings_of_quiet log hnothing).trans joins.settings)
          (hnothing ▸ unrelated_nil) ?_
        rintro ⟨id, found, huni, hget, hcontrol⟩
        by_cases hid : id = streamId
        · subst hid
          rw [entry] at hget
          cases hget
          rw [type] at hcontrol
          exact absurd (Option.some.inj hcontrol) htype
        · exact ⟨id, found, huni, others id hid ▸ hget, hcontrol⟩

/-! ## The end of a registered stream -/

/-- The registered streams are in the table, and not at their end. -/
def Present (h : H3 Q) : Prop :=
  ∀ streamType id, h.registered streamType = some id → ∃ stream,
    h.streams.get? id = some stream ∧ stream.streamType = some streamType ∧ stream.ended = false

/-- The connection is given up. -/
def Closes (outcome : Outcome) : Prop :=
  ∃ errorCode reason, .closeQuicConnection errorCode reason ∈ outcome.2

theorem PlaneCall.registered_cases {outcome : Outcome} (hcall : PlaneCall h h' event outcome)
    (hreg : h'.registered streamType = some id) :
    h.registered streamType = some id ∨
      ∃ data endStream, event = .transportStreamDataReceived id data endStream := by
  cases hcall with
  | aside plane => exact Or.inl (by rw [← plane.registered, hreg])
  | failed _ _ _ joins ids | handled _ _ _ joins ids =>
    rw [ids] at hreg
    rcases joins.registered_cases hreg with hold | ⟨-, rfl, -⟩
    · exact Or.inl hold
    · exact Or.inr ⟨_, _, rfl⟩

theorem PlaneCall.keeps {outcome : Outcome} (hcall : PlaneCall h h' event outcome)
    (hreg : h.registered streamType = some id) : h'.registered streamType = some id := by
  cases hcall with
  | aside plane => rw [plane.registered, hreg]
  | failed _ _ _ joins ids | handled _ _ _ joins ids => rw [ids, joins.keeps hreg]

theorem PlaneCall.advances {outcome : Outcome} (hcall : PlaneCall h h' event outcome) :
    Advances h h' := by
  cases hcall with
  | aside plane => exact Advances.of_eq plane.maxPushId plane.settings
  | failed _ _ _ joins _ advances | handled _ _ _ joins _ advances =>
    exact joins.advances.trans advances

theorem Present.same (hpresent : Present h) (hplane : Plane h) (hsame : SamePlane h h')
    (hentries : ∀ id, isUnidirectionalStream id = true →
      h'.streams.get? id = h.streams.get? id) : Present h' := by
  intro streamType id hreg
  rw [hsame.registered] at hreg
  rw [hentries id (hplane.unidirectional streamType id hreg)]
  exact hpresent streamType id hreg

/-- The registered streams stay in the table, unless the connection goes. -/
theorem Present.call (hplane : Plane h) (hpresent : Present h) {outcome : Outcome}
    (hcall : PlaneCall h h' event outcome)
    (hopened : ∀ id, event = .transportStreamOpened id → ∀ streamType,
      h.registered streamType ≠ some id) : Closes outcome ∨ Present h' := by
  have hplane' := hplane.call hcall
  cases hcall with
  | aside plane _ _ entries =>
    refine Or.inr fun streamType id hreg => ?_
    rw [plane.registered] at hreg
    obtain ⟨stream, hget, htype, hrunning⟩ := hpresent streamType id hreg
    rcases entries id (hplane.unidirectional streamType id hreg) with hold | ⟨hdisplaced, -⟩
    · exact ⟨stream, hold.trans hget, htype, hrunning⟩
    · rcases hdisplaced with hevent | hnot
      · exact absurd hreg (hopened id hevent streamType)
      · exact absurd htype (hnot streamType stream hreg hget)
  | failed => exact Or.inl ⟨_, _, List.mem_singleton.mpr rfl⟩
  | @handled streamId data endStream streamType joined _ unidirectional others infrastructure joins
      ids _ _ stream entry type running =>
      refine Or.inr fun other id hreg => ?_
      by_cases hid : id = streamId
      · subst hid
        have hnow : h'.registered streamType = some id := by
          rw [ids]
          exact hplane.joined unidirectional infrastructure joins
        obtain rfl := hplane'.distinct other streamType id hreg hnow
        exact ⟨stream, entry, type, running⟩
      · rw [ids] at hreg
        rcases joins.registered_cases hreg with hold | ⟨-, hsame, -⟩
        · rw [others id hid]
          exact hpresent other id hold
        · exact absurd hsame hid

/-- The end of a registered stream, also of one that is registered by the
bytes that come with the end. -/
theorem closes_of_fin (hplane : Plane h) (hpresent : Present h) {outcome : Outcome}
    (hcall : PlaneCall h h' (.transportStreamDataReceived id data true) outcome)
    (hreg : h'.registered streamType = some id) :
    ∃ errorCode reason, .closeQuicConnection errorCode reason ∈ outcome.2 ∧
      (streamType = h3StreamTypeControl → errorCode = errH3ClosedCriticalStream) := by
  have hplane' := hplane.call hcall
  have hended : (h.feedStream id data true).ended = true := by simp [feedStream]
  generalize hevent : ProtocolEvent.transportStreamDataReceived id data true = event at hcall
  cases hcall with
  | aside plane _ stranger _ =>
    rw [plane.registered] at hreg
    obtain ⟨stream, hget, htype, -⟩ := hpresent streamType id hreg
    refine absurd (isInfrastructure_of_registered hreg)
      (stranger id data true hevent.symm (hplane.unidirectional streamType id hreg) streamType ?_)
    rw [h.feedStream_streamType hget, htype]
  | @failed streamId _ _ actual joined errorCode reason unidirectional _ infrastructure joins ids _ _
      _ critical =>
      cases hevent
      refine ⟨errorCode, reason, List.mem_singleton.mpr rfl, fun hcontrol => ?_⟩
      have hnow : h'.registered actual = some id := by
        rw [ids]
        exact hplane.joined unidirectional infrastructure joins
      exact critical hended ((hplane'.distinct actual streamType id hnow hreg).trans hcontrol)
  | handled _ _ _ _ _ _ notEnded =>
    cases hevent
    rw [hended] at notEnded
    cases notEnded

/-- A registered stream that is reset closes the connection. -/
theorem closes_of_reset {errorCode : ErrorCode} {outcome : Outcome}
    (hreg : h.registered streamType = some id)
    (hr : h.handleTransportEvent (.transportResetStreamReceived id errorCode) connection =
      some (h', outcome)) :
    ∃ reason, .closeQuicConnection errH3ClosedCriticalStream reason ∈ outcome.2 := by
  have hcontains := contains_registered_iff.mpr ⟨streamType, hreg⟩
  simp only [handleTransportEvent, transportResult, recvStreamReset, hcontains, if_true,
    Option.map_some] at hr
  cases hr
  exact ⟨_, List.mem_singleton.mpr rfl⟩

/-! ## Whole runs -/

/-- The event brings bytes, or the end, of the stream. -/
def carries (id : StreamId) : ProtocolEvent → Bool
  | .transportStreamDataReceived streamId _ _ => streamId == id
  | _ => false

/-- A stream is announced before its bytes come. -/
def Announced (calls : List (Call Q)) : Prop :=
  AtEach (fun before call => ∀ id, call.event = .transportStreamOpened id →
    ∀ earlier ∈ before, carries id earlier.event = false) calls

/-- The end of a registered stream ends the connection, with the code for a
critical stream if it is the control stream. -/
def Call.EndCloses (call : Call Q) : Prop :=
  ∀ id data, call.event = .transportStreamDataReceived id data true →
    (call.after.peerControlStreamId = some id →
      ∃ reason, .closeQuicConnection errH3ClosedCriticalStream reason ∈ call.outcome.2) ∧
    (call.after.peerEncoderStreamId = some id ∨ call.after.peerDecoderStreamId = some id →
      Closes call.outcome)

/-- The reset of a registered stream ends the connection. -/
def Call.ResetCloses (call : Call Q) : Prop :=
  ∀ id errorCode, call.event = .transportResetStreamReceived id errorCode →
    call.before.peerControlStreamId = some id ∨ call.before.peerEncoderStreamId = some id ∨
      call.before.peerDecoderStreamId = some id →
    ∃ reason, .closeQuicConnection errH3ClosedCriticalStream reason ∈ call.outcome.2

/-- What is kept along a run. -/
structure History (calls : List (Call Q)) (h : H3 Q) : Prop where
  plane : Plane h
  logged : Logged h (calls.flatMap (·.outcome.1))
  heard : ∀ streamType id, h.registered streamType = some id →
    ∃ call ∈ calls, carries id call.event = true
  kept : ∀ call ∈ calls, ∀ streamType id,
    call.before.registered streamType = some id ∨ call.after.registered streamType = some id →
    h.registered streamType = some id
  advances : ∀ call ∈ calls, Advances call.before h ∧ Advances call.after h
  present : Announced calls → (∀ call ∈ calls, ¬Closes call.outcome) → Present h
  resets : ∀ call ∈ calls, call.ResetCloses
  ends : Announced calls → AtEach (fun before call =>
    (∀ earlier ∈ before, ¬Closes earlier.outcome) → call.EndCloses) calls

theorem history_new {isClient : Bool} {parameters : H3Parameters} :
    History [] (H3.new isClient parameters : H3 Q) where
  plane := plane_new
  logged := ⟨false, rfl, (fun h => nomatch h), fun h => nomatch h⟩
  heard streamType id hreg := by
    have hinfra := isInfrastructure_of_registered hreg
    rcases hinfra with rfl | rfl | rfl <;> cases hreg
  kept _ hmem := nomatch hmem
  advances _ hmem := nomatch hmem
  present _ _ streamType id hreg := by
    have hinfra := isInfrastructure_of_registered hreg
    rcases hinfra with rfl | rfl | rfl <;> cases hreg
  resets _ hmem := nomatch hmem
  ends _ := atEach_nil _

theorem History.aside {calls : List (Call Q)} (hh : History calls h) (hshape : AsideShape h h') :
    History calls h' where
  plane := hh.plane.same hshape.plane fun _ huni => Or.inl (hshape.unidirectional huni)
  logged := by
    have hlogged : Logged h' (calls.flatMap (·.outcome.1) ++ []) := by
      refine hh.logged.same hshape.plane.settings unrelated_nil ?_
      rintro ⟨id, stream, huni, hget, htype⟩
      exact ⟨id, stream, huni, hshape.unidirectional huni ▸ hget, htype⟩
    rwa [List.append_nil] at hlogged
  heard streamType id hreg := hh.heard streamType id (by rw [← hshape.plane.registered, hreg])
  kept call hmem streamType id hreg := by
    rw [hshape.plane.registered]
    exact hh.kept call hmem streamType id hreg
  advances call hmem :=
    have hsame := Advances.of_eq hshape.plane.maxPushId hshape.plane.settings
    ⟨(hh.advances call hmem).1.trans hsame, (hh.advances call hmem).2.trans hsame⟩
  present hannounced hopen :=
    (hh.present hannounced hopen).same hh.plane hshape.plane fun _ huni =>
      hshape.unidirectional huni
  resets := hh.resets
  ends := hh.ends

theorem History.endCloses {calls : List (Call Q)} (hh : History calls h) {outcome : Outcome}
    (hcall : PlaneCall h h' event outcome) (hannounced : Announced calls)
    (hopen : ∀ earlier ∈ calls, ¬Closes earlier.outcome) :
    (Call.mk event connection h h' outcome).EndCloses := by
  intro id data hevent
  have hevent : event = .transportStreamDataReceived id data true := hevent
  subst hevent
  have hpresent := hh.present hannounced hopen
  refine ⟨fun hcontrol => ?_, ?_⟩
  · have hreg : h'.registered h3StreamTypeControl = some id := hcontrol
    obtain ⟨errorCode, reason, hmem, hcode⟩ := closes_of_fin hh.plane hpresent hcall hreg
    rw [hcode rfl] at hmem
    exact ⟨reason, hmem⟩
  · rintro (hencoder | hdecoder)
    · have hreg : h'.registered h3StreamTypeQpackEncoder = some id := hencoder
      obtain ⟨errorCode, reason, hmem, -⟩ := closes_of_fin hh.plane hpresent hcall hreg
      exact ⟨errorCode, reason, hmem⟩
    · have hreg : h'.registered h3StreamTypeQpackDecoder = some id := hdecoder
      obtain ⟨errorCode, reason, hmem, -⟩ := closes_of_fin hh.plane hpresent hcall hreg
      exact ⟨errorCode, reason, hmem⟩

theorem resetCloses {outcome : Outcome}
    (hr : h.handleTransportEvent event connection = some (h', outcome)) :
    (Call.mk event connection h h' outcome).ResetCloses := by
  intro id errorCode hevent hreg
  have hevent : event = .transportResetStreamReceived id errorCode := hevent
  subst hevent
  obtain ⟨streamType, hreg⟩ : ∃ streamType, h.registered streamType = some id := by
    rcases hreg with hcontrol | hencoder | hdecoder
    · exact ⟨h3StreamTypeControl, hcontrol⟩
    · exact ⟨h3StreamTypeQpackEncoder, hencoder⟩
    · exact ⟨h3StreamTypeQpackDecoder, hdecoder⟩
  exact closes_of_reset hreg hr

/-- A stream that is announced now is not registered. -/
theorem History.unregistered {calls : List (Call Q)} (hh : History calls h) {call : Call Q}
    (hannounced : Announced (calls ++ [call])) (hevent : call.event = .transportStreamOpened id)
    (streamType : Nat) : h.registered streamType ≠ some id := by
  intro hreg
  obtain ⟨earlier, hmem, hcarries⟩ := hh.heard streamType id hreg
  have hsilent := hannounced calls call [] rfl id hevent earlier hmem
  rw [hcarries] at hsilent
  cases hsilent

theorem History.call {calls : List (Call Q)} (hh : History calls h) {outcome : Outcome}
    (hr : h.handleTransportEvent event connection = some (h', outcome))
    (hcall : PlaneCall h h' event outcome) :
    History (calls ++ [⟨event, connection, h, h', outcome⟩]) h' where
  plane := hh.plane.call hcall
  logged := by
    have hlogged := Logged.call hh.plane hh.logged hcall
    rw [List.flatMap_append, List.flatMap_cons, List.flatMap_nil, List.append_nil]
    exact hlogged
  heard streamType id hreg := by
    rcases hcall.registered_cases hreg with hold | ⟨data, endStream, hevent⟩
    · obtain ⟨call, hmem, hcarries⟩ := hh.heard streamType id hold
      exact ⟨call, List.mem_append_left _ hmem, hcarries⟩
    · refine ⟨_, List.mem_append_right _ (List.mem_singleton.mpr rfl), ?_⟩
      simp [hevent, carries]
  kept call hmem streamType id hreg := by
    rcases List.mem_append.mp hmem with hold | hnew
    · exact hcall.keeps (hh.kept call hold streamType id hreg)
    · cases List.mem_singleton.mp hnew
      exact hreg.elim hcall.keeps fun h => h
  advances call hmem := by
    rcases List.mem_append.mp hmem with hold | hnew
    · obtain ⟨hbefore, hafter⟩ := hh.advances call hold
      exact ⟨hbefore.trans hcall.advances, hafter.trans hcall.advances⟩
    · cases List.mem_singleton.mp hnew
      exact ⟨hcall.advances, Advances.refl h'⟩
  present hannounced hopen := by
    have hold := ((atEach_append _ _ _).mp hannounced).1
    have hpresent := hh.present hold fun call hmem => hopen call (List.mem_append_left _ hmem)
    have hcloses := hopen _ (List.mem_append_right _ (List.mem_singleton.mpr rfl))
    refine (Present.call hh.plane hpresent hcall fun id hevent => ?_).resolve_left hcloses
    exact hh.unregistered hannounced hevent
  resets call hmem := by
    rcases List.mem_append.mp hmem with hold | hnew
    · exact hh.resets call hold
    · cases List.mem_singleton.mp hnew
      exact resetCloses hr
  ends hannounced := by
    have hold := ((atEach_append _ _ _).mp hannounced).1
    rw [atEach_append, atEach_cons]
    refine ⟨hh.ends hold, fun hopen => ?_, atEach_nil _⟩
    rw [List.append_nil] at hopen
    exact hh.endCloses hcall hold hopen

theorem LayerRun.history (hQ : Q.NonBlocking) { isClient : Bool} {parameters : H3Parameters}
    {calls : List (Call Q)} (hrun : LayerRun isClient parameters calls h) : History calls h := by
  induction hrun with
  | new => exact history_new
  | aside _ step ih => exact ih.aside step.shape
  | call run handled ih =>
    exact ih.call handled (handleTransportEvent_planeCall hQ (run.tableWF hQ) handled)

/-- The bytes of a unidirectional stream are always dealt with. -/
theorem handleTransportEvent_returns (hQ : Q.NonBlocking)
    (huni : isUnidirectionalStream id = true) :
    ∃ r, h.handleTransportEvent (.transportStreamDataReceived id data endStream) connection =
      some r := by
  have hinfra : ∀ (h : H3 Q) stream streamType,
      ∃ r, h.recvInfrastructureData stream streamType connection = some r := by
    intro h stream streamType
    unfold recvInfrastructureData
    split_ifs
    · exact ⟨_, rfl⟩
    · exact ⟨_, rfl⟩
    · exact ⟨_, rfl⟩
    · exact ⟨_, rfl⟩
    · exact ⟨_, rfl⟩
    · simp only
      cases hfed : (Q.feedEncoder h.decoder stream.buffer).2 with
      | error e => exact ⟨_, rfl⟩
      | ok unblocked =>
        have hnone := hQ.feed_unblocks_none h.decoder stream.buffer unblocked hfed
        subst hnone
        exact ⟨_, rfl⟩
    · exact ⟨_, rfl⟩
  have hresult : ∃ r, h.recvUnidirectionalStreamData id data endStream connection = some r := by
    unfold recvUnidirectionalStreamData
    simp only
    split
    · exact ⟨_, rfl⟩
    · exact ⟨_, rfl⟩
    · exact ⟨_, rfl⟩
    · rename_i h' stream streamType _
      split
      · exact ⟨_, rfl⟩
      · obtain ⟨r, hr⟩ := hinfra h' stream streamType
        rw [hr]
        exact ⟨_, rfl⟩
  obtain ⟨r, hr⟩ := hresult
  simp only [handleTransportEvent, transportResult, huni, if_true, hr]
  exact ⟨_, rfl⟩

/-- The invariant of the streams that carry HTTP/3 itself. -/
structure ControlPlaneInvariant (calls : List (Call Q)) (h : H3 Q) : Prop where
  control : ∀ call ∈ calls, ∀ id,
    call.before.peerControlStreamId = some id ∨ call.after.peerControlStreamId = some id →
    h.peerControlStreamId = some id
  encoder : ∀ call ∈ calls, ∀ id,
    call.before.peerEncoderStreamId = some id ∨ call.after.peerEncoderStreamId = some id →
    h.peerEncoderStreamId = some id
  decoder : ∀ call ∈ calls, ∀ id,
    call.before.peerDecoderStreamId = some id ∨ call.after.peerDecoderStreamId = some id →
    h.peerDecoderStreamId = some id
  distinct : ∀ id,
    (h.peerControlStreamId = some id →
      h.peerEncoderStreamId ≠ some id ∧ h.peerDecoderStreamId ≠ some id) ∧
    (h.peerEncoderStreamId = some id → h.peerDecoderStreamId ≠ some id)
  settingsOnce : (calls.flatMap (·.outcome.1)).countP isSettings ≤ 1
  goawayAfterSettings : AtEach (fun before event => isGoaway event = true →
    ∃ earlier ∈ before, isSettings earlier = true) (calls.flatMap (·.outcome.1))
  maxPushId : ∀ call ∈ calls, ∀ m,
    call.before.peerMaxPushId = some m ∨ call.after.peerMaxPushId = some m →
    ∃ m', h.peerMaxPushId = some m' ∧ m ≤ m'
  returns : ∀ id data endStream connection, isUnidirectionalStream id = true →
    ∃ r, h.handleTransportEvent (.transportStreamDataReceived id data endStream) connection =
      some r
  resets : ∀ call ∈ calls, call.ResetCloses
  ends : Announced calls → AtEach (fun before call =>
    (∀ earlier ∈ before, ¬Closes earlier.outcome) → call.EndCloses) calls

/-- In every run of the layer, the peer's control and QPACK streams are
registered for good and are different streams, SETTINGS are raised at most
once and before every GOAWAY, the push limit does not fall, and the end or
reset of a registered stream gives up the connection. -/
theorem control_plane_invariant (hQ : Q.NonBlocking) { isClient : Bool}
    {parameters : H3Parameters} {calls : List (Call Q)} {h : H3 Q}
    (hrun : LayerRun isClient parameters calls h) : ControlPlaneInvariant calls h := by
  have hh := hrun.history hQ
  obtain ⟨seen, hevents, -, -⟩ := hh.logged
  have hapart : ∀ (first second : Nat) (id : StreamId), first ≠ second →
      h.registered first = some id → h.registered second ≠ some id := by
    intro first second id hne hfirst hsecond
    exact hne (hh.plane.distinct first second id hfirst hsecond)
  exact
    { control := fun call hmem => hh.kept call hmem h3StreamTypeControl
      encoder := fun call hmem => hh.kept call hmem h3StreamTypeQpackEncoder
      decoder := fun call hmem => hh.kept call hmem h3StreamTypeQpackDecoder
      distinct := fun id =>
        ⟨fun hcontrol =>
          ⟨hapart h3StreamTypeControl h3StreamTypeQpackEncoder id (by decide) hcontrol,
            hapart h3StreamTypeControl h3StreamTypeQpackDecoder id (by decide) hcontrol⟩,
          hapart h3StreamTypeQpackEncoder h3StreamTypeQpackDecoder id (by decide)⟩
      settingsOnce := by simpa using countP_of_settingsAfter hevents
      goawayAfterSettings := (atEach_of_settingsAfter hevents).mono fun _ _ _ hbefore hgoaway =>
        (hbefore hgoaway).resolve_left Bool.false_ne_true
      maxPushId := fun call hmem m hm =>
        hm.elim ((hh.advances call hmem).1.maxPushId m) ((hh.advances call hmem).2.maxPushId m)
      returns := fun id data endStream connection huni =>
        handleTransportEvent_returns hQ huni
      resets := hh.resets
      ends := hh.ends }

/-- The control stream of a client is announced, named, and ends. -/
def endedControlStream : List (ProtocolEvent × Connection) :=
  [(.transportStreamOpened 3, sampleConnection),
    (.transportStreamDataReceived 3 [0] false, sampleConnection),
    (.transportStreamDataReceived 3 [] true, sampleConnection)]

theorem control_plane_invariant_ended :
    ∃ (calls : List (Call plainQpack)) (h : H3 plainQpack),
      callAll endedControlStream (H3.new true sampleH3Parameters) = some (calls, h) ∧
      LayerRun true sampleH3Parameters calls h ∧ ControlPlaneInvariant calls h := by
  obtain ⟨⟨calls, h⟩, hall⟩ : ∃ r, callAll endedControlStream
      (H3.new true sampleH3Parameters : H3 plainQpack) = some r := ⟨_, rfl⟩
  have hrun : LayerRun true sampleH3Parameters ([] ++ calls) h := LayerRun.new.callAll _ hall
  exact ⟨calls, h, hall, hrun, control_plane_invariant plainQpack_nonBlocking hrun⟩

end H3

end PyWebTransport

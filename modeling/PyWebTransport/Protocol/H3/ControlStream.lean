/-
PyWebTransport.Protocol.H3.ControlStream — what the bytes of a
unidirectional stream can do.

A control stream raises SETTINGS and GOAWAY and leaves the table of streams
alone (`ControlFrames.controls`); whatever is wrong with it is wrong
with the connection, never with a single stream (`ConnectionLevel`). With a
header decoder that never blocks, the encoder stream of the peer releases
nothing. Together with the streams handed to a session, that is all a chunk
of a unidirectional stream can do (`recvUnidirectionalStreamData_received`).
-/
import PyWebTransport.Protocol.H3.StreamTable

namespace PyWebTransport

open PyWebTransport.Lib

/-- The error is not about a single stream. -/
def WebTransportError.ConnectionWide : WebTransportError → Prop
  | .stream .. => False
  | _ => True

theorem WebTransportError.ConnectionWide.names {e : WebTransportError} (h : e.ConnectionWide)
    (streamId : StreamId) : e.NamesOnly streamId := by
  cases e with
  | stream id errorCode reason => exact False.elim h
  | _ => trivial

namespace H3

variable {Q : Qpack} {α : Type} {x : Except WebTransportError α} {h h' : H3 Q}
  {r : H3 Q × Except WebTransportError Outcome} {streamType : Nat} {connection : Connection}
  {streamId : StreamId}

/-! ## Failures of the connection -/

/-- If it fails, it is not over a single stream. -/
def ConnectionLevel {α : Type} : Except WebTransportError α → Prop
  | .error e => e.ConnectionWide
  | .ok _ => True

theorem ConnectionLevel.map {β : Type} (hx : ConnectionLevel x) (f : α → β) :
    ConnectionLevel (x.map f) := by
  cases x with
  | error e => exact hx
  | ok a => trivial

theorem ConnectionLevel.bind {β : Type} {f : α → Except WebTransportError β}
    (hx : ConnectionLevel x) (hf : ∀ a, ConnectionLevel (f a)) : ConnectionLevel (x.bind f) := by
  cases x with
  | error e => exact hx
  | ok a => exact hf a

theorem ConnectionLevel.ite {p : Prop} [Decidable p] {y : Except WebTransportError α}
    (hx : ConnectionLevel x) (hy : ConnectionLevel y) : ConnectionLevel (if p then x else y) := by
  split
  · exact hx
  · exact hy

theorem connectionLevel_decodeVarint {buffer : Bytes} : ConnectionLevel (decodeVarint buffer) := by
  unfold decodeVarint
  cases readVarint buffer <;> trivial

theorem connectionLevel_parsePushId (data : Bytes) : ConnectionLevel (parsePushId data) := by
  refine connectionLevel_decodeVarint.bind fun p => ?_
  simp only
  split <;> trivial

theorem connectionLevel_fillSlot {slot : Option Nat} {value : Nat} :
    ConnectionLevel (fillSlot slot value) := by
  unfold fillSlot
  split <;> trivial

theorem connectionLevel_addSetting {settings : H3Settings} {identifier value : Nat} :
    ConnectionLevel (addSetting settings identifier value) := by
  unfold addSetting
  -- reserved identifiers and repeated unknown ones fail; every other setting fills its slot
  repeat' refine ConnectionLevel.ite ?_ ?_
  all_goals first | exact connectionLevel_fillSlot.map _ | trivial

theorem connectionLevel_parseSettingsLoop : ∀ (limit : Nat) (settings : H3Settings)
    (cursor : Bytes), ConnectionLevel (parseSettingsLoop limit settings cursor) := by
  intro limit
  induction limit with
  | zero =>
    intro settings cursor
    cases cursor <;> trivial
  | succ limit ih =>
    intro settings cursor
    cases cursor with
    | nil => trivial
    | cons byte rest =>
      refine connectionLevel_decodeVarint.bind fun identifier => ?_
      refine connectionLevel_decodeVarint.bind fun value => ?_
      exact connectionLevel_addSetting.bind fun settings => ih settings _

theorem connectionLevel_validateSettings {settings : H3Settings} :
    ConnectionLevel (validateSettings settings connection) := by
  unfold validateSettings
  split_ifs <;> trivial

/-! ## The frames of a control stream -/

/-- What handling control frames comes to: the table is as before, and only
SETTINGS and GOAWAY are raised. -/
structure Controls (h : H3 Q) (r : H3 Q × Except WebTransportError Outcome) : Prop where
  isClient : r.1.isClient = h.isClient
  streams : r.1.streams = h.streams
  level : ConnectionLevel r.2
  only : ∀ outcome, r.2 = .ok outcome → ControlOnly outcome.1 ∧ SendsOnly outcome.2

theorem Controls.failed {h h' : H3 Q} {e : WebTransportError} (hclient : h'.isClient = h.isClient)
    (hstreams : h'.streams = h.streams) (hlevel : e.ConnectionWide) : Controls h (h', .error e) :=
  ⟨hclient, hstreams, hlevel, fun _ hok => nomatch hok⟩

theorem Controls.quiet (hclient : h'.isClient = h.isClient) (hstreams : h'.streams = h.streams) :
    Controls h (h', .ok ([], [])) := by
  refine ⟨hclient, hstreams, trivial, fun outcome hok => ?_⟩
  cases hok
  exact ⟨(fun _ hmem => nomatch hmem), fun _ hmem => nomatch hmem⟩

theorem Controls.trans {outcome : Outcome} (hstep : Controls h (h', .ok outcome))
    (hrest : Controls h' r) :
    Controls h (r.1, r.2.map fun rest => (outcome.1 ++ rest.1, outcome.2 ++ rest.2)) := by
  refine ⟨hrest.isClient.trans hstep.isClient, hrest.streams.trans hstep.streams,
    hrest.level.map _, fun whole hok => ?_⟩
  obtain ⟨h'', result⟩ := r
  cases result with
  | error e => cases hok
  | ok rest =>
    cases hok
    obtain ⟨honly, hsends⟩ := hstep.only outcome rfl
    obtain ⟨honly', hsends'⟩ := hrest.only rest rfl
    refine ⟨fun event hevent => ?_, hsends.append hsends'⟩
    rcases List.mem_append.mp hevent with hmem | hmem
    · exact honly event hmem
    · exact honly' event hmem

/-- What one frame of a control stream can come to. -/
inductive ControlFrame (h : H3 Q) : H3 Q × Except WebTransportError Outcome → Prop where
  | failed (encoder : Q.Encoder) {e : WebTransportError} (wide : e.ConnectionWide) :
      ControlFrame h ({ h with encoder := encoder }, .error e)
  | settings (encoder : Q.Encoder) (settings : H3Settings) (instructions : Bytes)
      (first : h.settingsReceived = false) :
      ControlFrame h ({ h with encoder := encoder, settingsReceived := true },
        .ok ([.h3SettingsReceived settings],
          sendInstructions h.localEncoderStreamId instructions))
  | goaway (known : h.settingsReceived = true) :
      ControlFrame h (h, .ok ([.h3GoawayReceived], []))
  | maxPushId (limit : Nat) (grows : ∀ old, h.peerMaxPushId = some old → old ≤ limit) :
      ControlFrame h ({ h with peerMaxPushId := some limit }, .ok ([], []))
  | ignored : ControlFrame h (h, .ok ([], []))

theorem handleSettingsFrame_frame (h : H3 Q) {frameData : Bytes} :
    ControlFrame h (h.handleSettingsFrame frameData connection) := by
  unfold handleSettingsFrame
  split
  · exact .failed h.encoder trivial
  · rename_i hfirst
    have hlevel : ConnectionLevel ((parseSettings frameData).bind fun settings =>
        (validateSettings settings connection).map fun _ => settings) :=
      (connectionLevel_parseSettingsLoop _ _ _).bind fun settings =>
        connectionLevel_validateSettings.map _
    generalize ((parseSettings frameData).bind fun settings =>
      (validateSettings settings connection).map fun _ => settings) = parsed at hlevel
    cases parsed with
    | error e => exact .failed h.encoder hlevel
    | ok settings =>
      simp only
      split
      · exact .failed _ trivial
      · exact .settings _ _ _ (by simpa using hfirst)

theorem handleMaxPushIdFrame_frame (h : H3 Q) {frameData : Bytes} :
    ControlFrame h (h.handleMaxPushIdFrame frameData) := by
  unfold handleMaxPushIdFrame
  split
  · exact .failed h.encoder trivial
  · have hlevel := connectionLevel_parsePushId frameData
    generalize parsePushId frameData = parsed at hlevel
    cases parsed with
    | error e => exact .failed h.encoder hlevel
    | ok limit =>
      simp only
      split
      · exact .failed h.encoder trivial
      · rename_i hgrows
        refine .maxPushId limit fun old hold => ?_
        rw [hold] at hgrows
        simpa using hgrows

theorem handleControlFrame_frame (h : H3 Q) (frameType : Nat) (frameData : Bytes)
    (connection : Connection) :
    ControlFrame h (h.handleControlFrame frameType frameData connection) := by
  unfold handleControlFrame
  split_ifs with hmissing hcancel hforbidden hgoaway
  · exact .failed h.encoder trivial
  · have hlevel := connectionLevel_parsePushId frameData
    generalize parsePushId frameData = parsed at hlevel
    cases parsed with
    | error e => exact .failed h.encoder hlevel
    | ok pushId => exact .failed h.encoder trivial
  · exact .failed h.encoder trivial
  · -- before SETTINGS, GOAWAY is an error
    refine .goaway ?_
    by_contra hunset
    exact hmissing ⟨by rw [hgoaway]; decide, by simpa using hunset⟩
  · exact h.handleMaxPushIdFrame_frame
  · exact h.handleSettingsFrame_frame
  · exact .failed h.encoder trivial
  · exact .ignored

/-- The frames of a control stream that are there whole, one after the
other. -/
inductive ControlFrames : H3 Q → H3 Q × Except WebTransportError Outcome → Prop where
  | none (h : H3 Q) : ControlFrames h (h, .ok ([], []))
  | failed {h : H3 Q} (encoder : Q.Encoder) {e : WebTransportError} (wide : e.ConnectionWide) :
      ControlFrames h ({ h with encoder := encoder }, .error e)
  | cons {h h' : H3 Q} {outcome : Outcome} {r : H3 Q × Except WebTransportError Outcome}
      (frame : ControlFrame h (h', .ok outcome)) (rest : ControlFrames h' r) :
      ControlFrames h (r.1, r.2.map fun rest => (outcome.1 ++ rest.1, outcome.2 ++ rest.2))

theorem parseControlFrames_frames (connection : Connection) :
    ∀ (fuel : Nat) (h : H3 Q) (buffer : Bytes),
      ControlFrames h ((parseControlFrames connection fuel h buffer).1,
        (parseControlFrames connection fuel h buffer).2.map Prod.snd) := by
  intro fuel
  induction fuel with
  | zero =>
    intro h buffer
    exact .none h
  | succ fuel ih =>
    intro h buffer
    unfold parseControlFrames
    cases readFrameHeader buffer with
    | none => exact .none h
    | some header =>
      obtain ⟨frameType, frameSize, payload⟩ := header
      simp only
      split
      · exact .failed h.encoder trivial
      split
      · exact .failed h.encoder trivial
      split
      · exact .none h
      have hframe := h.handleControlFrame_frame frameType (payload.take frameSize) connection
      generalize h.handleControlFrame frameType (payload.take frameSize) connection = handled
        at hframe
      obtain ⟨h', result⟩ := handled
      cases result with
      | error e =>
        cases hframe with
        | failed encoder wide => exact .failed encoder wide
      | ok outcome =>
        have hall := ControlFrames.cons hframe (ih h' (payload.drop frameSize))
        simp only
        cases hrest : (parseControlFrames connection fuel h' (payload.drop frameSize)).2 with
        | error e | ok rest =>
          rw [hrest] at hall
          exact hall

theorem ControlFrame.controls (hframe : ControlFrame h r) : Controls h r := by
  cases hframe with
  | failed encoder wide => exact Controls.failed rfl rfl wide
  | settings encoder settings =>
    refine ⟨rfl, rfl, trivial, fun outcome hok => ?_⟩
    cases hok
    refine ⟨fun event hevent => ?_, sendsOnly_sendInstructions _ _⟩
    exact Or.inr ⟨settings, List.mem_singleton.mp hevent⟩
  | goaway =>
    refine ⟨rfl, rfl, trivial, fun outcome hok => ?_⟩
    cases hok
    exact ⟨fun event hevent => Or.inl (List.mem_singleton.mp hevent), fun _ hmem => nomatch hmem⟩
  | maxPushId | ignored => exact Controls.quiet rfl rfl

theorem ControlFrames.controls (hframes : ControlFrames h r) : Controls h r := by
  induction hframes with
  | none h => exact Controls.quiet rfl rfl
  | failed encoder wide => exact Controls.failed rfl rfl wide
  | cons frame _ ih => exact frame.controls.trans ih

/-- The same for handlers that also return the bytes they leave. -/
def ControlsWith (h : H3 Q) (r : H3 Q × Except WebTransportError (Bytes × Outcome)) : Prop :=
  Controls h (r.1, r.2.map Prod.snd)

/-- The types of the streams that carry HTTP/3 itself. -/
def IsInfrastructure (streamType : Nat) : Prop :=
  streamType = h3StreamTypeControl ∨ streamType = h3StreamTypeQpackDecoder ∨
    streamType = h3StreamTypeQpackEncoder

/-- What the bytes of a stream that is not a session's can come to. -/
inductive Infrastructure (h : H3 Q) (stream : H3Stream) (streamType : Nat)
    (connection : Connection) : H3 Q × Except WebTransportError (Bytes × Outcome) → Prop where
  | critical (type : streamType = h3StreamTypeControl) (ended : stream.ended = true) :
      Infrastructure h stream streamType connection (h, .error closedCriticalStream)
  | frames (type : streamType = h3StreamTypeControl) (running : stream.ended = false) :
      Infrastructure h stream streamType connection
        (parseControlFrames connection stream.buffer.length h stream.buffer)
  | codec (encoder : Q.Encoder) (decoder : Q.Decoder) (type : streamType ≠ h3StreamTypeControl)
      (infrastructure : IsInfrastructure streamType) :
      Infrastructure h stream streamType connection
        ({ h with encoder := encoder, decoder := decoder }, .ok ([], [], []))
  | codecFailed (encoder : Q.Encoder) (decoder : Q.Decoder) {e : WebTransportError}
      (wide : e.ConnectionWide) (type : streamType ≠ h3StreamTypeControl)
      (infrastructure : IsInfrastructure streamType) :
      Infrastructure h stream streamType connection
        ({ h with encoder := encoder, decoder := decoder }, .error e)
  | other (stranger : ¬IsInfrastructure streamType) :
      Infrastructure h stream streamType connection (h, .ok (stream.buffer, [], []))

theorem recvInfrastructureData_cases (hQ : Q.NonBlocking) {stream : H3Stream}
    {r : H3 Q × Except WebTransportError (Bytes × Outcome)}
    (hr : h.recvInfrastructureData stream streamType connection = some r) :
    Infrastructure h stream streamType connection r := by
  unfold recvInfrastructureData at hr
  split at hr
  · rename_i hcontrol
    split at hr
    · rename_i hended
      cases hr
      exact .critical hcontrol hended
    · rename_i hopen
      cases hr
      exact .frames hcontrol (by simpa using hopen)
  rename_i hcontrol
  split at hr
  · rename_i hdecoder
    have hinfra : IsInfrastructure streamType := Or.inr (Or.inl hdecoder)
    split at hr
    · cases hr
      exact .codec h.encoder h.decoder hcontrol hinfra
    · cases hr
      cases (Q.feedDecoder h.encoder stream.buffer).2 with
      | error e => exact .codecFailed _ h.decoder trivial hcontrol hinfra
      | ok fed => exact .codec _ h.decoder hcontrol hinfra
  rename_i hdecoder
  split at hr
  · rename_i hencoder
    have hinfra : IsInfrastructure streamType := Or.inr (Or.inr hencoder)
    split at hr
    · cases hr
      exact .codec h.encoder h.decoder hcontrol hinfra
    · simp only at hr
      cases hfed : (Q.feedEncoder h.decoder stream.buffer).2 with
      | error e =>
        simp only [hfed] at hr
        cases hr
        exact .codecFailed h.encoder _ trivial hcontrol hinfra
      | ok unblocked =>
        -- nothing was blocked, so nothing is released
        have hnone := hQ.feed_unblocks_none h.decoder stream.buffer unblocked hfed
        subst hnone
        simp only [hfed, resumeUnblocked] at hr
        cases hr
        exact .codec h.encoder _ hcontrol hinfra
  · rename_i hencoder
    cases hr
    exact .other fun hinfra => hinfra.elim hcontrol fun h => h.elim hdecoder hencoder

/-- A control stream or a QPACK stream leaves the table alone. -/
theorem Infrastructure.controls {stream : H3Stream}
    {r : H3 Q × Except WebTransportError (Bytes × Outcome)}
    (hr : Infrastructure h stream streamType connection r) : ControlsWith h r := by
  cases hr with
  | critical => exact Controls.failed rfl rfl trivial
  | frames => exact (parseControlFrames_frames connection _ h stream.buffer).controls
  | codec => exact Controls.quiet rfl rfl
  | codecFailed _ _ wide => exact Controls.failed rfl rfl wide
  | other => exact Controls.quiet rfl rfl

/-! ## Unidirectional streams -/

theorem registerPeerInfrastructureStream_shape
    (hr : h.registerPeerInfrastructureStream streamId streamType = .ok h') :
    h'.isClient = h.isClient ∧ h'.streams = h.streams := by
  unfold registerPeerInfrastructureStream at hr
  simp only at hr
  split_ifs at hr <;> cases hr <;> exact ⟨rfl, rfl⟩

theorem connectionLevel_register (h : H3 Q) (streamId : StreamId) (streamType : Nat) :
    ConnectionLevel (h.registerPeerInfrastructureStream streamId streamType) := by
  unfold registerPeerInfrastructureStream
  simp only
  split_ifs <;> trivial

/-- The stream has a type already, or its first bytes give it one. -/
inductive Typed (h : H3 Q) (streamId : StreamId) (fed : H3Stream) : H3 Q → H3Stream → Nat → Prop
  | already {streamType : Nat} (type : fed.streamType = some streamType) :
      Typed h streamId fed h fed streamType
  | session (untyped : fed.streamType = none) :
      Typed h streamId fed h
        { fed with buffer := [], streamType := some h3StreamTypeWebtransport }
        h3StreamTypeWebtransport
  | registered {joined : H3 Q} {streamType : Nat} (untyped : fed.streamType = none)
      (infrastructure : IsInfrastructure streamType)
      (registers : h.registerPeerInfrastructureStream streamId streamType = .ok joined) :
      Typed h streamId fed joined { fed with buffer := [], streamType := some streamType }
        streamType

/-- What the type at the front of a stream leads to. -/
inductive Identified (h : H3 Q) (streamId : StreamId) (fed : H3Stream) : UniKind Q → Prop where
  | incomplete (untyped : fed.streamType = none) (short : fed.buffer.length < 8) :
      Identified h streamId fed .incomplete
  | failed {e : WebTransportError} (untyped : fed.streamType = none) (wide : e.ConnectionWide) :
      Identified h streamId fed (.failed e)
  | unknown (untyped : fed.streamType = none) : Identified h streamId fed .unknown
  | known {joined : H3 Q} {stream : H3Stream} {streamType : Nat}
      (typed : Typed h streamId fed joined stream streamType) :
      Identified h streamId fed (.known joined stream streamType)

theorem identifyUnidirectional_cases (h : H3 Q) (streamId : StreamId) (fed : H3Stream) :
    Identified h streamId fed (h.identifyUnidirectional streamId fed) := by
  unfold identifyUnidirectional
  cases htype : fed.streamType with
  | some streamType => exact .known (.already htype)
  | none =>
    cases hread : readVarint fed.buffer with
    | error e => exact .incomplete htype (length_of_readVarint_error hread)
    | ok header =>
      simp only
      split
      · rename_i hinfra
        have hlevel := h.connectionLevel_register streamId header.1
        cases hregister : h.registerPeerInfrastructureStream streamId header.1 with
        | error e =>
          rw [hregister] at hlevel
          exact .failed htype hlevel
        | ok joined => exact .known (.registered htype hinfra hregister)
      split
      · exact .failed htype trivial
      split
      · rename_i hsession
        rw [hsession]
        exact .known (.session htype)
      · exact .unknown htype

/-- Giving a stream its type changes nothing else. -/
theorem Typed.same {joined : H3 Q} {fed stream : H3Stream}
    (htyped : Typed h streamId fed joined stream streamType) :
    joined.isClient = h.isClient ∧ joined.streams = h.streams ∧
      stream.streamType = some streamType ∧ stream.ended = fed.ended ∧
      stream.blocked = fed.blocked ∧ stream.isRequestStream = fed.isRequestStream := by
  cases htyped with
  | already type => exact ⟨rfl, rfl, type, rfl, rfl, rfl⟩
  | session => exact ⟨rfl, rfl, rfl, rfl, rfl, rfl⟩
  | registered _ _ registers =>
    obtain ⟨hclient, hstreams⟩ := registerPeerInfrastructureStream_shape registers
    exact ⟨hclient, hstreams, rfl, rfl, rfl, rfl⟩

/-- What a chunk of a unidirectional stream can come to, once the stream is
out of the table. -/
inductive UniCase (h : H3 Q) (streamId : StreamId) (fed : H3Stream) (connection : Connection) :
    H3 Q × Except WebTransportError Outcome → Prop where
  | waits (untyped : fed.streamType = none) (short : fed.buffer.length < 8) :
      UniCase h streamId fed connection
        ((h.awaitHeader streamId fed).1, .ok (h.awaitHeader streamId fed).2)
  | refused {e : WebTransportError} (untyped : fed.streamType = none) (wide : e.ConnectionWide) :
      UniCase h streamId fed connection (h, .error e)
  | stopped (untyped : fed.streamType = none) :
      UniCase h streamId fed connection
        (h, .ok ([], [.stopQuicStream streamId errH3StreamCreationError]))
  | header {joined : H3 Q} {stream : H3Stream}
      (typed : Typed h streamId fed joined stream h3StreamTypeWebtransport) :
      UniCase h streamId fed connection (joined.parseStreamHeader streamId stream)
  | failed {joined h' : H3 Q} {stream : H3Stream} {streamType : Nat} {e : WebTransportError}
      (typed : Typed h streamId fed joined stream streamType)
      (read : Infrastructure joined stream streamType connection (h', .error e)) :
      UniCase h streamId fed connection (h', .error e)
  | ended {joined h' : H3 Q} {stream : H3Stream} {streamType : Nat} {kept : Bytes × Outcome}
      (typed : Typed h streamId fed joined stream streamType)
      (read : Infrastructure joined stream streamType connection (h', .ok kept)) :
      UniCase h streamId fed connection (h', .error closedCriticalStream)
  | kept {joined h' : H3 Q} {stream : H3Stream} {streamType : Nat} {kept : Bytes × Outcome}
      (typed : Typed h streamId fed joined stream streamType)
      (other : streamType ≠ h3StreamTypeWebtransport) (running : stream.ended = false)
      (read : Infrastructure joined stream streamType connection (h', .ok kept)) :
      UniCase h streamId fed connection
        ({ h' with streams := h'.streams.insert streamId { stream with buffer := kept.1 } },
          .ok (kept.2.1, kept.2.2 ++ [.receiveQuicData streamId u64Max]))

theorem recvUnidirectionalStreamData_cases (hQ : Q.NonBlocking) {data : Bytes} {streamEnded : Bool}
    (hr : h.recvUnidirectionalStreamData streamId data streamEnded connection = some r) :
    UniCase { h with streams := h.streams.erase streamId } streamId
      (h.feedStream streamId data streamEnded) connection r := by
  unfold recvUnidirectionalStreamData at hr
  generalize h.feedStream streamId data streamEnded = fed at hr
  generalize ({ h with streams := h.streams.erase streamId } : H3 Q) = without at hr
  have hidentified := without.identifyUnidirectional_cases streamId fed
  simp only at hr
  generalize without.identifyUnidirectional streamId fed = kind at hidentified hr
  cases hidentified with
  | incomplete untyped short =>
    cases hr
    exact .waits untyped short
  | failed untyped wide =>
    cases hr
    exact .refused untyped wide
  | unknown untyped =>
    cases hr
    exact .stopped untyped
  | known typed =>
    simp only at hr
    split at hr
    · rename_i hsession
      subst hsession
      cases hr
      exact .header typed
    · rename_i hother
      obtain ⟨⟨h', result⟩, hreceived, rfl⟩ := Option.map_eq_some_iff.mp hr
      have hread := recvInfrastructureData_cases hQ hreceived
      cases result with
      | error e => exact .failed typed hread
      | ok kept =>
        simp only
        split
        · exact .ended typed hread
        · rename_i hrunning
          exact .kept typed hother (by simpa using hrunning) hread

theorem recvUnidirectionalStreamData_received (hQ : Q.NonBlocking) (hwf : h.TableWF)
    (huni : isUnidirectionalStream streamId = true) {data : Bytes} {streamEnded : Bool}
    (hr : h.recvUnidirectionalStreamData streamId data streamEnded connection = some r) :
    ReceivedBy h streamId (h.feedStream streamId data streamEnded) r := by
  have hproper := hwf.feedStream streamId data streamEnded
  have hcases := recvUnidirectionalStreamData_cases hQ hr
  refine ReceivedBy.of_erased ?_
  have hgone : ({ h with streams := h.streams.erase streamId } : H3 Q).streams.get? streamId =
      none := OrderedMap.get?_erase_self h.streams streamId
  have hclient : ({ h with streams := h.streams.erase streamId } : H3 Q).isClient = h.isClient :=
    rfl
  rw [← hclient] at hproper
  generalize h.feedStream streamId data streamEnded = fed at hproper hcases ⊢
  generalize ({ h with streams := h.streams.erase streamId } : H3 Q) = without
    at hgone hproper hcases ⊢
  have hrequest : fed.isRequestStream = false := by
    by_contra hrequest
    have hbidi := (hproper.request (by simpa using hrequest)).2.1
    rw [huni] at hbidi
    cases hbidi
  have hplain : ∀ stream : H3Stream, stream.blocked = fed.blocked →
      stream.isRequestStream = fed.isRequestStream →
      stream.Proper without.isClient streamId := by
    intro stream hblocked hsame
    refine H3Stream.Proper.of_not_request (hblocked.trans hproper.notBlocked) (fun hbidi => ?_)
      (hsame.trans hrequest)
    rw [huni] at hbidi
    cases hbidi
  -- what the streams of the layer itself read leaves the table alone
  have hread : ∀ {joined h' : H3 Q} {stream : H3Stream} {streamType : Nat}
      {result : Except WebTransportError (Bytes × Outcome)},
      Typed without streamId fed joined stream streamType →
      Infrastructure joined stream streamType connection (h', result) →
      Touches streamId without h' ∧ h'.streams.get? streamId = none := by
    intro joined h' stream streamType result htyped hread
    obtain ⟨hclient, hstreams, -⟩ := htyped.same
    have hcontrols := hread.controls
    have hstreams : h'.streams = without.streams := hcontrols.streams.trans hstreams
    exact ⟨.of_streams (hcontrols.isClient.trans hclient) hstreams, by rw [hstreams, hgone]⟩
  cases hcases with
  | waits => exact without.awaitHeader_received hrequest hproper hrequest
  | refused _ wide => exact .failed (.refl streamId without) hgone (wide.names streamId)
  | stopped =>
    refine ⟨Touches.refl streamId without, ?_⟩
    rw [hgone]
    refine Received.dropped hrequest _ fun effect heffect => Or.inr ?_
    exact ⟨errH3StreamCreationError, List.mem_singleton.mp heffect⟩
  | @header joined stream typed =>
    obtain ⟨hclient, hstreams, -, -, hblocked, hsame⟩ := typed.same
    have hproper' := hplain stream hblocked hsame
    rw [← hclient] at hproper'
    have hheader := joined.parseStreamHeader_received (by rw [hstreams, hgone]) hrequest
      hproper' (hsame.trans hrequest)
    exact ⟨(Touches.of_streams hclient hstreams).trans hheader.1, hclient ▸ hheader.2⟩
  | failed typed read =>
    obtain ⟨htouches, hgone'⟩ := hread typed read
    have hwide : WebTransportError.ConnectionWide _ := read.controls.level
    exact .failed htouches hgone' (hwide.names streamId)
  | ended typed read =>
    obtain ⟨htouches, hgone'⟩ := hread typed read
    exact .failed htouches hgone' trivial
  | @kept joined h' stream streamType kept typed _ _ read =>
    obtain ⟨htouches, -⟩ := hread typed read
    obtain ⟨-, -, -, -, hblocked, hsame⟩ := typed.same
    obtain ⟨honly, hsends⟩ := read.controls.only kept.2 rfl
    refine ⟨htouches.trans (touches_insert rfl rfl), ?_⟩
    rw [OrderedMap.get?_insert_self]
    exact Received.control huni { stream with buffer := kept.1 } (hplain _ hblocked hsame)
      (hsame.trans hrequest) _ honly _ hsends

/-! ## A chunk as HTTP/3 sees it -/

/-- A failed chunk leaves the stream out of the table, and raises nothing. -/
theorem failTransportEvent_gone {e : WebTransportError} (hnames : e.NamesOnly streamId)
    (hgone : h.streams.get? streamId = none) :
    Touches streamId h (h.failTransportEvent e).1 ∧
      (h.failTransportEvent e).1.streams.get? streamId = none ∧
      (h.failTransportEvent e).2.1 = [] := by
  cases e with
  | stream id errorCode reason =>
    cases hnames
    exact ⟨h.cleanupStream_touches, cleanupStream_get?_self h, rfl⟩
  | configuration errorCode reason | protocol errorCode reason | unknown errorCode reason =>
    exact ⟨Touches.refl streamId h, hgone, rfl⟩

/-- The bytes of any stream. -/
theorem transportResult_data_received (hQ : Q.NonBlocking) (hwf : h.TableWF) {data : Bytes}
    {endStream : Bool}
    (hr : h.transportResult (.transportStreamDataReceived streamId data endStream) connection =
      some r) : ReceivedBy h streamId (h.feedStream streamId data endStream) r := by
  unfold transportResult at hr
  simp only at hr
  split at hr
  · rename_i huni
    exact recvUnidirectionalStreamData_received hQ hwf huni hr
  · rename_i hbidi
    exact recvRequestData_received hQ hwf (by simpa using hbidi) hr

end H3

end PyWebTransport

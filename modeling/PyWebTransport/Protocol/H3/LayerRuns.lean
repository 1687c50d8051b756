/-
PyWebTransport.Protocol.H3.LayerRuns — the HTTP/3 layer over time.

A run of the layer is a sequence of transport events, handled one call at a
time, with anything the engine does to the layer in between (`Aside`): bind
a CONNECT stream or the local streams, encode headers, give up a
bidirectional stream. The calls are recorded with the layer before and
after them, so a property of a run can speak of every call.

The table stays well formed along a run (`LayerRun.tableWF`). The state the
peer's control streams build up (`SamePlane`) is out of reach of everything
but the bytes of unidirectional streams.
-/
import PyWebTransport.Protocol.H3.ControlStream

namespace PyWebTransport

open PyWebTransport.Lib

namespace H3

variable {Q : Qpack} {h h' h'' : H3 Q} {streamId : StreamId} {connection : Connection}
  {event : ProtocolEvent} {r : H3 Q × Except WebTransportError Outcome} {data : Bytes}
  {outcome : Outcome} {endStream isClient : Bool} {parameters : H3Parameters}

variable {controlStreamId encoderStreamId decoderStreamId : StreamId}

variable {stream : H3Stream}

/-- One call of `handle_transport_event`. -/
structure Call (Q : Qpack) where
  event : ProtocolEvent
  connection : Connection
  before : H3 Q
  after : H3 Q
  outcome : Outcome

/-- What the engine does to the layer between transport events. -/
inductive Aside : H3 Q → H3 Q → Prop where
  | boundConnectStream (h : H3 Q) {streamId : StreamId}
      (bidirectional : isUnidirectionalStream streamId = false) :
      Aside h (h.bindConnectStream streamId).1
  | boundLocalStreams (h : H3 Q) (controlStreamId encoderStreamId decoderStreamId : StreamId) :
      Aside h (h.bindLocalStreams controlStreamId encoderStreamId decoderStreamId).1
  | encodedHeaders (h : H3 Q) (streamId : StreamId) (headers : Headers) (endStream : Bool) :
      Aside h (h.encodeHeaders streamId headers endStream).1
  | cleanedUp (h : H3 Q) {streamId : StreamId}
      (bidirectional : isUnidirectionalStream streamId = false) :
      Aside h (h.cleanupStream streamId).1
  | stopped (h : H3 Q) {streamId : StreamId}
      (bidirectional : isUnidirectionalStream streamId = false) :
      Aside h (h.stopRequestStream streamId).1

/-- A run of the layer from its creation. -/
inductive LayerRun ( isClient : Bool) (parameters : H3Parameters) :
    List (Call Q) → H3 Q → Prop where
  | new : LayerRun isClient parameters [] (H3.new isClient parameters)
  | aside {calls : List (Call Q)} {h h' : H3 Q} (run : LayerRun isClient parameters calls h)
      (step : Aside h h') : LayerRun isClient parameters calls h'
  | call {calls : List (Call Q)} {h h' : H3 Q} {event : ProtocolEvent} {connection : Connection}
      {outcome : Outcome} (run : LayerRun isClient parameters calls h)
      (handled : h.handleTransportEvent event connection = some (h', outcome)) :
      LayerRun isClient parameters (calls ++ [⟨event, connection, h, h', outcome⟩]) h'

/-! ## The state of the peer's control streams -/

/-- What the peer's control and QPACK streams have built up is unchanged. -/
structure SamePlane (h h' : H3 Q) : Prop where
  control : h'.peerControlStreamId = h.peerControlStreamId
  decoder : h'.peerDecoderStreamId = h.peerDecoderStreamId
  encoder : h'.peerEncoderStreamId = h.peerEncoderStreamId
  maxPushId : h'.peerMaxPushId = h.peerMaxPushId
  settings : h'.settingsReceived = h.settingsReceived

theorem SamePlane.refl (h : H3 Q) : SamePlane h h := ⟨rfl, rfl, rfl, rfl, rfl⟩

theorem SamePlane.trans (h₁ : SamePlane h h') (h₂ : SamePlane h' h'') : SamePlane h h'' :=
  ⟨h₂.control.trans h₁.control, h₂.decoder.trans h₁.decoder, h₂.encoder.trans h₁.encoder,
    h₂.maxPushId.trans h₁.maxPushId, h₂.settings.trans h₁.settings⟩

/-- The sizes the layer was created with. -/
structure SameLimits (h h' : H3 Q) : Prop where
  capsule : h'.maxCapsuleSize = h.maxCapsuleSize
  fieldSection : h'.maxFieldSectionSize = h.maxFieldSectionSize

theorem SameLimits.refl (h : H3 Q) : SameLimits h h := ⟨rfl, rfl⟩

theorem SameLimits.trans (h₁ : SameLimits h h') (h₂ : SameLimits h' h'') : SameLimits h h'' :=
  ⟨h₂.capsule.trans h₁.capsule, h₂.fieldSection.trans h₁.fieldSection⟩

/-! ## Between transport events -/

/-- A stream the engine has just bound, without a byte. -/
def connectStream : H3Stream := { isConnectStream := true, isRequestStream := true }

theorem connectStream_proper (hbidi : isUnidirectionalStream streamId = false) :
    connectStream.Proper isClient streamId :=
  ⟨rfl, fun _ => Or.inl rfl, fun _ => ⟨rfl, hbidi, fun _ => rfl⟩⟩

/-- What an aside can do. -/
structure AsideShape (h h' : H3 Q) : Prop where
  isClient : h'.isClient = h.isClient
  plane : SamePlane h h'
  limits : SameLimits h h'
  entries : ∀ id, h'.streams.get? id = h.streams.get? id ∨
    isUnidirectionalStream id = false ∧
      (h'.streams.get? id = none ∨ h'.streams.get? id = some connectStream)

theorem AsideShape.of_streams (hclient : h'.isClient = h.isClient) (hplane : SamePlane h h')
    (hlimits : SameLimits h h') (hstreams : h'.streams = h.streams) : AsideShape h h' :=
  ⟨hclient, hplane, hlimits, fun id => Or.inl (by rw [hstreams])⟩

theorem setLocalStreamIds_shape
    (hset : h.setLocalStreamIds controlStreamId encoderStreamId decoderStreamId = .ok h') :
    AsideShape h h' := by
  unfold setLocalStreamIds at hset
  split_ifs at hset
  cases hset
  exact AsideShape.of_streams rfl ⟨rfl, rfl, rfl, rfl, rfl⟩ ⟨rfl, rfl⟩ rfl

theorem bindLocalStreams_shape (h : H3 Q) :
    AsideShape h (h.bindLocalStreams controlStreamId encoderStreamId decoderStreamId).1 := by
  have hsame : AsideShape h h :=
    AsideShape.of_streams rfl (SamePlane.refl h) (SameLimits.refl h) rfl
  unfold bindLocalStreams
  split
  · exact hsame
  · split
    · exact hsame
    · rename_i hset
      split
      · exact setLocalStreamIds_shape hset
      · exact setLocalStreamIds_shape hset

theorem cleanupStream_shape (h : H3 Q) (hbidi : isUnidirectionalStream streamId = false) :
    AsideShape h (h.cleanupStream streamId).1 := by
  refine ⟨rfl, ⟨rfl, rfl, rfl, rfl, rfl⟩, ⟨rfl, rfl⟩, fun id => ?_⟩
  by_cases hid : streamId = id
  · subst hid
    exact Or.inr ⟨hbidi, Or.inl (OrderedMap.get?_erase_self _ _)⟩
  · exact Or.inl (OrderedMap.get?_erase_of_ne _ hid)

theorem Aside.shape (step : Aside h h') : AsideShape h h' := by
  cases step with
  | @boundConnectStream streamId hbidi =>
    refine ⟨rfl, ⟨rfl, rfl, rfl, rfl, rfl⟩, ⟨rfl, rfl⟩, fun id => ?_⟩
    by_cases hid : streamId = id
    · subst hid
      exact Or.inr ⟨hbidi, Or.inr (OrderedMap.get?_insert_self _ _ _)⟩
    · exact Or.inl (OrderedMap.get?_insert_of_ne _ _ hid)
  | boundLocalStreams => exact h.bindLocalStreams_shape
  | encodedHeaders =>
    exact AsideShape.of_streams rfl ⟨rfl, rfl, rfl, rfl, rfl⟩ ⟨rfl, rfl⟩ rfl
  | cleanedUp hbidi => exact h.cleanupStream_shape hbidi
  | stopped hbidi =>
    unfold stopRequestStream
    split
    · exact AsideShape.of_streams rfl (SamePlane.refl h) (SameLimits.refl h) rfl
    · exact h.cleanupStream_shape hbidi

/-- Of the streams of the peer's control plane, an aside sees nothing. -/
theorem AsideShape.unidirectional (hshape : AsideShape h h') {id : StreamId}
    (huni : isUnidirectionalStream id = true) : h'.streams.get? id = h.streams.get? id := by
  rcases hshape.entries id with hsame | ⟨hbidi, -⟩
  · exact hsame
  · rw [huni] at hbidi
    cases hbidi

theorem AsideShape.tableWF (hshape : AsideShape h h') (hwf : h.TableWF) : h'.TableWF := by
  intro id stream hget
  rw [hshape.isClient]
  rcases hshape.entries id with hsame | ⟨hbidi, hnone | hbound⟩
  · rw [hsame] at hget
    exact hwf id stream hget
  · rw [hnone] at hget
    cases hget
  · rw [hbound] at hget
    cases hget
    exact connectStream_proper hbidi

/-! ## Bytes of unidirectional streams -/

/-- Only the codec, the settings flag and the push limit differ. -/
def Reaches (h h' : H3 Q) : Prop :=
  ∃ encoder decoder settingsReceived peerMaxPushId, h' = { h with
    encoder := encoder
    decoder := decoder
    settingsReceived := settingsReceived
    peerMaxPushId := peerMaxPushId }

theorem Reaches.refl (h : H3 Q) : Reaches h h := ⟨_, _, _, _, rfl⟩

theorem Reaches.trans (h₁ : Reaches h h') (h₂ : Reaches h' h'') : Reaches h h'' := by
  obtain ⟨_, _, _, _, rfl⟩ := h₁
  obtain ⟨_, _, _, _, rfl⟩ := h₂
  exact ⟨_, _, _, _, rfl⟩

theorem Reaches.limits (hr : Reaches h h') : SameLimits h h' := by
  obtain ⟨_, _, _, _, rfl⟩ := hr
  exact ⟨rfl, rfl⟩

theorem ControlFrames.reaches (hframes : ControlFrames h r) : Reaches h r.1 := by
  induction hframes with
  | none h => exact Reaches.refl h
  | failed => exact ⟨_, _, _, _, rfl⟩
  | cons frame _ ih =>
    refine Reaches.trans ?_ ih
    cases frame <;> exact ⟨_, _, _, _, rfl⟩

theorem Infrastructure.reaches {streamType : Nat}
    {r : H3 Q × Except WebTransportError (Bytes × Outcome)}
    (hr : Infrastructure h stream streamType connection r) : Reaches h r.1 := by
  cases hr with
  | critical => exact Reaches.refl h
  | frames => exact (parseControlFrames_frames connection _ h stream.buffer).reaches
  | codec | codecFailed => exact ⟨_, _, _, _, rfl⟩
  | other => exact Reaches.refl h

/-- What the layer keeps for the streams of a run is kept by a header. -/
theorem awaitHeader_keeps (h : H3 Q) :
    SamePlane h (h.awaitHeader streamId stream).1 ∧
      SameLimits h (h.awaitHeader streamId stream).1 := by
  unfold awaitHeader
  split
  · exact ⟨⟨rfl, rfl, rfl, rfl, rfl⟩, rfl, rfl⟩
  · exact ⟨⟨rfl, rfl, rfl, rfl, rfl⟩, rfl, rfl⟩

theorem parseStreamHeader_keeps (h : H3 Q) :
    SamePlane h (h.parseStreamHeader streamId stream).1 ∧
      SameLimits h (h.parseStreamHeader streamId stream).1 := by
  unfold parseStreamHeader
  split
  · exact h.awaitHeader_keeps
  · split
    · exact ⟨SamePlane.refl h, SameLimits.refl h⟩
    · exact ⟨SamePlane.refl h, SameLimits.refl h⟩

/-! ## Bytes of bidirectional streams -/

theorem recvRequestData_keeps (hQ : Q.NonBlocking) (hwf : h.TableWF) {streamEnded : Bool}
    (hr : h.recvRequestData streamId data streamEnded = some r) :
    SamePlane h r.1 ∧ SameLimits h r.1 := by
  have hblocked := (hwf.feedStream streamId data streamEnded).notBlocked
  unfold recvRequestData at hr
  generalize h.feedStream streamId data streamEnded = fed at hblocked hr
  have herased : SamePlane h { h with streams := h.streams.erase streamId } ∧
      SameLimits h { h with streams := h.streams.erase streamId } :=
    ⟨⟨rfl, rfl, rfl, rfl, rfl⟩, rfl, rfl⟩
  generalize ({ h with streams := h.streams.erase streamId } : H3 Q) = without at herased hr
  have hkeeps : SamePlane without r.1 ∧ SameLimits without r.1 := by
    simp only at hr
    split at hr
    · cases hr
      exact without.awaitHeader_keeps
    · cases hr
      exact without.parseStreamHeader_keeps
    · cases hr
      exact ⟨SamePlane.refl without, SameLimits.refl without⟩
    · rename_i stream hkind
      obtain ⟨parsed, hparsed, rfl⟩ := Option.map_eq_some_iff.mp hr
      have hsame : stream.blocked = fed.blocked := by
        unfold identifyRequest at hkind
        split at hkind
        · split at hkind
          · cases hkind
          · cases hkind
            rfl
        · split at hkind
          · cases hkind
          · split_ifs at hkind
            cases hkind
            rfl
      obtain ⟨⟨decoder, hlayer⟩, -⟩ := parseStreamData_parses hQ (hsame.trans hblocked) hparsed
      obtain ⟨h', result⟩ := parsed
      cases hlayer
      cases result with
      | error e => exact ⟨⟨rfl, rfl, rfl, rfl, rfl⟩, rfl, rfl⟩
      | ok p =>
        simp only [finishRequestData]
        split
        · exact ⟨⟨rfl, rfl, rfl, rfl, rfl⟩, rfl, rfl⟩
        · exact ⟨⟨rfl, rfl, rfl, rfl, rfl⟩, rfl, rfl⟩
  exact ⟨herased.1.trans hkeeps.1, herased.2.trans hkeeps.2⟩

/-! ## One call -/

/-- A call ends with its result, or gives up what the error is about. -/
theorem handleTransportEvent_cases
    (hr : h.handleTransportEvent event connection = some (h', outcome)) :
    h.transportResult event connection = some (h', .ok outcome) ∨
    ∃ failed e, h.transportResult event connection = some (failed, .error e) ∧
      failed.failTransportEvent e = (h', outcome) := by
  obtain ⟨⟨h'', result⟩, hresult, hhandled⟩ := Option.map_eq_some_iff.mp hr
  cases result with
  | ok outcome' =>
    cases hhandled
    exact Or.inl hresult
  | error e => exact Or.inr ⟨h'', e, hresult, hhandled⟩

theorem failTransportEvent_keeps (h : H3 Q) (e : WebTransportError) :
    SamePlane h (h.failTransportEvent e).1 ∧ SameLimits h (h.failTransportEvent e).1 := by
  cases e <;> exact ⟨⟨rfl, rfl, rfl, rfl, rfl⟩, rfl, rfl⟩

theorem transportResult_uni (h : H3 Q) (huni : isUnidirectionalStream streamId = true)
    (data : Bytes) (endStream : Bool) (connection : Connection) :
    h.transportResult (.transportStreamDataReceived streamId data endStream) connection =
      h.recvUnidirectionalStreamData streamId data endStream connection := by
  rw [transportResult, if_pos huni]

theorem transportResult_bidi (h : H3 Q) (hbidi : isUnidirectionalStream streamId = false)
    (data : Bytes) (endStream : Bool) (connection : Connection) :
    h.transportResult (.transportStreamDataReceived streamId data endStream) connection =
      h.recvRequestData streamId data endStream := by
  rw [transportResult, if_neg (by rw [hbidi]; exact Bool.false_ne_true)]

/-- What a failed chunk leaves is gone from the table, and raises nothing. -/
theorem data_call_failed (hQ : Q.NonBlocking) (hwf : h.TableWF) {failed : H3 Q}
    {e : WebTransportError}
    (herror : h.transportResult (.transportStreamDataReceived streamId data endStream)
      connection = some (failed, .error e)) (hfail : failed.failTransportEvent e = (h', outcome)) :
    Touches streamId h h' ∧ h'.streams.get? streamId = none ∧ outcome.1 = [] := by
  obtain ⟨htouches, hreceived⟩ := transportResult_data_received hQ hwf herror
  generalize hentry : failed.streams.get? streamId = entry at hreceived
  cases hreceived with
  | failed _ hnames =>
    obtain ⟨htouches', hgone, hsilent⟩ := failTransportEvent_gone hnames hentry
    rw [hfail] at htouches' hgone hsilent
    exact ⟨htouches.trans htouches', hgone, hsilent⟩

/-- What the bytes of a stream do to the table in a call. -/
theorem data_call_touches (hQ : Q.NonBlocking) (hwf : h.TableWF)
    (hr : h.handleTransportEvent (.transportStreamDataReceived streamId data endStream)
      connection = some (h', outcome)) :
    Touches streamId h h' ∧ ∀ stream, h'.streams.get? streamId = some stream →
      stream.Proper h.isClient streamId := by
  have hfed := hwf.feedStream streamId data endStream
  rcases handleTransportEvent_cases hr with hok | ⟨failed, e, herror, hfail⟩
  · obtain ⟨htouches, hreceived⟩ := transportResult_data_received hQ hwf hok
    refine ⟨htouches, fun stream hget => ?_⟩
    rw [hget] at hreceived
    exact hreceived.proper hfed
  · obtain ⟨htouches, hgone, -⟩ := data_call_failed hQ hwf herror hfail
    refine ⟨htouches, fun stream hget => ?_⟩
    rw [hgone] at hget
    cases hget

/-- What an event without bytes does to the table. -/
inductive TableChange (h h' : H3 Q) : ProtocolEvent → Prop where
  | same {event : ProtocolEvent} (streams : h'.streams = h.streams) : TableChange h h' event
  | opened {streamId : StreamId} (streams : h'.streams = h.streams.insert streamId {}) :
      TableChange h h' (.transportStreamOpened streamId)
  | forgotten {streamId : StreamId} {errorCode : ErrorCode}
      (unregistered : [h.peerControlStreamId, h.peerDecoderStreamId,
        h.peerEncoderStreamId].contains (some streamId) = false)
      (streams : h'.streams = h.streams.erase streamId) :
      TableChange h h' (.transportResetStreamReceived streamId errorCode)

structure OtherCall (h h' : H3 Q) (event : ProtocolEvent) : Prop where
  isClient : h'.isClient = h.isClient
  plane : SamePlane h h'
  limits : SameLimits h h'
  table : TableChange h h' event

theorem OtherCall.same (h : H3 Q) (event : ProtocolEvent) : OtherCall h h event :=
  ⟨rfl, SamePlane.refl h, SameLimits.refl h, .same rfl⟩

/-- Any event but bytes. -/
theorem other_call (hr : h.handleTransportEvent event connection = some (h', outcome))
    (hevent : ∀ streamId data endStream,
      event ≠ .transportStreamDataReceived streamId data endStream) : OtherCall h h' event := by
  -- an error that is not about a stream leaves the layer as it is
  have hstay : ∀ e : WebTransportError, e.ConnectionWide →
      h.failTransportEvent e = (h', outcome) → OtherCall h h' event := by
    intro e hwide hfail
    cases e with
    | stream => exact False.elim hwide
    | _ =>
      cases hfail
      exact OtherCall.same h event
  rcases handleTransportEvent_cases hr with hok | ⟨failed, e, herror, hfail⟩
  · cases event with
    | transportStreamDataReceived streamId data endStream =>
      exact absurd rfl (hevent streamId data endStream)
    | transportResetStreamReceived streamId errorCode =>
      simp only [transportResult, recvStreamReset, Option.some.injEq] at hok
      split at hok
      · cases hok
      · rename_i hnone
        cases hok
        exact ⟨rfl, ⟨rfl, rfl, rfl, rfl, rfl⟩, ⟨rfl, rfl⟩,
          .forgotten (Bool.eq_false_iff.mpr hnone) rfl⟩
    | transportStreamOpened streamId =>
      cases hok
      exact ⟨rfl, ⟨rfl, rfl, rfl, rfl, rfl⟩, ⟨rfl, rfl⟩, .opened rfl⟩
    | _ =>
      simp only [transportResult, Option.some.injEq, Prod.mk.injEq] at hok
      obtain ⟨rfl, -⟩ := hok
      exact OtherCall.same h _
  · cases event with
    | transportStreamDataReceived streamId data endStream =>
      exact absurd rfl (hevent streamId data endStream)
    | transportResetStreamReceived streamId errorCode =>
      simp only [transportResult, recvStreamReset, Option.some.injEq] at herror
      split at herror
      · cases herror
        exact hstay closedCriticalStream trivial hfail
      · cases herror
    | transportStreamOpened streamId => cases herror
    | transportDatagramReceived data =>
      simp only [transportResult, Option.some.injEq, Prod.mk.injEq] at herror
      obtain ⟨rfl, hdatagram⟩ := herror
      refine hstay e ?_ hfail
      unfold recvDatagram at hdatagram
      split at hdatagram
      · cases hdatagram
        trivial
      · simp only at hdatagram
        split at hdatagram
        · cases hdatagram
          trivial
        · cases hdatagram
    | transportStopSendingReceived streamId errorCode =>
      simp only [transportResult, Option.some.injEq, Prod.mk.injEq] at herror
      obtain ⟨rfl, hstop⟩ := herror
      refine hstay e ?_ hfail
      unfold recvStopSending at hstop
      split at hstop
      · cases hstop
        trivial
      · cases hstop
    | _ => cases herror

theorem handleTransportEvent_tableWF (hQ : Q.NonBlocking) (hwf : h.TableWF)
    (hr : h.handleTransportEvent event connection = some (h', outcome)) : h'.TableWF := by
  by_cases hdata : ∃ streamId data endStream,
      event = .transportStreamDataReceived streamId data endStream
  · obtain ⟨streamId, data, endStream, rfl⟩ := hdata
    obtain ⟨htouches, hproper⟩ := data_call_touches hQ hwf hr
    exact htouches.tableWF hwf hproper
  · have hother := other_call hr fun streamId data endStream heq => hdata ⟨_, _, _, heq⟩
    intro id stream hget
    rw [hother.isClient]
    cases hother.table with
    | same hstreams =>
      rw [hstreams] at hget
      exact hwf id stream hget
    | @opened streamId hstreams =>
      rw [hstreams] at hget
      rcases OrderedMap.get?_insert_some hget with ⟨rfl, rfl⟩ | ⟨-, hold⟩
      · exact H3Stream.proper_empty
      · exact hwf id stream hold
    | @forgotten streamId errorCode _ hstreams =>
      rw [hstreams] at hget
      exact hwf id stream (OrderedMap.get?_erase_some hget).2

theorem LayerRun.tableWF (hQ : Q.NonBlocking) {calls : List (Call Q)}
    (hrun : LayerRun isClient parameters calls h) : h.TableWF := by
  induction hrun with
  | new => exact tableWF_new
  | aside _ step ih => exact step.shape.tableWF ih
  | call _ handled ih => exact handleTransportEvent_tableWF hQ ih handled

/-- Handle events one after the other. -/
def callAll : List (ProtocolEvent × Connection) → H3 Q → Option (List (Call Q) × H3 Q)
  | [], h => some ([], h)
  | (event, connection) :: rest, h =>
    (h.handleTransportEvent event connection).bind fun handled =>
      (callAll rest handled.1).map fun others =>
        (⟨event, connection, h, handled.1, handled.2⟩ :: others.1, others.2)

theorem LayerRun.callAll :
    ∀ (events : List (ProtocolEvent × Connection)) {calls more : List (Call Q)} {h h' : H3 Q},
      LayerRun isClient parameters calls h → H3.callAll events h = some (more, h') →
      LayerRun isClient parameters (calls ++ more) h' := by
  intro events
  induction events with
  | nil =>
    intro calls more h h' hrun hall
    cases hall
    rwa [List.append_nil]
  | cons first rest ih =>
    intro calls more h h' hrun hall
    obtain ⟨event, connection⟩ := first
    obtain ⟨handled, hhandled, hall⟩ := Option.bind_eq_some_iff.mp hall
    obtain ⟨others, hothers, heq⟩ := Option.map_eq_some_iff.mp hall
    cases heq
    have hrest := ih (LayerRun.call hrun hhandled) hothers
    rwa [List.append_assoc] at hrest

end H3

end PyWebTransport

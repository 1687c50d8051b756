/-
PyWebTransport.Protocol.H3.Outcomes — what HTTP/3 can hand on.

Whatever the peer sends and whatever the QPACK codec does, HTTP/3 raises only
events of its own, and its effects only move bytes on streams or give up a
stream or the connection: it answers no request and asks for no stream.
-/
import PyWebTransport.Protocol.EngineRuns
import PyWebTransport.Protocol.H3.RequestEvents

namespace PyWebTransport

open PyWebTransport.Lib

/-- Effects on existing streams, and the end of the connection. -/
def Effect.isTransport : Effect → Bool
  | .closeQuicConnection .. | .receiveQuicData .. | .resetQuicStream .. | .sendQuicData ..
  | .stopQuicStream .. => true
  | _ => false

namespace H3

variable {Q : Qpack} {h : H3 Q} {streamId : StreamId} {streamEnded : Bool}
  {connection : Connection} {stream : H3Stream} {r : H3 Q × Except WebTransportError Outcome}
  {outcome : Outcome} {data : Bytes}

/-- Events of HTTP/3, and effects on streams. -/
structure HandsOn (outcome : Outcome) : Prop where
  events : ∀ event ∈ outcome.1, event.isH3 = true
  effects : ∀ effect ∈ outcome.2, effect.isTransport = true

theorem handsOn_nil : HandsOn ([], []) :=
  ⟨(fun _ h => nomatch h), (fun _ h => nomatch h)⟩

theorem HandsOn.append {a b : Outcome} (ha : HandsOn a) (hb : HandsOn b) :
    HandsOn (a.1 ++ b.1, a.2 ++ b.2) where
  events event h := (List.mem_append.mp h).elim (ha.events event) (hb.events event)
  effects effect h := (List.mem_append.mp h).elim (ha.effects effect) (hb.effects effect)

theorem handsOn_effects {effects : List Effect} (h : ∀ e ∈ effects, e.isTransport = true) :
    HandsOn ([], effects) :=
  ⟨(fun _ h => nomatch h), h⟩

theorem isTransport_sendInstructions (streamId : Option StreamId) (instructions : Bytes) :
    ∀ effect ∈ sendInstructions streamId instructions, effect.isTransport = true := by
  intro effect heffect
  obtain ⟨_, _, _, rfl⟩ := sendsOnly_sendInstructions streamId instructions effect heffect
  rfl

theorem isTransport_cleanupStream (h : H3 Q) :
    ∀ effect ∈ (h.cleanupStream streamId).2, effect.isTransport = true :=
  isTransport_sendInstructions _ _

theorem isTransport_stopRequestStream (h : H3 Q) :
    ∀ effect ∈ (h.stopRequestStream streamId).2, effect.isTransport = true := by
  unfold stopRequestStream
  split
  · exact fun _ h => nomatch h
  · intro effect heffect
    rcases List.mem_cons.mp heffect with rfl | heffect
    · rfl
    · exact h.isTransport_cleanupStream effect heffect

theorem isTransport_resumeRequestStream (h : H3 Q) :
    ∀ effect ∈ h.resumeRequestStream streamId, effect.isTransport = true := by
  unfold resumeRequestStream
  split
  · exact fun _ h => nomatch h
  · split
    · exact fun _ h => nomatch h
    · exact List.forall_mem_singleton.mpr rfl

theorem isTransport_bindLocalStreams (h : H3 Q)
    {controlStreamId encoderStreamId decoderStreamId : StreamId} :
    ∀ effect ∈ (h.bindLocalStreams controlStreamId encoderStreamId decoderStreamId).2,
      effect.isTransport = true := by
  unfold bindLocalStreams
  split
  · simp [Effect.isTransport]
  · split
    · simp [Effect.isTransport]
    · split <;> simp [Effect.isTransport]

/-! ## Request streams -/

/-- A result that, if there is one, only hands on what HTTP/3 may. -/
def Hands {α : Type} (outcome : α → Outcome) (r : Except WebTransportError α) : Prop :=
  ∀ a, r = .ok a → HandsOn (outcome a)

theorem handleDataFrame_hands (h : H3 Q) {payload : Bytes} :
    Hands Prod.snd (h.handleDataFrame streamId stream payload) := by
  intro a ha
  unfold handleDataFrame at ha
  split at ha
  · have hraises := parseCapsulesLoop_raises h.maxCapsuleSize streamId
      (stream.capsuleBuffer ++ payload).length (stream.capsuleBuffer ++ payload)
    simp only [parseCapsules] at ha
    generalize parseCapsulesLoop h.maxCapsuleSize streamId _ _ = drained at hraises ha
    cases drained with
    | error e => cases ha
    | ok p =>
      cases ha
      refine ⟨fun event hevent => ?_, List.forall_mem_nil _⟩
      obtain ⟨_, _, rfl⟩ := hraises event hevent
      rfl
  · cases ha
    exact handsOn_nil

theorem handleHeadersFrame_hands (h : H3 Q) {frameData : Bytes} :
    Hands Prod.snd (h.handleHeadersFrame streamId stream frameData).2 := by
  intro a ha
  unfold handleHeadersFrame at ha
  split at ha
  · cases ha
  · have hsends := h.decodeHeaders_sends streamId frameData
    simp only at ha
    generalize (h.decodeHeaders streamId (some frameData)).2 = status at hsends ha
    cases status with
    | error e => cases ha
    | ok status =>
      cases status with
      | blocked =>
        cases ha
        exact handsOn_nil
      | done headers effects =>
        simp only at ha
        generalize (if h.isClient then validateResponseHeaders streamId headers
          else validateRequestHeaders streamId headers) = valid at ha
        cases valid with
        | error e => cases ha
        | ok _ =>
          cases ha
          refine ⟨fun event hevent => ?_, fun effect heffect => ?_⟩
          · rw [List.mem_singleton.mp hevent]
            rfl
          · obtain ⟨_, _, _, rfl⟩ := hsends effect heffect
            rfl

theorem handleRequestFrame_hands (h : H3 Q) (streamId : StreamId) (stream : H3Stream)
    (frameType : Nat) (frameData : Bytes) :
    Hands Prod.snd (h.handleRequestFrame streamId stream frameType frameData).2 := by
  unfold handleRequestFrame
  split
  · exact fun _ ha => nomatch ha
  split
  · exact h.handleDataFrame_hands
  split
  · exact h.handleHeadersFrame_hands
  split
  · exact fun _ ha => nomatch ha
  split
  · exact fun _ ha => nomatch ha
  · intro a ha
    cases ha
    exact handsOn_nil

theorem hands_idleRound : Hands RoundResult.outcome (.ok (idleRound stream)) := by
  intro a ha
  cases ha
  exact handsOn_nil

theorem parseRound_hands (h : H3 Q) (streamId : StreamId) (stream : H3Stream) (streamEnded : Bool) :
    Hands RoundResult.outcome (h.parseRound streamId stream streamEnded).2 := by
  unfold parseRound
  split
  · exact hands_idleRound
  split
  · exact hands_idleRound
  split
  · exact fun _ ha => nomatch ha
  · exact hands_idleRound
  · rename_i opened _
    unfold consumeFrame
    split
    · simp only
      split
      · exact hands_idleRound
      · rename_i currentType currentSize _ _ _
        intro a ha
        have hframe := h.handleRequestFrame_hands streamId
          { opened with
            buffer := opened.buffer.drop (min currentSize opened.buffer.length)
            frameSize := some (currentSize - min currentSize opened.buffer.length) }
          currentType (opened.buffer.take (min currentSize opened.buffer.length))
        simp only at ha
        generalize (h.handleRequestFrame streamId _ currentType _).2 = handled at hframe ha
        cases handled with
        | error e => cases ha
        | ok p =>
          cases ha
          exact hframe p rfl
    · exact hands_idleRound

theorem parseLoop_hands :
    ∀ (fuel : Nat) (h : H3 Q) (stream : H3Stream) (r : H3 Q × Except WebTransportError
      (H3Stream × Outcome)), parseLoop streamId streamEnded fuel h stream = some r →
      Hands Prod.snd r.2 := by
  intro fuel
  induction fuel with
  | zero => exact fun _ _ _ hr => by cases hr
  | succ fuel ih =>
    intro h stream r hr
    have hround := h.parseRound_hands streamId stream streamEnded
    simp only [parseLoop] at hr
    generalize hresult : (h.parseRound streamId stream streamEnded).2 = result at hround hr
    cases result with
    | error e =>
      cases hr
      exact fun _ ha => by cases ha
    | ok result =>
      simp only at hr
      split at hr
      · cases hr
        intro a ha
        cases ha
        exact hround result rfl
      · obtain ⟨others, hothers, rfl⟩ := Option.map_eq_some_iff.mp hr
        have hrest := ih _ _ _ hothers
        intro a ha
        simp only at ha
        generalize others.2 = rest at hrest ha
        cases rest with
        | error e => cases ha
        | ok p =>
          cases ha
          exact (hround result rfl).append (hrest p rfl)

theorem parseStreamData_hands {r : H3 Q × Except WebTransportError (H3Stream × Outcome)}
    (hr : h.parseStreamData streamId stream streamEnded = some r) : Hands Prod.snd r.2 := by
  unfold parseStreamData at hr
  split at hr
  · simp only at hr
    split at hr
    · exact parseLoop_hands _ _ _ r hr
    · cases hr
      intro a ha
      cases ha
      exact handsOn_nil
  · exact parseLoop_hands _ _ _ r hr

theorem awaitHeader_handsOn (h : H3 Q) : HandsOn (h.awaitHeader streamId stream).2 := by
  unfold awaitHeader
  split
  · exact handsOn_effects h.isTransport_cleanupStream
  · exact handsOn_effects (by simp [Effect.isTransport])

theorem parseStreamHeader_hands :
    Hands (fun outcome => outcome) (h.parseStreamHeader streamId stream).2 := by
  intro a ha
  unfold parseStreamHeader at ha
  split at ha
  · cases ha
    exact h.awaitHeader_handsOn
  · split at ha
    · cases ha
    · cases ha
      exact ⟨(fun event hevent => by rw [List.mem_singleton.mp hevent]; rfl),
        (fun _ h => nomatch h)⟩

theorem finishRequestData_handsOn {was : Bool} (houtcome : HandsOn outcome) :
    HandsOn (h.finishRequestData streamId was stream outcome).2 := by
  unfold finishRequestData
  split
  · have hclosed : HandsOn ((if stream.isConnectStream then [.h3ConnectStreamClosed streamId]
        else []), (h.cleanupStream streamId).2) := by
      refine ⟨?_, h.isTransport_cleanupStream⟩
      split <;> simp [ProtocolEvent.isH3]
    exact houtcome.append hclosed
  · have hread : HandsOn ([], if !stream.blocked && !stream.ended &&
        !(!was && stream.headersProcessed) then [.receiveQuicData streamId u64Max] else []) := by
      refine handsOn_effects ?_
      split <;> simp [Effect.isTransport]
    have happend := houtcome.append hread
    rw [List.append_nil] at happend
    exact happend

theorem recvRequestData_hands (hr : h.recvRequestData streamId data streamEnded = some r) :
    Hands (fun outcome => outcome) r.2 := by
  unfold recvRequestData at hr
  simp only at hr
  split at hr
  · cases hr
    intro a ha
    cases ha
    exact awaitHeader_handsOn _
  · cases hr
    exact parseStreamHeader_hands
  · cases hr
    exact fun _ ha => nomatch ha
  · obtain ⟨parsed, hparsed, rfl⟩ := Option.map_eq_some_iff.mp hr
    have hhands := parseStreamData_hands hparsed
    intro a ha
    generalize hresult : parsed.2 = result at hhands ha
    cases result with
    | error e => cases ha
    | ok p =>
      cases ha
      exact finishRequestData_handsOn (hhands p rfl)

/-! ## Unidirectional streams -/

theorem handleControlFrame_hands (h : H3 Q) (frameType : Nat) (frameData : Bytes)
    (connection : Connection) :
    Hands (fun outcome => outcome) (h.handleControlFrame frameType frameData connection).2 := by
  have hnone : ∀ e : WebTransportError, Hands (fun outcome => outcome) (.error e) :=
    fun _ _ ha => nomatch ha
  unfold handleControlFrame
  split
  · exact hnone _
  split
  · intro a ha
    cases hpush : parsePushId frameData <;> rw [hpush] at ha <;> cases ha
  split
  · exact hnone _
  split
  · intro a ha
    cases ha
    exact ⟨(fun event hevent => by rw [List.mem_singleton.mp hevent]; rfl),
      (fun _ h => nomatch h)⟩
  split
  · intro a ha
    unfold handleMaxPushIdFrame at ha
    split at ha
    · cases ha
    · split at ha
      · cases ha
      · split at ha
        · cases ha
        · cases ha
          exact handsOn_nil
  split
  · intro a ha
    unfold handleSettingsFrame at ha
    split at ha
    · cases ha
    · split at ha
      · cases ha
      · simp only at ha
        split at ha
        · cases ha
        · cases ha
          exact ⟨(fun event hevent => by rw [List.mem_singleton.mp hevent]; rfl),
            isTransport_sendInstructions _ _⟩
  split
  · exact hnone _
  · intro a ha
    cases ha
    exact handsOn_nil

theorem parseControlFrames_hands :
    ∀ (fuel : Nat) (h : H3 Q) (buffer : Bytes),
      Hands Prod.snd (parseControlFrames connection fuel h buffer).2 := by
  intro fuel
  induction fuel with
  | zero =>
    intro h buffer a ha
    cases ha
    exact handsOn_nil
  | succ fuel ih =>
    intro h buffer a ha
    unfold parseControlFrames at ha
    split at ha
    · cases ha
      exact handsOn_nil
    · rename_i frameType frameSize payload _
      split at ha
      · cases ha
      split at ha
      · cases ha
      split at ha
      · cases ha
        exact handsOn_nil
      · have hframe := h.handleControlFrame_hands frameType (payload.take frameSize) connection
        simp only at ha
        generalize hresult : (h.handleControlFrame frameType (payload.take frameSize)
          connection).2 = result at hframe ha
        cases result with
        | error e => cases ha
        | ok outcome =>
          have hrest := ih (h.handleControlFrame frameType (payload.take frameSize)
            connection).1 (payload.drop frameSize)
          simp only at ha
          generalize (parseControlFrames connection fuel _ _).2 = rest at hrest ha
          cases rest with
          | error e => cases ha
          | ok p =>
            cases ha
            exact (hframe outcome rfl).append (hrest p rfl)

theorem resumeUnblocked_hands : ∀ (streamIds : List StreamId) (h : H3 Q)
    (r : H3 Q × Except WebTransportError Outcome), resumeUnblocked streamIds h = some r →
      Hands (fun outcome => outcome) r.2 := by
  intro streamIds
  induction streamIds with
  | nil =>
    intro h r hr
    cases hr
    intro a ha
    cases ha
    exact handsOn_nil
  | cons streamId rest ih =>
    intro h r hr
    unfold resumeUnblocked at hr
    split at hr
    · split at hr
      · obtain ⟨resumed, hresumed, hr⟩ := Option.bind_eq_some_iff.mp hr
        have hhands := recvRequestData_hands hresumed
        generalize hresult : resumed.2 = result at hhands hr
        cases result with
        | error e =>
          cases hr
          exact fun _ ha => nomatch ha
        | ok outcome =>
          obtain ⟨others, hothers, rfl⟩ := Option.map_eq_some_iff.mp hr
          have hrest := ih _ _ hothers
          intro a ha
          generalize others.2 = result at hrest ha
          cases result with
          | error e => cases ha
          | ok p =>
            cases ha
            exact (hhands outcome rfl).append (hrest p rfl)
      · exact ih h r hr
    · exact ih h r hr

theorem recvInfrastructureData_hands {streamType : Nat}
    {r : H3 Q × Except WebTransportError (Bytes × Outcome)}
    (hr : h.recvInfrastructureData stream streamType connection = some r) : Hands Prod.snd r.2 := by
  have hkept : ∀ buffer : Bytes, Hands Prod.snd (.ok (buffer, (([], []) : Outcome))) := by
    intro buffer a ha
    cases ha
    exact handsOn_nil
  unfold recvInfrastructureData at hr
  split at hr
  · split at hr
    · cases hr
      exact fun _ ha => nomatch ha
    · cases hr
      exact parseControlFrames_hands _ h stream.buffer
  split at hr
  · split at hr
    · cases hr
      exact hkept []
    · cases hr
      intro a ha
      simp only at ha
      split at ha
      · exact hkept [] a ha
      · cases ha
  split at hr
  · split at hr
    · cases hr
      exact hkept []
    · simp only at hr
      split at hr
      · cases hr
        exact fun _ ha => nomatch ha
      · obtain ⟨resumed, hresumed, rfl⟩ := Option.map_eq_some_iff.mp hr
        have hhands := resumeUnblocked_hands _ _ resumed hresumed
        intro a ha
        simp only at ha
        generalize resumed.2 = result at hhands ha
        cases result with
        | error e => cases ha
        | ok outcome =>
          cases ha
          exact hhands outcome rfl
  · cases hr
    exact hkept stream.buffer

theorem recvUnidirectionalStreamData_hands
    (hr : h.recvUnidirectionalStreamData streamId data streamEnded connection = some r) :
    Hands (fun outcome => outcome) r.2 := by
  unfold recvUnidirectionalStreamData at hr
  simp only at hr
  split at hr
  · cases hr
    intro a ha
    cases ha
    exact awaitHeader_handsOn _
  · cases hr
    exact fun _ ha => nomatch ha
  · cases hr
    intro a ha
    cases ha
    exact handsOn_effects (by simp [Effect.isTransport])
  · split at hr
    · cases hr
      exact parseStreamHeader_hands
    · obtain ⟨received, hreceived, rfl⟩ := Option.map_eq_some_iff.mp hr
      have hhands := recvInfrastructureData_hands hreceived
      intro a ha
      generalize hresult : received.2 = result at hhands ha
      cases result with
      | error e => cases ha
      | ok p =>
        simp only at ha
        split at ha
        · cases ha
        · cases ha
          have hread : HandsOn ([], [.receiveQuicData streamId u64Max]) :=
            handsOn_effects (by simp [Effect.isTransport])
          have happend := (hhands p rfl).append hread
          rw [List.append_nil] at happend
          exact happend

/-! ## All of it -/

theorem recvDatagram_hands :
    Hands (fun outcome : Outcome => outcome)
      ((recvDatagram data).map fun events => (events, [])) := by
  intro a ha
  unfold recvDatagram at ha
  split at ha
  · cases ha
  · simp only at ha
    split at ha
    · cases ha
    · cases ha
      exact ⟨(fun event hevent => by rw [List.mem_singleton.mp hevent]; rfl),
        (fun _ h => nomatch h)⟩

theorem failTransportEvent_handsOn {e : WebTransportError} :
    HandsOn (h.failTransportEvent e).2 := by
  cases e with
  | stream streamId errorCode reason =>
    have hgiven : HandsOn ([], [.resetQuicStream streamId (errorCode.getD errH3InternalError),
        .stopQuicStream streamId (errorCode.getD errH3InternalError)]) :=
      handsOn_effects (by simp [Effect.isTransport])
    exact hgiven.append (handsOn_effects h.isTransport_cleanupStream)
  | configuration errorCode reason | protocol errorCode reason | unknown errorCode reason =>
    exact handsOn_effects (by simp [Effect.isTransport])

/-- Whatever arrives, HTTP/3 raises its own events and touches streams. -/
theorem handleTransportEvent_handsOn {h' : H3 Q} {event : ProtocolEvent}
    (hr : h.handleTransportEvent event connection = some (h', outcome)) : HandsOn outcome := by
  obtain ⟨result, hresult, heq⟩ := Option.map_eq_some_iff.mp hr
  have hhands : Hands (fun outcome => outcome) result.2 := by
    have hnone : Hands (fun outcome => outcome) (.ok (([], []) : Outcome)) := by
      intro a ha
      cases ha
      exact handsOn_nil
    unfold transportResult at hresult
    split at hresult
    · cases hresult
      exact recvDatagram_hands
    · cases hresult
      unfold recvStreamReset
      split
      · exact fun _ ha => nomatch ha
      · intro a ha
        cases ha
        exact handsOn_effects h.isTransport_cleanupStream
    · cases hresult
      unfold recvStopSending
      dsimp only
      split
      · exact fun _ ha => nomatch ha
      · exact hnone
    · split at hresult
      · exact recvUnidirectionalStreamData_hands hresult
      · exact recvRequestData_hands hresult
    · cases hresult
      intro a ha
      cases ha
      exact handsOn_effects (by simp [handleStreamOpened, Effect.isTransport])
    · cases hresult
      exact hnone
  -- an error gives up the stream or the connection, and raises nothing
  generalize hout : result.2 = out at hhands heq
  cases out with
  | ok a =>
    cases heq
    exact hhands _ rfl
  | error e =>
    have houtcome : (result.1.failTransportEvent e).2 = outcome := congrArg Prod.snd heq
    rw [← houtcome]
    exact failTransportEvent_handsOn

end H3

end PyWebTransport

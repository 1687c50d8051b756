/-
PyWebTransport.Protocol.H3.ControlChunks — a control stream that comes in
chunks.

The type and the size of a control frame are checked as soon as its header
can be read, its order and its payload when it is there whole. Either check
depends on the bytes of the frame and on the frames before it, never on what
comes behind, so the loop over a control stream is an incremental parser
that does not pause (`controlParser`).

The state of this parser records the frames that were handled, and its
failures carry the record: two deliveries of one byte string come to the
same layer, the same frames and the same result, also when they fail
(`control_chunks_agree`).
-/
import PyWebTransport.Protocol.H3.ControlStream
import PyWebTransport.Protocol.H3.RequestChunks

namespace PyWebTransport

open PyWebTransport.Lib

namespace H3

variable {Q : Qpack} {buffer : Bytes} {streamId : StreamId} {stream : H3Stream} {h : H3 Q}

/-! ## The frames of one buffer -/

/-- The bytes at the front of a buffer, up to the rest. -/
def frameBytes (buffer rest : Bytes) : Bytes := buffer.take (buffer.length - rest.length)

theorem frameBytes_append {rest : Bytes} (h : rest.length ≤ buffer.length) (more : Bytes) :
    frameBytes (buffer ++ more) (rest ++ more) = frameBytes buffer rest := by
  have hlen : (buffer ++ more).length - (rest ++ more).length = buffer.length - rest.length := by
    simp only [List.length_append]
    omega
  rw [frameBytes, hlen, List.take_append_of_le_length (Nat.sub_le _ _)]
  rfl

theorem frameBytes_of_append {front rest : Bytes} : frameBytes (front ++ rest) rest = front := by
  simp [frameBytes]

/-- What is wrong with a control frame as soon as its header is there. -/
def controlViolation (frameType frameSize : Nat) : Option WebTransportError :=
  if frameType = h3FrameTypeData then
    some (.protocol (some errH3FrameUnexpected) "h3_control_stream validate invalid")
  else if frameType ≠ h3FrameTypeHeaders ∧ frameSize > controlFrameSizeLimit then
    some (.protocol (some errH3FrameError) "h3_frame validate exceeded")
  else none

/-- One round of the loop over a control stream. -/
theorem parseControlFrames_succ {connection : Connection} {fuel : Nat} :
    parseControlFrames connection (fuel + 1) h buffer =
      match readFrameHeader buffer with
      | none => (h, .ok (buffer, [], []))
      | some (frameType, frameSize, payload) =>
        match controlViolation frameType frameSize with
        | some e => (h, .error e)
        | none =>
          if payload.length < frameSize then (h, .ok (buffer, [], []))
          else
            let handled := h.handleControlFrame frameType (payload.take frameSize) connection
            match handled.2 with
            | .error e => (handled.1, .error e)
            | .ok outcome =>
              let others :=
                parseControlFrames connection fuel handled.1 (payload.drop frameSize)
              (others.1, others.2.map fun (buffer, rest) =>
                (buffer, outcome.1 ++ rest.1, outcome.2 ++ rest.2)) := by
  rw [parseControlFrames]
  cases readFrameHeader buffer with
  | none => rfl
  | some header =>
    by_cases hdata : header.1 = h3FrameTypeData
    · simp only [controlViolation, if_pos hdata]
    · by_cases hsize : header.1 ≠ h3FrameTypeHeaders ∧ header.2.1 > controlFrameSizeLimit
      · simp only [controlViolation, if_neg hdata, if_pos hsize]
      · have hnone : controlViolation header.1 header.2.1 = none :=
          (if_neg hdata).trans (if_neg hsize)
        simp only [hnone]
        exact (if_neg hdata).trans (if_neg hsize)

/-- The frames the loop over a control stream handles, as they stand in the
buffer. The frame it fails at, if it fails, is the next one. -/
def handledFrames (connection : Connection) : Nat → H3 Q → Bytes → List Bytes
  | 0, _, _ => []
  | fuel + 1, h, buffer =>
    match readFrameHeader buffer with
    | none => []
    | some (frameType, frameSize, payload) =>
      if (controlViolation frameType frameSize).isSome ∨ payload.length < frameSize then []
      else
        let handled := h.handleControlFrame frameType (payload.take frameSize) connection
        match handled.2 with
        | .error _ => []
        | .ok _ =>
          frameBytes buffer (payload.drop frameSize) ::
            handledFrames connection fuel handled.1 (payload.drop frameSize)

theorem flatten_handledFrames_isPrefix (connection : Connection) :
    ∀ (fuel : Nat) (h : H3 Q) (buffer : Bytes),
      (handledFrames connection fuel h buffer).flatten <+: buffer := by
  intro fuel
  induction fuel with
  | zero =>
    intro h buffer
    exact List.nil_prefix
  | succ fuel ih =>
    intro h buffer
    unfold handledFrames
    cases hheader : readFrameHeader buffer with
    | none => exact List.nil_prefix
    | some header =>
      obtain ⟨frameType, frameSize, payload⟩ := header
      simp only
      split
      · exact List.nil_prefix
      · split
        · exact List.nil_prefix
        · obtain ⟨rest, hfirst, hsecond⟩ := readFrameHeader_ok hheader
          obtain ⟨used, -, hused⟩ := readVarint_split hfirst
          obtain ⟨used', -, hused'⟩ := readVarint_split hsecond
          have hbuffer : buffer =
              (used ++ used' ++ payload.take frameSize) ++ payload.drop frameSize := by
            rw [List.append_assoc, List.take_append_drop, List.append_assoc, ← hused', ← hused]
          rw [List.flatten_cons]
          conv_rhs => rw [hbuffer]
          have hfront : frameBytes buffer (payload.drop frameSize) =
              used ++ used' ++ payload.take frameSize := by
            conv_lhs => rw [hbuffer]
            exact frameBytes_of_append
          rw [hfront]
          exact (List.prefix_append_right_inj _).mpr (ih _ _)

/-! ## The parser -/

/-- The layer and the frames handled so far. -/
abbrev ControlState (Q : Qpack) := H3 Q × List Bytes

/-- The layer when a frame fails, the frames before it, and the error. -/
abbrev ControlFailure (Q : Qpack) := H3 Q × List Bytes × WebTransportError

def controlStep (connection : Connection) (s : ControlState Q) (buffer : Bytes) :
    Option (Except (ControlFailure Q) (Move (ControlState Q) UInt8 ProtocolEvent)) :=
  match readFrameHeader buffer with
  | none => none
  | some (frameType, frameSize, payload) =>
    match controlViolation frameType frameSize with
    | some e => some (.error (s.1, s.2, e))
    | none =>
      if payload.length < frameSize then none
      else
        let handled := s.1.handleControlFrame frameType (payload.take frameSize) connection
        match handled.2 with
        | .error e => some (.error (handled.1, s.2, e))
        | .ok outcome =>
          some (.ok ⟨(handled.1, s.2 ++ [frameBytes buffer (payload.drop frameSize)]),
            payload.drop frameSize, outcome.1, false⟩)

/-- What a step looks like when it does something. -/
inductive ControlStep (connection : Connection) (s : ControlState Q) (buffer : Bytes) :
    Except (ControlFailure Q) (Move (ControlState Q) UInt8 ProtocolEvent) → Prop where
  | refused {frameType frameSize : Nat} {payload : Bytes} {e : WebTransportError}
      (header : readFrameHeader buffer = some (frameType, frameSize, payload))
      (violation : controlViolation frameType frameSize = some e) :
      ControlStep connection s buffer (.error (s.1, s.2, e))
  | failed {frameType frameSize : Nat} {payload : Bytes} {h : H3 Q} {e : WebTransportError}
      (header : readFrameHeader buffer = some (frameType, frameSize, payload))
      (violation : controlViolation frameType frameSize = none)
      (whole : frameSize ≤ payload.length)
      (handled : s.1.handleControlFrame frameType (payload.take frameSize) connection =
        (h, .error e)) :
      ControlStep connection s buffer (.error (h, s.2, e))
  | handled {frameType frameSize : Nat} {payload : Bytes} {h : H3 Q} {outcome : Outcome}
      (header : readFrameHeader buffer = some (frameType, frameSize, payload))
      (violation : controlViolation frameType frameSize = none)
      (whole : frameSize ≤ payload.length)
      (handled : s.1.handleControlFrame frameType (payload.take frameSize) connection =
        (h, .ok outcome)) :
      ControlStep connection s buffer
        (.ok ⟨(h, s.2 ++ [frameBytes buffer (payload.drop frameSize)]), payload.drop frameSize,
          outcome.1, false⟩)

theorem controlStep_eq_some_iff {connection : Connection} {s : ControlState Q}
    (r : Except (ControlFailure Q) (Move (ControlState Q) UInt8 ProtocolEvent)) :
    controlStep connection s buffer = some r ↔ ControlStep connection s buffer r := by
  constructor
  · intro h
    unfold controlStep at h
    cases hheader : readFrameHeader buffer with
    | none =>
      rw [hheader] at h
      cases h
    | some header =>
      obtain ⟨frameType, frameSize, payload⟩ := header
      simp only [hheader] at h
      cases hviolation : controlViolation frameType frameSize with
      | some e =>
        simp only [hviolation] at h
        cases h
        exact .refused hheader hviolation
      | none =>
        simp only [hviolation] at h
        split at h
        · cases h
        · rename_i hwhole
          split at h
          · rename_i e heq
            cases h
            exact .failed hheader hviolation (Nat.le_of_not_lt hwhole) (Prod.ext rfl heq)
          · rename_i outcome heq
            cases h
            exact .handled hheader hviolation (Nat.le_of_not_lt hwhole) (Prod.ext rfl heq)
  · intro h
    cases h with
    | refused hheader hviolation => simp only [controlStep, hheader, hviolation]
    | failed hheader hviolation hwhole hhandled | handled hheader hviolation hwhole hhandled =>
      simp only [controlStep, hheader, hviolation, if_neg (Nat.not_lt_of_le hwhole), hhandled]

/-- Bytes behind a frame do not change what becomes of it. -/
theorem ControlStep.append {connection : Connection} {s : ControlState Q}
    {r : Except (ControlFailure Q) (Move (ControlState Q) UInt8 ProtocolEvent)}
    (h : ControlStep connection s buffer r) (more : Bytes) :
    ControlStep connection s (buffer ++ more)
      (r.map fun m => { m with rest := m.rest ++ more }) := by
  cases h with
  | refused hheader hviolation => exact .refused (readFrameHeader_append hheader more) hviolation
  | @failed frameType frameSize payload h e hheader hviolation hwhole hhandled =>
    refine .failed (readFrameHeader_append hheader more) hviolation ?_ ?_
    · rw [List.length_append]
      omega
    · rw [List.take_append_of_le_length hwhole]
      exact hhandled
  | @handled frameType frameSize payload h outcome hheader hviolation hwhole hhandled =>
    have hdrop : (payload ++ more).drop frameSize = payload.drop frameSize ++ more :=
      List.drop_append_of_le_length hwhole
    have hlen : (payload.drop frameSize).length ≤ buffer.length := by
      have hlt := length_readFrameHeader hheader
      rw [List.length_drop]
      omega
    have hstep : ControlStep connection s (buffer ++ more)
        (.ok ⟨(h, s.2 ++ [frameBytes (buffer ++ more) ((payload ++ more).drop frameSize)]),
          (payload ++ more).drop frameSize, outcome.1, false⟩) := by
      refine .handled (readFrameHeader_append hheader more) hviolation ?_ ?_
      · rw [List.length_append]
        omega
      · rw [List.take_append_of_le_length hwhole]
        exact hhandled
    rw [hdrop, frameBytes_append hlen] at hstep
    exact hstep

/-- The loop over a control stream as an incremental parser. -/
def controlParser (Q : Qpack) (connection : Connection) :
    Incremental (ControlState Q) UInt8 ProtocolEvent (ControlFailure Q) where
  step s buffer := controlStep connection s buffer
  idle_nil _ := rfl
  consumes {s b m} h := by
    cases (controlStep_eq_some_iff _).mp h with
    | handled hheader hviolation hwhole hhandled =>
      have hlt := length_readFrameHeader hheader
      rw [List.length_drop]
      omega
  extend_ok {s b m} h y :=
    (controlStep_eq_some_iff _).mpr
      (((controlStep_eq_some_iff _).mp h).append y)
  extend_error {s b e} h y :=
    (controlStep_eq_some_iff _).mpr
      (((controlStep_eq_some_iff _).mp h).append y)

theorem controlParser_pauses {connection : Connection} {s : ControlState Q} {b : Bytes}
    {m : Move (ControlState Q) UInt8 ProtocolEvent}
    (h : (controlParser Q connection).step s b = some (.ok m)) : m.pauses = false := by
  cases (controlStep_eq_some_iff _).mp h with
  | handled => rfl

/-! ## The loop against the parser -/

/-- The loop and the frames it handled, with what the parser comes to. -/
def AgreesWith (result : H3 Q × Except WebTransportError (Bytes × Outcome)) (frames : List Bytes) :
    Except (ControlFailure Q) (ControlState Q × Bytes × List ProtocolEvent) → Prop
  | .error (h, before, e) => result = (h, .error e) ∧ frames = before
  | .ok p => ∃ effects, result = (p.1.1, .ok (p.2.1, p.2.2, effects)) ∧ frames = p.1.2

theorem parseControlFrames_agrees (connection : Connection) :
    ∀ (fuel : Nat) (h : H3 Q) (frames : List Bytes) (buffer : Bytes), buffer.length ≤ fuel →
      AgreesWith (parseControlFrames connection fuel h buffer)
        (frames ++ handledFrames connection fuel h buffer)
        ((controlParser Q connection).advance 1 (h, frames) buffer) := by
  intro fuel
  induction fuel with
  | zero =>
    intro h frames buffer hfuel
    obtain rfl := List.length_eq_zero_iff.mp (Nat.le_zero.mp hfuel)
    rw [(controlParser Q connection).advance_of_idle ((controlParser Q connection).idle_nil _)]
    exact ⟨[], rfl, List.append_nil frames⟩
  | succ fuel ih =>
    intro h frames buffer hfuel
    rw [parseControlFrames_succ, handledFrames]
    cases hstep : (controlParser Q connection).step (h, frames) buffer with
    | none =>
      -- no header, or a frame that is not there whole
      have hidle : controlStep connection (h, frames) buffer = none := hstep
      rw [(controlParser Q connection).advance_of_idle hstep]
      unfold controlStep at hidle
      cases hheader : readFrameHeader buffer with
      | none => exact ⟨[], rfl, List.append_nil frames⟩
      | some header =>
        obtain ⟨frameType, frameSize, payload⟩ := header
        simp only [hheader] at hidle
        cases hviolation : controlViolation frameType frameSize with
        | some e => simp only [hviolation, reduceCtorEq] at hidle
        | none =>
          simp only [hviolation] at hidle
          by_cases hshort : payload.length < frameSize
          · simp only [hviolation, if_pos hshort, hshort, or_true, if_true,
              List.append_nil]
            exact ⟨[], rfl, rfl⟩
          · rw [if_neg hshort] at hidle
            split at hidle <;> cases hidle
    | some result =>
      cases (controlStep_eq_some_iff result).mp hstep with
      | refused hheader hviolation =>
        rw [(controlParser Q connection).advance_of_error hstep]
        simp only [hheader, hviolation, Option.isSome_some, true_or, if_true, List.append_nil]
        exact ⟨rfl, rfl⟩
      | failed hheader hviolation hwhole hhandled =>
        rw [(controlParser Q connection).advance_of_error hstep]
        simp only [hheader, hviolation, if_neg (Nat.not_lt_of_le hwhole), hhandled,
          Option.isSome_none, Bool.false_eq_true, false_or, List.append_nil]
        exact ⟨rfl, rfl⟩
      | @handled frameType frameSize payload h' outcome hheader hviolation hwhole hhandled =>
        rw [(controlParser Q connection).advance_of_ok hstep]
        simp only [hheader, hviolation, if_neg (Nat.not_lt_of_le hwhole), hhandled,
          Option.isSome_none, Bool.false_eq_true, false_or, if_false]
        have hlt := length_readFrameHeader hheader
        have hrest : (payload.drop frameSize).length ≤ fuel := by
          rw [List.length_drop]
          omega
        have hagrees := ih h' (frames ++ [frameBytes buffer (payload.drop frameSize)])
          (payload.drop frameSize) hrest
        rw [List.append_assoc] at hagrees
        cases hadvance : (controlParser Q connection).advance 1
            (h', frames ++ [frameBytes buffer (payload.drop frameSize)])
            (payload.drop frameSize) with
        | error failure =>
          rw [hadvance] at hagrees
          obtain ⟨hparse, hframes⟩ := hagrees
          exact ⟨by rw [hparse]; rfl, hframes⟩
        | ok p =>
          rw [hadvance] at hagrees
          obtain ⟨effects, hparse, hframes⟩ := hagrees
          exact ⟨outcome.2 ++ effects, by rw [hparse]; rfl, hframes⟩

/-! ## One chunk -/

/-- The layer with the stream put back, and the bytes left of it. -/
def putBack (streamId : StreamId) (stream : H3Stream) (h : H3 Q) (buffer : Bytes) : H3 Q :=
  { h with streams := h.streams.insert streamId { stream with buffer := buffer } }

/-- The frames a chunk of a control stream completes and the layer handles;
none, if the stream is over. -/
def framesOfChunk (streamId : StreamId) (connection : Connection) (h : H3 Q) (chunk : Bytes) :
    List Bytes :=
  let fed := h.feedStream streamId chunk false
  if fed.ended then []
  else handledFrames connection fed.buffer.length (h.withoutStream streamId) fed.buffer

/-- A control stream whose type has been read, between two chunks. -/
structure ControlReads (streamId : StreamId) (stream : H3Stream) (h : H3 Q) (buffer : Bytes) :
    Prop where
  stored : h.streams.get? streamId = some { stream with buffer := buffer }
  streamType : stream.streamType = some h3StreamTypeControl
  ended : stream.ended = false

theorem recvUnidirectionalStreamData_control (hr : ControlReads streamId stream h buffer)
    (connection : Connection) (chunk : Bytes) :
    h.recvUnidirectionalStreamData streamId chunk false connection =
      some (match parseControlFrames connection (buffer ++ chunk).length
          (h.withoutStream streamId) (buffer ++ chunk) with
        | (h', .error e) => (h', .error e)
        | (h', .ok (rest, outcome)) => (putBack streamId stream h' rest,
            .ok (outcome.1, outcome.2 ++ [.receiveQuicData streamId u64Max]))) := by
  have hnot : h3StreamTypeControl ≠ h3StreamTypeWebtransport := by decide
  simp only [recvUnidirectionalStreamData, feedStream, hr.stored, Option.getD_some,
    identifyUnidirectional, hr.streamType, if_neg hnot, recvInfrastructureData, if_true, hr.ended,
    Bool.or_self, Bool.false_eq_true, if_false, Option.map_some, withoutStream]
  generalize parseControlFrames connection _ _ (buffer ++ chunk) = parsed
  obtain ⟨h', result⟩ := parsed
  cases result with
  | error e => rfl
  | ok kept => simp only [putBack, hr.streamType, hr.ended]

/-- What a chunk comes to is what the parser comes to. -/
theorem chunk_agrees (hr : ControlReads streamId stream h buffer) (connection : Connection)
    (chunk : Bytes) (frames : List Bytes) :
    match (controlParser Q connection).advance 1 (h.withoutStream streamId, frames)
        (buffer ++ chunk) with
    | .error (h', before, e) =>
      h.recvUnidirectionalStreamData streamId chunk false connection = some (h', .error e) ∧
      frames ++ framesOfChunk streamId connection h chunk = before
    | .ok p => ∃ h' effects,
        h.recvUnidirectionalStreamData streamId chunk false connection =
          some (h', .ok (p.2.2, effects)) ∧
        frames ++ framesOfChunk streamId connection h chunk = p.1.2 ∧
        h' = putBack streamId stream p.1.1 p.2.1 ∧ h'.withoutStream streamId = p.1.1 ∧
        ControlReads streamId stream h' p.2.1 := by
  have hframes : framesOfChunk streamId connection h chunk =
      handledFrames connection (buffer ++ chunk).length (h.withoutStream streamId)
        (buffer ++ chunk) := by
    simp only [framesOfChunk, feedStream, hr.stored, Option.getD_some, hr.ended, Bool.or_self,
      Bool.false_eq_true, if_false]
  have hagrees := parseControlFrames_agrees connection (buffer ++ chunk).length
    (h.withoutStream streamId) frames (buffer ++ chunk) (Nat.le_refl _)
  have hcontrols := (parseControlFrames_frames connection (buffer ++ chunk).length
    (h.withoutStream streamId) (buffer ++ chunk)).controls
  rw [recvUnidirectionalStreamData_control hr, hframes]
  cases hadvance : (controlParser Q connection).advance 1 (h.withoutStream streamId, frames)
      (buffer ++ chunk) with
  | error failure =>
    rw [hadvance] at hagrees
    obtain ⟨hparse, hbefore⟩ := hagrees
    exact ⟨by rw [hparse], hbefore⟩
  | ok p =>
    rw [hadvance] at hagrees
    obtain ⟨effects, hparse, hbefore⟩ := hagrees
    rw [hparse] at hcontrols ⊢
    have hstreams : p.1.1.streams = h.streams.erase streamId := hcontrols.streams
    refine ⟨_, _, rfl, hbefore, rfl, ?_, ⟨OrderedMap.get?_insert_self _ _ _, hr.streamType,
      hr.ended⟩⟩
    simp only [withoutStream, putBack, hstreams, erase_insert_erase]
    rw [← hstreams]

/-! ## Several chunks -/

/-- What the chunks of a control stream come to: the layer, the frames it
handled, and the events or the error that ended it. -/
structure ControlDelivery (Q : Qpack) where
  layer : H3 Q
  frames : List Bytes
  result : Except WebTransportError (List ProtocolEvent)

/-- Deliver chunks without FIN until one fails. -/
def recvControlChunks (streamId : StreamId) (connection : Connection) :
    H3 Q → List Bytes → Option (ControlDelivery Q)
  | h, [] => some ⟨h, [], .ok []⟩
  | h, chunk :: chunks =>
    let frames := framesOfChunk streamId connection h chunk
    (h.recvUnidirectionalStreamData streamId chunk false connection).bind fun received =>
      match received.2 with
      | .error e => some ⟨received.1, frames, .error e⟩
      | .ok outcome =>
        (recvControlChunks streamId connection received.1 chunks).map fun others =>
          ⟨others.layer, frames ++ others.frames, others.result.map (outcome.1 ++ ·)⟩

/-- What the parser comes to, as a delivery. -/
def asDelivery (streamId : StreamId) (stream : H3Stream) :
    Except (ControlFailure Q) (ControlState Q × Bytes × List ProtocolEvent) → ControlDelivery Q
  | .error (h, before, e) => ⟨h, before, .error e⟩
  | .ok p => ⟨putBack streamId stream p.1.1 p.2.1, p.1.2, .ok p.2.2⟩

theorem putBack_withoutStream (hr : ControlReads streamId stream h buffer) :
    putBack streamId stream (h.withoutStream streamId) buffer = h := by
  have hstreams : (h.streams.erase streamId).insert streamId { stream with buffer := buffer } =
      h.streams := by
    apply OrderedMap.ext_get?
    intro k
    by_cases hk : streamId = k
    · subst hk
      rw [OrderedMap.get?_insert_self, hr.stored]
    · rw [OrderedMap.get?_insert_of_ne _ _ hk, OrderedMap.get?_erase_of_ne _ hk]
  simp only [putBack, withoutStream, hstreams]

theorem recvControlChunks_eq_deliver {connection : Connection} :
    ∀ (chunks : List Bytes) {h : H3 Q} {buffer : Bytes} (frames : List Bytes),
      ControlReads streamId stream h buffer →
      (recvControlChunks streamId connection h chunks).map
          (fun d => { d with frames := frames ++ d.frames }) =
        some (asDelivery streamId stream ((controlParser Q connection).deliver
          (h.withoutStream streamId, frames) buffer chunks)) := by
  intro chunks
  induction chunks with
  | nil =>
    intro h buffer frames hr
    simp only [recvControlChunks, Incremental.deliver, asDelivery, putBack_withoutStream hr,
      Option.map_some, List.append_nil]
  | cons chunk chunks ih =>
    intro h buffer frames hr
    have hchunk := chunk_agrees hr connection chunk frames
    rw [Incremental.deliver]
    cases hadvance : (controlParser Q connection).advance 1 (h.withoutStream streamId, frames)
        (buffer ++ chunk) with
    | error failure =>
      rw [hadvance] at hchunk
      obtain ⟨hrecv, hbefore⟩ := hchunk
      simp only [recvControlChunks, hrecv, Option.bind_some, Option.map_some, hbefore]
      rfl
    | ok p =>
      rw [hadvance] at hchunk
      obtain ⟨h', effects, hrecv, hbefore, -, hlayer, hr'⟩ := hchunk
      have hrest := ih p.1.2 hr'
      rw [hlayer] at hrest
      simp only [recvControlChunks, hrecv, Option.bind_some]
      obtain ⟨others, hothers, hsame⟩ := Option.map_eq_some_iff.mp hrest
      rw [hothers]
      simp only [Option.map_some, ← List.append_assoc, hbefore, Except.bind]
      cases hdeliver : (controlParser Q connection).deliver p.1 p.2.1 chunks with
      | error failure =>
        rw [hdeliver] at hsame
        simp only [asDelivery, ControlDelivery.mk.injEq] at hsame
        obtain ⟨hl, hf, hres⟩ := hsame
        simp only [hl, hf, hres, Except.map, asDelivery]
      | ok q =>
        rw [hdeliver] at hsame
        simp only [asDelivery, ControlDelivery.mk.injEq] at hsame
        obtain ⟨hl, hf, hres⟩ := hsame
        simp only [hl, hf, hres, Except.map, asDelivery, Incremental.prepend]

/-- Every delivery of bytes comes to what the bytes come to in one chunk. -/
theorem recvControlChunks_eq (hr : ControlReads streamId stream h buffer)
    (connection : Connection) {chunks : List Bytes} (hne : chunks ≠ []) :
    recvControlChunks streamId connection h chunks =
      some (asDelivery streamId stream ((controlParser Q connection).advance 1
        (h.withoutStream streamId, []) (buffer ++ chunks.flatten))) := by
  rw [← (controlParser Q connection).deliver_eq_advance_one controlParser_pauses chunks hne,
    ← recvControlChunks_eq_deliver chunks [] hr]
  simp only [List.nil_append, Option.map_id_fun', id]

/-- A control stream that is over fails with its next chunk. -/
theorem recvControlChunks_ended (hstored : h.streams.get? streamId = some stream)
    (htype : stream.streamType = some h3StreamTypeControl) (hended : stream.ended = true)
    {connection : Connection} {chunk : Bytes} {chunks : List Bytes} :
    recvControlChunks streamId connection h (chunk :: chunks) =
      some ⟨h.withoutStream streamId, [], .error closedCriticalStream⟩ := by
  have hnot : h3StreamTypeControl ≠ h3StreamTypeWebtransport := by decide
  simp only [recvControlChunks, recvUnidirectionalStreamData, framesOfChunk, feedStream, hstored,
    Option.getD_some, identifyUnidirectional, htype, if_neg hnot, recvInfrastructureData, if_true,
    hended, Bool.true_or, Option.map_some, Option.bind_some]
  rfl

/-- However the bytes of a control stream are cut into chunks, they come to
the same layer, by way of the same frames, and to the same events or the
same error. The frames are those at the front of the stream, so a delivery
that fails does so at the frame behind them. -/
theorem control_chunks_agree (connection : Connection) {h : H3 Q} {streamId : StreamId}
    {stream : H3Stream} (hstored : h.streams.get? streamId = some stream)
    (htype : stream.streamType = some h3StreamTypeControl) {data : Bytes}
    {chunks chunks' : List Bytes} (hcut : Incremental.IsChunking data chunks)
    (hcut' : Incremental.IsChunking data chunks') :
    ∃ d, recvControlChunks streamId connection h chunks = some d ∧
      recvControlChunks streamId connection h chunks' = some d ∧
      d.frames.flatten <+: stream.buffer ++ data := by
  by_cases hdata : data = []
  · have hnil : ∀ {cs : List Bytes}, Incremental.IsChunking data cs → cs = [] := by
      intro cs hcs
      have hle := hcs.length_le
      rw [hdata] at hle
      exact List.length_eq_zero_iff.mp (Nat.le_zero.mp hle)
    rw [hnil hcut, hnil hcut']
    exact ⟨_, rfl, rfl, List.nil_prefix⟩
  · have hne := hcut.ne_nil hdata
    have hne' := hcut'.ne_nil hdata
    cases hended : stream.ended with
    | true =>
      obtain ⟨chunk, rest, rfl⟩ := List.exists_cons_of_ne_nil hne
      obtain ⟨chunk', rest', rfl⟩ := List.exists_cons_of_ne_nil hne'
      exact ⟨_, recvControlChunks_ended hstored htype hended,
        recvControlChunks_ended hstored htype hended, List.nil_prefix⟩
    | false =>
      have hr : ControlReads streamId stream h stream.buffer := ⟨hstored, htype, hended⟩
      have hone := recvControlChunks_eq hr connection hne
      have hone' := recvControlChunks_eq hr connection hne'
      rw [hcut.flatten] at hone
      rw [hcut'.flatten] at hone'
      refine ⟨_, hone, hone', ?_⟩
      have hagrees := parseControlFrames_agrees connection (stream.buffer ++ data).length
        (h.withoutStream streamId) [] (stream.buffer ++ data) (Nat.le_refl _)
      have hfront := flatten_handledFrames_isPrefix connection (stream.buffer ++ data).length
        (h.withoutStream streamId) (stream.buffer ++ data)
      rw [List.nil_append] at hagrees
      cases hadvance : (controlParser Q connection).advance 1 (h.withoutStream streamId, [])
          (stream.buffer ++ data) with
      | error failure =>
        rw [hadvance] at hagrees
        obtain ⟨-, hframes⟩ := hagrees
        rw [hframes] at hfront
        exact hfront
      | ok p =>
        rw [hadvance] at hagrees
        obtain ⟨effects, -, hframes⟩ := hagrees
        rw [hframes] at hfront
        exact hfront

/-- A client that has read the type of the control stream 3. -/
def sampleControl : H3 plainQpack :=
  putBack 3 { streamType := some h3StreamTypeControl }
    { (H3.new true sampleH3Parameters : H3 plainQpack) with peerControlStreamId := some 3 } []

/-- SETTINGS with WebTransport enabled, and GOAWAY. -/
def settingsAndGoaway : Bytes :=
  [0x04, 0x05, 0xAC, 0x7C, 0xF0, 0x00, 0x01, 0x07, 0x01, 0x00]

def sampleConnection : Connection :=
  Connection.new 0 none true
    { earlyEventTtl := 0, initialMaxData := 0, initialMaxStreamsBidi := 0,
      initialMaxStreamsUni := 0, maxConnectionPendingEvents := 0, maxPendingCapsules := 0,
      maxPendingDatagrams := 0, maxPendingStreams := 0, maxSessionPendingEvents := 0,
      maxSessions := 1, maxWriteBufferSize := 0, sessionReceiveWindow := 0 }

theorem control_chunks_agree_settings :
    ∃ d, recvControlChunks 3 sampleConnection sampleControl [settingsAndGoaway] = some d ∧
      recvControlChunks 3 sampleConnection sampleControl
        [settingsAndGoaway.take 4, settingsAndGoaway.drop 4] = some d ∧
      d.frames.flatten <+: [] ++ settingsAndGoaway := by
  have hwhole : Incremental.IsChunking settingsAndGoaway [settingsAndGoaway] :=
    ⟨by decide, by decide⟩
  have hparts : Incremental.IsChunking settingsAndGoaway
      [settingsAndGoaway.take 4, settingsAndGoaway.drop 4] := ⟨by decide, by decide⟩
  have hstored : sampleControl.streams.get? 3 = some { streamType := some h3StreamTypeControl } :=
    rfl
  exact control_chunks_agree sampleConnection hstored rfl hwhole hparts

end H3

end PyWebTransport

/-
PyWebTransport.Protocol.H3.FrameParser — the frame parser of a request
stream as an incremental parser.

A move of `frameParser` opens a frame, passes on one byte of a DATA frame,
or passes on any other frame when all of it is there. A frame of size zero
is passed on when it is opened, and that move pauses the parser: it is the
point where the loop of `parse_stream_data` breaks. `FrameLoop` relates the
loop to this parser; this module has the laws that make it incremental, and
what its moves preserve (`advance_ok`).
-/
import PyWebTransport.Protocol.H3.CapsuleParser

namespace PyWebTransport

open PyWebTransport.Lib

/-- What the parser leaves of a stream between two chunks: no header block
waits, an open frame has bytes to come, and no complete capsule is buffered. -/
structure H3Stream.Coherent (maxCapsuleSize : Nat) (streamId : StreamId) (s : H3Stream) :
    Prop where
  notBlocked : s.blocked = false
  frame : s.frameType = none ∨ ∃ t n, s.frameType = some t ∧ s.frameSize = some n ∧ 0 < n
  capsules : H3.drainCapsules maxCapsuleSize streamId s.capsuleBuffer = .ok (s.capsuleBuffer, [])

theorem H3Stream.coherent_empty {maxCapsuleSize : Nat} {streamId : StreamId} :
    ({} : H3Stream).Coherent maxCapsuleSize streamId :=
  ⟨rfl, Or.inl rfl, rfl⟩

namespace H3

variable {Q : Qpack} {streamId : StreamId} {stream : H3Stream} {p : H3Stream × Outcome}
  {frameType frameSize : Nat} {piece rest input : Bytes} {pauses : Bool}

/-! ## Passing on a frame -/

theorem decodeHeaders_shape (h : H3 Q) (streamId : StreamId) (frameData : Option Bytes) :
    ∃ decoder, (h.decodeHeaders streamId frameData).1 = { h with decoder := decoder } :=
  ⟨_, rfl⟩

theorem handleRequestFrame_shape (h : H3 Q) (streamId : StreamId) (stream : H3Stream)
    (frameType : Nat) (frameData : Bytes) :
    ∃ decoder, (h.handleRequestFrame streamId stream frameType frameData).1 =
      { h with decoder := decoder } := by
  unfold handleRequestFrame
  split
  · exact ⟨_, rfl⟩
  split
  · exact ⟨_, rfl⟩
  split
  · unfold handleHeadersFrame
    split
    · exact ⟨_, rfl⟩
    · exact h.decodeHeaders_shape streamId (some frameData)
  split
  · exact ⟨_, rfl⟩
  split
  · exact ⟨_, rfl⟩
  · exact ⟨_, rfl⟩

theorem decodeHeaders_ne_blocked (hQ : Q.NonBlocking) (h : H3 Q) (streamId : StreamId)
    (frameData : Bytes) : (h.decodeHeaders streamId (some frameData)).2 ≠ .ok .blocked := by
  simp only [decodeHeaders]
  intro hblocked
  split at hblocked
  · cases hblocked
  · cases hblocked
  · rename_i instructions heq
    exact hQ.decode_not_blocked _ _ _ _ heq

theorem handleDataFrame_eq {h : H3 Q} {payload : Bytes} :
    h.handleDataFrame streamId stream payload =
      if stream.isConnectStream && stream.headersProcessed then
        (drainCapsules h.maxCapsuleSize streamId (stream.capsuleBuffer ++ payload)).map
          fun p => ({ stream with capsuleBuffer := p.1 }, p.2, [])
      else .ok (stream, [], []) := by
  unfold handleDataFrame
  split
  · simp only [parseCapsules, drainCapsules]
    cases parseCapsulesLoop h.maxCapsuleSize streamId
      (stream.capsuleBuffer ++ payload).length (stream.capsuleBuffer ++ payload) <;> rfl
  · rfl

/-- A change to a stream that handling a frame neither sees nor undoes. -/
structure Inert (u : H3Stream → H3Stream) : Prop where
  isConnectStream : ∀ s, (u s).isConnectStream = s.isConnectStream
  headersProcessed : ∀ s, (u s).headersProcessed = s.headersProcessed
  capsuleBuffer : ∀ s, (u s).capsuleBuffer = s.capsuleBuffer
  fill : ∀ s capsuleBuffer,
    u { s with capsuleBuffer := capsuleBuffer } = { u s with capsuleBuffer := capsuleBuffer }
  block : ∀ s frameType, u { s with blocked := true, frameType := frameType } =
    { u s with blocked := true, frameType := frameType }
  process : ∀ s isConnectStream,
    u { s with isConnectStream := isConnectStream, blocked := false, headersProcessed := true } =
      { u s with isConnectStream := isConnectStream, blocked := false, headersProcessed := true }

theorem inert_buffer (buffer : Bytes) : Inert fun s => { s with buffer := buffer } :=
  ⟨fun _ => rfl, fun _ => rfl, fun _ => rfl, fun _ _ => rfl, fun _ _ => rfl, fun _ _ => rfl⟩

theorem inert_ended (ended : Bool) : Inert fun s => { s with ended := ended } :=
  ⟨fun _ => rfl, fun _ => rfl, fun _ => rfl, fun _ _ => rfl, fun _ _ => rfl, fun _ _ => rfl⟩

theorem inert_frameSize (frameSize : Option Nat) :
    Inert fun s => { s with frameSize := frameSize } :=
  ⟨fun _ => rfl, fun _ => rfl, fun _ => rfl, fun _ _ => rfl, fun _ _ => rfl, fun _ _ => rfl⟩

theorem handleDataFrame_inert {u : H3Stream → H3Stream} (hu : Inert u) (h : H3 Q)
    (streamId : StreamId) (stream : H3Stream) (payload : Bytes) :
    h.handleDataFrame streamId (u stream) payload =
      (h.handleDataFrame streamId stream payload).map fun p => (u p.1, p.2) := by
  have hsame : ((u stream).isConnectStream && (u stream).headersProcessed) =
      (stream.isConnectStream && stream.headersProcessed) := by
    rw [hu.isConnectStream, hu.headersProcessed]
  rw [handleDataFrame_eq, handleDataFrame_eq, hsame, hu.capsuleBuffer]
  split
  · cases drainCapsules h.maxCapsuleSize streamId (stream.capsuleBuffer ++ payload) with
    | error e => rfl
    | ok p =>
      show Except.ok (_, _, _) = Except.ok (u { stream with capsuleBuffer := p.1 }, _, _)
      rw [hu.fill stream p.1]
  · rfl

theorem handleRequestFrame_inert {u : H3Stream → H3Stream} (hu : Inert u) (h : H3 Q)
    (streamId : StreamId) (stream : H3Stream) (frameType : Nat) (frameData : Bytes) :
    h.handleRequestFrame streamId (u stream) frameType frameData =
      ((h.handleRequestFrame streamId stream frameType frameData).1,
        (h.handleRequestFrame streamId stream frameType frameData).2.map
          fun p => (u p.1, p.2)) := by
  simp only [handleRequestFrame]
  split
  · rfl
  split
  · rw [handleDataFrame_inert hu]
  split
  · unfold handleHeadersFrame
    by_cases hheaders : stream.headersProcessed = true
    · rw [if_pos hheaders, if_pos ((hu.headersProcessed stream).trans hheaders)]
      rfl
    · rw [if_neg hheaders, if_neg (by rw [hu.headersProcessed]; exact hheaders)]
      refine Prod.ext rfl ?_
      simp only
      cases (h.decodeHeaders streamId (some frameData)).2 with
      | error e => rfl
      | ok status =>
        cases status with
        | blocked =>
          simp only [Except.map]
          rw [hu.block]
        | done headers effects =>
          simp only
          cases (if h.isClient then validateResponseHeaders streamId headers
            else validateRequestHeaders streamId headers) with
          | error e => rfl
          | ok valid =>
            simp only [Except.map]
            rw [hu.process, hu.isConnectStream]
  split
  · rfl
  split
  · rfl
  · rfl

/-- A piece of a DATA frame is as good as its parts. -/
theorem handleDataFrame_append {h : H3 Q} {a b : Bytes} :
    h.handleDataFrame streamId stream (a ++ b) =
      (h.handleDataFrame streamId stream a).bind fun p =>
        (h.handleDataFrame streamId p.1 b).map fun q => (q.1, p.2.1 ++ q.2.1, []) := by
  simp only [handleDataFrame_eq]
  by_cases hconnect : (stream.isConnectStream && stream.headersProcessed) = true
  · simp only [if_pos hconnect, ← List.append_assoc]
    rw [drainCapsules_append]
    cases drainCapsules h.maxCapsuleSize streamId (stream.capsuleBuffer ++ a) with
    | error e => rfl
    | ok p =>
      simp only [Except.bind, Except.map, if_pos hconnect]
      cases drainCapsules h.maxCapsuleSize streamId (p.1 ++ b) <;> rfl
  · simp only [if_neg hconnect]
    simp only [Except.bind, if_neg hconnect, Except.map, List.append_nil]

theorem handleDataFrame_cons {h : H3 Q} {frameSize : Option Nat} (byte : UInt8) (payload : Bytes) :
    h.handleDataFrame streamId { stream with frameSize := frameSize } (byte :: payload) =
      (h.handleDataFrame streamId stream [byte]).bind fun p =>
        (h.handleDataFrame streamId { p.1 with frameSize := frameSize } payload).map
          fun q => (q.1, p.2.1 ++ q.2.1, []) := by
  rw [handleDataFrame_inert (inert_frameSize frameSize) h streamId stream,
    ← List.singleton_append, handleDataFrame_append]
  cases h.handleDataFrame streamId stream [byte] with
  | error e => rfl
  | ok p =>
    simp only [Except.bind]
    rw [handleDataFrame_inert (inert_frameSize frameSize) h streamId p.1]
    cases h.handleDataFrame streamId p.1 payload <;> rfl

theorem handleDataFrame_shape {h : H3 Q} {payload : Bytes}
    (hp : h.handleDataFrame streamId stream payload = .ok p) :
    ∃ capsuleBuffer, p.1 = { stream with capsuleBuffer := capsuleBuffer } ∧
      (drainCapsules h.maxCapsuleSize streamId stream.capsuleBuffer = .ok (stream.capsuleBuffer, [])
        → drainCapsules h.maxCapsuleSize streamId capsuleBuffer = .ok (capsuleBuffer, [])) := by
  rw [handleDataFrame_eq] at hp
  split at hp
  · obtain ⟨q, hdrain, rfl⟩ := exists_of_map_eq_ok hp
    exact ⟨q.1, rfl, fun _ => drainCapsules_idle hdrain⟩
  · cases hp
    exact ⟨stream.capsuleBuffer, rfl, id⟩

/-- What handling a frame can change of the stream: capsules are taken off,
and the headers are processed. -/
theorem handleRequestFrame_ok {h : H3 Q} {frameData : Bytes}
    (hQ : stream.headersProcessed = false → Q.NonBlocking) (hblocked : stream.blocked = false)
    (hcapsules : drainCapsules h.maxCapsuleSize streamId stream.capsuleBuffer =
      .ok (stream.capsuleBuffer, []))
    (hp : (h.handleRequestFrame streamId stream frameType frameData).2 = .ok p) :
    ∃ capsuleBuffer isConnectStream headersProcessed,
      p.1 = { stream with
        capsuleBuffer := capsuleBuffer
        isConnectStream := isConnectStream
        headersProcessed := headersProcessed } ∧
      drainCapsules h.maxCapsuleSize streamId capsuleBuffer = .ok (capsuleBuffer, []) ∧
      (stream.isConnectStream = true → isConnectStream = true) ∧
      (stream.headersProcessed = true → headersProcessed = true) := by
  unfold handleRequestFrame at hp
  split at hp
  · cases hp
  split at hp
  · obtain ⟨capsuleBuffer, hshape, hidle⟩ := handleDataFrame_shape hp
    exact ⟨capsuleBuffer, _, _, hshape, hidle hcapsules, id, id⟩
  split at hp
  · unfold handleHeadersFrame at hp
    split at hp
    · cases hp
    · rename_i hheaders
      have hnonblocking := hQ (by simpa using hheaders)
      simp only at hp
      split at hp
      · cases hp
      · rename_i hstatus
        exact absurd hstatus (decodeHeaders_ne_blocked hnonblocking h streamId frameData)
      · rename_i headers effects hstatus
        obtain ⟨valid, hvalid, rfl⟩ := exists_of_map_eq_ok hp
        refine ⟨stream.capsuleBuffer, stream.isConnectStream || decide (findHeader headers
          (asciiBytes [':', 'p', 'r', 'o', 't', 'o', 'c', 'o', 'l']) = some wtUpgradeToken),
          true, ?_, hcapsules, ?_, fun _ => rfl⟩
        · simp only [hblocked]
        · intro hconnect
          rw [hconnect, Bool.true_or]
  split at hp
  · cases hp
  split at hp
  · cases hp
  · cases hp
    exact ⟨_, _, _, rfl, hcapsules, id, id⟩

/-! ## The parser -/

/-- The layer and the stream, whose buffer plays no part: the input is apart. -/
abbrev ParserState (Q : Qpack) := H3 Q × H3Stream

variable {s : ParserState Q} {m : Move (ParserState Q) UInt8 ProtocolEvent}
  {r : Except WebTransportError (Move (ParserState Q) UInt8 ProtocolEvent)}

/-- Pass on a piece of the open frame, and close the frame if that was all
of it. -/
def passOn (streamId : StreamId) (s : ParserState Q) (frameType frameSize : Nat)
    (piece rest : Bytes) (pauses : Bool) :
    Except WebTransportError (Move (ParserState Q) UInt8 ProtocolEvent) :=
  let taken := { s.2 with frameSize := some (frameSize - piece.length) }
  let handled := s.1.handleRequestFrame streamId taken frameType piece
  handled.2.map fun (stream, outcome) =>
    ⟨(handled.1, if piece.length = frameSize then closeFrame stream frameType else stream),
      rest, outcome.1, pauses⟩

/-- The limit a frame header breaks, if any. -/
def headerViolation (h : H3 Q) (streamId : StreamId) (frameType frameSize : Nat) :
    Option WebTransportError :=
  if frameType = h3FrameTypeHeaders ∧ frameSize > h.maxFieldSectionSize then
    some (.stream streamId (some errH3MessageError) "h3_field_section validate exceeded")
  else if frameType ≠ h3FrameTypeData ∧ frameType ≠ h3FrameTypeHeaders ∧
      frameSize > controlFrameSizeLimit then
    some (.protocol (some errH3FrameError) "h3_frame validate exceeded")
  else none

/-- The stream with a frame open on it. -/
def withFrame (stream : H3Stream) (frameType frameSize : Nat) : H3Stream :=
  { stream with
    frameType := some frameType
    frameSize := some frameSize
    blockedFrameSize :=
      if frameType = h3FrameTypeHeaders then some frameSize else stream.blockedFrameSize }

/-- A move without an open frame: read the next header. -/
def openStep (streamId : StreamId) (s : ParserState Q) (input : Bytes) :
    Option (Except WebTransportError (Move (ParserState Q) UInt8 ProtocolEvent)) :=
  match readFrameHeader input with
  | none => none
  | some (frameType, frameSize, payload) =>
    match s.1.headerViolation streamId frameType frameSize with
    | some e => some (.error e)
    | none =>
      let next : ParserState Q := (s.1, withFrame s.2 frameType frameSize)
      if frameSize = 0 then some (passOn streamId next frameType 0 [] payload true)
      else some (.ok ⟨next, payload, [], false⟩)

/-- A move inside a frame: one byte of a DATA frame, or all of another frame. -/
def frameStep (streamId : StreamId) (s : ParserState Q) (frameType frameSize : Nat) :
    Bytes → Option (Except WebTransportError (Move (ParserState Q) UInt8 ProtocolEvent))
  | [] => none
  | byte :: rest =>
    if frameType = h3FrameTypeData then
      some (passOn streamId s frameType frameSize [byte] rest false)
    else if frameSize = 0 ∨ (byte :: rest).length < frameSize then none
    else some (passOn streamId s frameType frameSize ((byte :: rest).take frameSize)
      ((byte :: rest).drop frameSize) false)

def parserStep (streamId : StreamId) (s : ParserState Q) (input : Bytes) :
    Option (Except WebTransportError (Move (ParserState Q) UInt8 ProtocolEvent)) :=
  match s.2.frameType, s.2.frameSize with
  | none, _ => openStep streamId s input
  | some frameType, some frameSize => frameStep streamId s frameType frameSize input
  | some _, none => none

theorem openFrame_eq {h : H3 Q} (hnone : stream.frameType = none) (input : Bytes) :
    h.openFrame streamId { stream with buffer := input } =
      match readFrameHeader input with
      | none => .ok none
      | some (frameType, frameSize, payload) =>
        match h.headerViolation streamId frameType frameSize with
        | some e => .error e
        | none => .ok (some { withFrame stream frameType frameSize with buffer := payload }) := by
  simp only [openFrame, hnone, Option.isSome_none, Bool.false_eq_true, if_false]
  cases readFrameHeader input with
  | none => rfl
  | some header =>
    simp only [headerViolation]
    split
    · rfl
    split
    · rfl
    · rfl

/-! ## Its laws -/

/-- More input only grows what a passed-on piece leaves. -/
theorem passOn_append {more : Bytes} :
    passOn streamId s frameType frameSize piece (rest ++ more) pauses =
      (passOn streamId s frameType frameSize piece rest pauses).map
        fun m => { m with rest := m.rest ++ more } := by
  simp only [passOn]
  cases (s.1.handleRequestFrame streamId
    { s.2 with frameSize := some (frameSize - piece.length) } frameType piece).2 <;> rfl

theorem passOn_rest (h : passOn streamId s frameType frameSize piece rest pauses = .ok m) :
    m.rest = rest := by
  simp only [passOn] at h
  obtain ⟨p, hhandled, rfl⟩ := exists_of_map_eq_ok h
  rfl

/-- What more input does to a move or a failure. -/
def extended (more : Bytes) (r : Except WebTransportError (Move (ParserState Q) UInt8 ProtocolEvent)) :
    Except WebTransportError (Move (ParserState Q) UInt8 ProtocolEvent) :=
  r.map fun m => { m with rest := m.rest ++ more }

theorem openStep_append (h : openStep streamId s input = some r) {more : Bytes} :
    openStep streamId s (input ++ more) = some (extended more r) := by
  unfold openStep at h
  split at h
  · cases h
  · rename_i hheader
    simp only [openStep, readFrameHeader_append hheader]
    split at h
    · cases h
      rfl
    · split at h
      · rename_i hzero
        cases h
        rw [if_pos hzero, passOn_append]
        rfl
      · rename_i hzero
        cases h
        rw [if_neg hzero]
        rfl

theorem frameStep_append (h : frameStep streamId s frameType frameSize input = some r)
    {more : Bytes} :
    frameStep streamId s frameType frameSize (input ++ more) = some (extended more r) := by
  cases input with
  | nil => cases h
  | cons byte rest =>
    simp only [frameStep] at h
    simp only [List.cons_append, frameStep]
    split at h
    · rename_i hdata
      cases h
      rw [if_pos hdata, passOn_append]
      rfl
    · rename_i hdata
      split at h
      · cases h
      · rename_i hwhole
        have hle : frameSize ≤ (byte :: rest).length := by omega
        have hwhole' : ¬(frameSize = 0 ∨ (byte :: (rest ++ more)).length < frameSize) := by
          simp only [List.length_cons, List.length_append] at hwhole ⊢
          omega
        cases h
        rw [if_neg hdata, if_neg hwhole', ← List.cons_append,
          List.take_append_of_le_length hle, List.drop_append_of_le_length hle, passOn_append]
        rfl

theorem parserStep_append (h : parserStep streamId s input = some r) {more : Bytes} :
    parserStep streamId s (input ++ more) = some (extended more r) := by
  simp only [parserStep] at h ⊢
  split at h
  · exact openStep_append h
  · exact frameStep_append h
  · cases h

theorem parserStep_consumes (h : parserStep streamId s input = some (.ok m)) :
    m.rest.length < input.length := by
  simp only [parserStep] at h
  split at h
  · unfold openStep at h
    split at h
    · cases h
    · rename_i hheader
      have hlt := length_readFrameHeader hheader
      split at h
      · cases h
      · split at h
        · rw [passOn_rest (Option.some.inj h)]
          exact hlt
        · cases h
          exact hlt
  · cases input with
    | nil => cases h
    | cons byte rest =>
      simp only [frameStep] at h
      split at h
      · rw [passOn_rest (Option.some.inj h)]
        exact Nat.lt_succ_self _
      · split at h
        · cases h
        · rename_i hwhole
          rw [passOn_rest (Option.some.inj h), List.length_drop]
          simp only [List.length_cons] at hwhole ⊢
          omega
  · cases h

theorem parserStep_nil (s : ParserState Q) : parserStep streamId s [] = none := by
  simp only [parserStep]
  split
  · rfl
  · rfl
  · rfl

/-- The frame parser of a request stream. -/
def frameParser (Q : Qpack) (streamId : StreamId) :
    Incremental (ParserState Q) UInt8 ProtocolEvent WebTransportError where
  step := parserStep streamId
  idle_nil := parserStep_nil
  consumes h := parserStep_consumes h
  extend_ok h more := parserStep_append h
  extend_error h more := parserStep_append h

theorem parserStep_closed (hclosed : s.2.frameType = none) (input : Bytes) :
    parserStep streamId s input = openStep streamId s input := by
  simp only [parserStep, hclosed]

theorem parserStep_open (htype : s.2.frameType = some frameType)
    (hsize : s.2.frameSize = some frameSize) (input : Bytes) :
    parserStep streamId s input = frameStep streamId s frameType frameSize input := by
  simp only [parserStep, htype, hsize]

/-- What stays of a layer and its stream along the moves. -/
structure Tracks (s t : ParserState Q) : Prop where
  layer : ∃ decoder, t.1 = { s.1 with decoder := decoder }
  buffer : t.2.buffer = s.2.buffer
  ended : t.2.ended = s.2.ended
  streamType : t.2.streamType = s.2.streamType
  isRequestStream : t.2.isRequestStream = s.2.isRequestStream
  isConnectStream : s.2.isConnectStream = true → t.2.isConnectStream = true
  headersProcessed : s.2.headersProcessed = true → t.2.headersProcessed = true

theorem Tracks.refl (s : ParserState Q) : Tracks s s :=
  ⟨⟨s.1.decoder, rfl⟩, rfl, rfl, rfl, rfl, id, id⟩

theorem Tracks.trans {t u : ParserState Q} (h : Tracks s t) (h' : Tracks t u) : Tracks s u where
  layer := by
    obtain ⟨decoder, ht⟩ := h.layer
    obtain ⟨decoder', hu⟩ := h'.layer
    exact ⟨decoder', by rw [hu, ht]⟩
  buffer := h'.buffer.trans h.buffer
  ended := h'.ended.trans h.ended
  streamType := h'.streamType.trans h.streamType
  isRequestStream := h'.isRequestStream.trans h.isRequestStream
  isConnectStream hs := h'.isConnectStream (h.isConnectStream hs)
  headersProcessed hs := h'.headersProcessed (h.headersProcessed hs)

theorem Tracks.maxCapsuleSize {t : ParserState Q} (h : Tracks s t) :
    t.1.maxCapsuleSize = s.1.maxCapsuleSize := by
  obtain ⟨decoder, ht⟩ := h.layer
  rw [ht]

/-- The parser's invariant: the stream is coherent, and if a header block
can still come, none is ever held back. -/
structure Sound (streamId : StreamId) (s : ParserState Q) : Prop where
  coherent : s.2.Coherent s.1.maxCapsuleSize streamId
  nonBlocking : s.2.headersProcessed = false → Q.NonBlocking

/-- Handling one piece: the frame is closed if that was all of it, and has
the rest to come otherwise. -/
theorem handled_ok {count : Nat} (hblocked : s.2.blocked = false)
    (hcapsules : drainCapsules s.1.maxCapsuleSize streamId s.2.capsuleBuffer =
      .ok (s.2.capsuleBuffer, [])) (hQ : s.2.headersProcessed = false → Q.NonBlocking)
    (htype : s.2.frameType = some frameType) (hle : count ≤ frameSize)
    (h : (s.1.handleRequestFrame streamId { s.2 with frameSize := some (frameSize - count) }
      frameType piece).2 = .ok p) : let next : ParserState Q :=
      ((s.1.handleRequestFrame streamId { s.2 with frameSize := some (frameSize - count) }
        frameType piece).1, if count = frameSize then closeFrame p.1 frameType else p.1)
    Sound streamId next ∧ Tracks s next := by
  obtain ⟨decoder, hlayer⟩ := s.1.handleRequestFrame_shape streamId
    { s.2 with frameSize := some (frameSize - count) } frameType piece
  obtain ⟨capsuleBuffer, isConnectStream, headersProcessed, hp, hidle, hconnect, hprocessed⟩ :=
    handleRequestFrame_ok (by exact hQ) (by exact hblocked) (by exact hcapsules) h
  have hnext : headersProcessed = false → Q.NonBlocking := by
    intro hfalse
    refine hQ (Bool.eq_false_iff.mpr fun htrue => ?_)
    rw [hprocessed htrue] at hfalse
    cases hfalse
  simp only [hlayer, hp]
  split
  · exact ⟨⟨⟨hblocked, Or.inl rfl, hidle⟩, hnext⟩,
      ⟨⟨decoder, rfl⟩, rfl, rfl, rfl, rfl, hconnect, hprocessed⟩⟩
  · refine ⟨⟨⟨hblocked, Or.inr ⟨frameType, _, htype, rfl, ?_⟩, hidle⟩, hnext⟩,
      ⟨⟨decoder, rfl⟩, rfl, rfl, rfl, rfl, hconnect, hprocessed⟩⟩
    omega

theorem passOn_ok (hblocked : s.2.blocked = false)
    (hcapsules : drainCapsules s.1.maxCapsuleSize streamId s.2.capsuleBuffer =
      .ok (s.2.capsuleBuffer, [])) (hQ : s.2.headersProcessed = false → Q.NonBlocking)
    (htype : s.2.frameType = some frameType) (hle : piece.length ≤ frameSize)
    (h : passOn streamId s frameType frameSize piece rest pauses = .ok m) :
    Sound streamId m.next ∧ Tracks s m.next := by
  simp only [passOn] at h
  obtain ⟨p, hhandled, rfl⟩ := exists_of_map_eq_ok h
  exact handled_ok hblocked hcapsules hQ htype hle hhandled

theorem openStep_ok (hs : Sound streamId s) (h : openStep streamId s input = some (.ok m)) :
    Sound streamId m.next ∧ Tracks s m.next := by
  have hframe : ∀ frameType frameSize, Tracks s (s.1, withFrame s.2 frameType frameSize) :=
    fun _ _ => ⟨⟨s.1.decoder, rfl⟩, rfl, rfl, rfl, rfl, id, id⟩
  unfold openStep at h
  split at h
  · cases h
  · rename_i frameType frameSize payload hheader
    split at h
    · cases h
    · split at h
      · rename_i hzero
        subst hzero
        have hpass : passOn streamId (s.1, withFrame s.2 frameType 0) frameType 0 [] payload true =
            .ok m := Option.some.inj h
        obtain ⟨hsound, htracks⟩ := passOn_ok (by exact hs.coherent.notBlocked)
          (by exact hs.coherent.capsules) (by exact hs.nonBlocking) rfl (by simp) hpass
        exact ⟨hsound, (hframe frameType 0).trans htracks⟩
      · rename_i hpos
        cases h
        refine ⟨⟨⟨hs.coherent.notBlocked, Or.inr ⟨frameType, frameSize, rfl, rfl, ?_⟩,
          hs.coherent.capsules⟩, hs.nonBlocking⟩, hframe frameType frameSize⟩
        exact Nat.pos_of_ne_zero hpos

theorem parserStep_ok (hs : Sound streamId s) (h : parserStep streamId s input = some (.ok m)) :
    Sound streamId m.next ∧ Tracks s m.next := by
  rcases hs.coherent.frame with hclosed | ⟨frameType, frameSize, htype, hsize, hpos⟩
  · rw [parserStep_closed hclosed] at h
    exact openStep_ok hs h
  · rw [parserStep_open htype hsize] at h
    cases input with
    | nil => cases h
    | cons byte rest =>
      simp only [frameStep] at h
      split at h
      · exact passOn_ok hs.coherent.notBlocked hs.coherent.capsules hs.nonBlocking htype hpos
          (Option.some.inj h)
      · split at h
        · cases h
        · exact passOn_ok hs.coherent.notBlocked hs.coherent.capsules hs.nonBlocking htype
            (by rw [List.length_take]; exact Nat.min_le_left _ _) (Option.some.inj h)

theorem advance_ok {k : Nat} {p : ParserState Q × Bytes × List ProtocolEvent}
    (hs : Sound streamId s) (h : (frameParser Q streamId).advance k s input = .ok p) :
    Sound streamId p.1 ∧ Tracks s p.1 := by
  have hstep : ∀ {t b m}, (Sound streamId t ∧ Tracks s t) →
      (frameParser Q streamId).step t b = some (.ok m) →
      Sound streamId m.next ∧ Tracks s m.next := by
    intro t b m ht hmove
    obtain ⟨hsound, htracks⟩ := parserStep_ok ht.1 hmove
    exact ⟨hsound, ht.2.trans htracks⟩
  exact (frameParser Q streamId).advance_invariant hstep k s input ⟨hs, Tracks.refl s⟩ h

end H3

end PyWebTransport

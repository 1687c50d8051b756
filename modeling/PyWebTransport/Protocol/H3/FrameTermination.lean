/-
PyWebTransport.Protocol.H3.FrameTermination — when the loop of
`parse_stream_data` comes to an end.

Without FIN every round takes something out of the buffer or leaves the
loop. FIN switches two of the exits off, since a stream that is over should
be read to its end: an empty buffer and an empty piece no longer stop the
loop. On a DATA frame that FIN cuts off this leaves no exit at all. The
round takes nothing, hands an empty piece on and starts again
(`parseLoop_inside`).

`EndsInData` is that case, read off the bytes: frames that are accepted one
after the other, and then a DATA frame that is not there whole.
`frame_loop_ends_iff` says that it is the only one, for every state a stream
can come to, and that the loop is otherwise over after at most one round
more than the buffer has bytes.
-/
import PyWebTransport.Protocol.H3.RequestChunks

namespace PyWebTransport

open PyWebTransport.Lib

namespace H3

variable {Q : Qpack} {stream : H3Stream} {h : H3 Q} {streamId : StreamId}
  {frameType frameSize : Nat} {input : Bytes} {streamEnded : Bool} {rounds : Nat}

variable {fuel : Nat}

/-! ## Bytes that end in a DATA frame -/

/-- Read from the state of the stream, the bytes are frames that are all
accepted, and end within a DATA frame whose beginning is accepted too. -/
inductive EndsInData (streamId : StreamId) : H3 Q → H3Stream → Bytes → Prop where
  | inside {h : H3 Q} {stream : H3Stream} {frameSize : Nat} {bytes : Bytes}
      {p : H3Stream × Outcome} (isData : stream.frameType = some h3FrameTypeData)
      (size : stream.frameSize = some frameSize) (short : bytes.length < frameSize)
      (accepted : h.handleDataFrame streamId stream bytes = .ok p) :
      EndsInData streamId h stream bytes
  | opened {h : H3 Q} {stream : H3Stream} {frameType frameSize : Nat} {bytes payload : Bytes}
      (closed : stream.frameType = none)
      (header : readFrameHeader bytes = some (frameType, frameSize, payload))
      (within : h.headerViolation streamId frameType frameSize = none)
      (rest : EndsInData streamId h (withFrame stream frameType frameSize) payload) :
      EndsInData streamId h stream bytes
  | passed {h : H3 Q} {stream : H3Stream} {frameType frameSize : Nat} {bytes : Bytes}
      {p : H3Stream × Outcome} (isOpen : stream.frameType = some frameType)
      (size : stream.frameSize = some frameSize) (whole : frameSize ≤ bytes.length)
      (accepted : (h.handleRequestFrame streamId { stream with frameSize := some 0 } frameType
        (bytes.take frameSize)).2 = .ok p)
      (rest : EndsInData streamId
        (h.handleRequestFrame streamId { stream with frameSize := some 0 } frameType
          (bytes.take frameSize)).1
        (closeFrame p.1 frameType) (bytes.drop frameSize)) :
      EndsInData streamId h stream bytes

/-! ## Rounds after FIN -/

/-- After FIN a round works on the open frame, whatever is left. -/
theorem parseRound_open (hblocked : stream.blocked = false)
    (htype : stream.frameType = some frameType) (input : Bytes) :
    h.parseRound streamId { stream with buffer := input } true =
      h.consumeFrame streamId { stream with buffer := input } true := by
  have hopened : h.openFrame streamId { stream with buffer := input } =
      .ok (some { stream with buffer := input }) := by
    rw [openFrame, if_pos (Option.isSome_iff_exists.mpr ⟨frameType, htype⟩)]
  rw [parseRound_working (by exact hblocked) (Or.inr rfl), hopened]

/-- Reading a header and working on the frame is one round. -/
theorem parseRound_opened (hblocked : stream.blocked = false) (hclosed : stream.frameType = none)
    {payload : Bytes} (hheader : readFrameHeader input = some (frameType, frameSize, payload))
    (hwithin : h.headerViolation streamId frameType frameSize = none) :
    h.parseRound streamId { stream with buffer := input } true =
      h.parseRound streamId { withFrame stream frameType frameSize with buffer := payload } true := by
  have hopened : (withFrame stream frameType frameSize).frameType = some frameType := rfl
  rw [parseRound_open (by exact hblocked) hopened payload,
    parseRound_working (by exact hblocked) (Or.inr rfl), openFrame_eq hclosed]
  simp only [hheader, hwithin]

/-- Nothing is left of the buffer, and the DATA frame is not over. -/
theorem parseLoop_inside (hs : Sound streamId (h, stream))
    (htype : stream.frameType = some h3FrameTypeData) (hsize : stream.frameSize = some frameSize)
    (hpos : 0 < frameSize) (fuel : Nat) :
    parseLoop streamId true fuel h { stream with buffer := [] } = none := by
  have hnothing : h.handleDataFrame streamId { stream with frameSize := some (frameSize - 0) } [] =
      .ok (stream, [], []) := by
    rw [Nat.sub_zero, ← hsize, handleDataFrame_eq]
    split
    · simp only [List.append_nil]
      rw [hs.coherent.capsules]
      rfl
    · rfl
  have hround : h.parseRound streamId { stream with buffer := [] } true =
      (h, .ok ⟨{ stream with buffer := [] }, ([], []), false⟩) := by
    have hcount : 0 = min frameSize ([] : Bytes).length := by simp
    rw [parseRound_open hs.coherent.notBlocked htype,
      consumeFrame_pass h streamId htype hsize [] true hcount (by simp), handleRequestFrame_data]
    simp only [List.take_nil, hnothing, Except.map, if_neg (Nat.ne_of_lt hpos), List.drop_nil,
      Bool.not_true, Bool.and_false]
  induction fuel with
  | zero => rfl
  | succ fuel ih =>
    rw [parseLoop_succ, hround]
    simp only [afterRound, Bool.false_eq_true, if_false, ih, Option.map_none]

/-- A piece of a DATA frame is handled as if the size to come were not noted. -/
theorem handleRequestFrame_piece (h : H3 Q) (streamId : StreamId) (stream : H3Stream)
    (frameSize : Nat) (piece : Bytes) :
    (h.handleRequestFrame streamId { stream with frameSize := some frameSize } h3FrameTypeData
      piece).2 =
        (h.handleDataFrame streamId stream piece).map fun p =>
          ({ p.1 with frameSize := some frameSize }, p.2) := by
  rw [handleRequestFrame_data]
  exact handleDataFrame_inert (inert_frameSize (some frameSize)) h streamId stream piece

/-- A whole frame that is accepted is closed, and the loop goes on behind it. -/
theorem parseLoop_passed (hblocked : stream.blocked = false)
    (htype : stream.frameType = some frameType) (hsize : stream.frameSize = some frameSize)
    (hwhole : frameSize ≤ input.length) {p : H3Stream × Outcome}
    (haccepted : (h.handleRequestFrame streamId { stream with frameSize := some 0 } frameType
      (input.take frameSize)).2 = .ok p) (fuel : Nat) :
    (parseLoop streamId true (fuel + 1) h { stream with buffer := input }).isSome =
      (parseLoop streamId true fuel
        (h.handleRequestFrame streamId { stream with frameSize := some 0 } frameType
          (input.take frameSize)).1
        { closeFrame p.1 frameType with buffer := input.drop frameSize }).isSome := by
  have hcount : frameSize = min frameSize input.length := by omega
  rw [parseLoop_succ, parseRound_open hblocked htype,
    consumeFrame_pass h streamId htype hsize input true hcount (by simp)]
  simp only [Nat.sub_self, haccepted, Except.map, if_true, Bool.not_true, Bool.and_false,
    afterRound, Bool.false_eq_true, if_false, Option.isSome_map]

/-- The loop does not come to an end, however many rounds it is given. -/
theorem EndsInData.diverges {bytes : Bytes} (hends : EndsInData streamId h stream bytes) :
    stream.blocked = false →
    drainCapsules h.maxCapsuleSize streamId stream.capsuleBuffer =
      .ok (stream.capsuleBuffer, []) →
    (stream.headersProcessed = false → Q.NonBlocking) →
    ∀ fuel, (parseLoop streamId true fuel h { stream with buffer := bytes }).isSome = false := by
  induction hends with
  | @inside h stream frameSize bytes p htype hsize hshort haccepted =>
    intro hblocked hcapsules hQ fuel
    cases fuel with
    | zero => rfl
    | succ fuel =>
      -- the first round takes all there is, and the next ones nothing
      have hcount : bytes.length = min frameSize bytes.length := by omega
      have hhandled := handleRequestFrame_piece h streamId stream (frameSize - bytes.length)
        bytes
      rw [haccepted] at hhandled
      obtain ⟨hsound, htracks⟩ := handled_ok (s := (h, stream)) hblocked hcapsules hQ htype
        (Nat.le_of_lt hshort) hhandled
      have hmore : bytes.length ≠ frameSize := by omega
      have hdata : p.1.frameType = some h3FrameTypeData := by
        obtain ⟨capsuleBuffer, hshape, -⟩ := handleDataFrame_shape haccepted
        rw [hshape]
        exact htype
      rw [if_neg hmore] at hsound
      have hstuck := parseLoop_inside hsound hdata rfl (Nat.sub_pos_of_lt hshort) fuel
      rw [parseLoop_succ, parseRound_open hblocked htype,
        consumeFrame_pass h streamId htype hsize bytes true hcount (by simp)]
      simp only [List.take_length, List.drop_length, hhandled, Except.map, if_neg hmore,
        Bool.not_true, Bool.and_false, afterRound, Bool.false_eq_true, if_false, hstuck,
        Option.map_none, Option.isSome_none]
  | opened hclosed hheader hwithin _ ih =>
    intro hblocked hcapsules hQ fuel
    cases fuel with
    | zero => rfl
    | succ fuel =>
      rw [parseLoop_succ, parseRound_opened hblocked hclosed hheader hwithin, ← parseLoop_succ]
      exact ih hblocked hcapsules hQ (fuel + 1)
  | @passed h stream frameType frameSize bytes p htype hsize hwhole haccepted _ ih =>
    intro hblocked hcapsules hQ fuel
    cases fuel with
    | zero => rfl
    | succ fuel =>
      have hhandled : (h.handleRequestFrame streamId
          { stream with frameSize := some (frameSize - frameSize) } frameType
          (bytes.take frameSize)).2 = .ok p := by
        rw [Nat.sub_self]
        exact haccepted
      obtain ⟨hsound, -⟩ := handled_ok (s := (h, stream)) hblocked hcapsules hQ htype
        (Nat.le_refl frameSize) hhandled
      simp only [Nat.sub_self, if_true] at hsound
      rw [parseLoop_passed hblocked htype hsize hwhole haccepted]
      exact ih hsound.coherent.notBlocked hsound.coherent.capsules hsound.nonBlocking fuel

/-- A round on an open frame, given the loop on what the round leaves. -/
theorem consumeFrame_returns (hblocked : stream.blocked = false)
    (hcapsules : drainCapsules h.maxCapsuleSize streamId stream.capsuleBuffer =
      .ok (stream.capsuleBuffer, [])) (hQ : stream.headersProcessed = false → Q.NonBlocking)
    (htype : stream.frameType = some frameType) (hsize : stream.frameSize = some frameSize)
    (hends : ¬EndsInData streamId h stream input)
    (hfuel : frameSize ≤ input.length → input.length - frameSize < fuel)
    (ih : ∀ (h' : H3 Q) (stream' : H3Stream) (rest : Bytes), rest.length < fuel →
      Sound streamId (h', stream') → ¬EndsInData streamId h' stream' rest →
      (parseLoop streamId true fuel h' { stream' with buffer := rest }).isSome = true) :
    (parseLoop streamId true (fuel + 1) h { stream with buffer := input }).isSome = true := by
  by_cases hwhole : frameSize ≤ input.length
  · cases haccepted : (h.handleRequestFrame streamId { stream with frameSize := some 0 } frameType
        (input.take frameSize)).2 with
    | error e =>
      have hcount : frameSize = min frameSize input.length := by omega
      rw [parseLoop_succ, parseRound_open hblocked htype,
        consumeFrame_pass h streamId htype hsize input true hcount (by simp)]
      simp only [Nat.sub_self, haccepted, Except.map, afterRound, Option.isSome_some]
    | ok p =>
      rw [parseLoop_passed hblocked htype hsize hwhole haccepted]
      have hhandled : (h.handleRequestFrame streamId
          { stream with frameSize := some (frameSize - frameSize) } frameType
          (input.take frameSize)).2 = .ok p := by
        rw [Nat.sub_self]
        exact haccepted
      obtain ⟨hsound, -⟩ := handled_ok (s := (h, stream)) hblocked hcapsules hQ htype
        (Nat.le_refl frameSize) hhandled
      simp only [Nat.sub_self, if_true] at hsound
      refine ih _ _ _ ?_ hsound fun hrest => hends (.passed htype hsize hwhole haccepted hrest)
      rw [List.length_drop]
      exact hfuel hwhole
  · have hshort : input.length < frameSize := by omega
    by_cases hdata : frameType = h3FrameTypeData
    · subst hdata
      cases haccepted : h.handleDataFrame streamId stream input with
      | error e =>
        have hcount : input.length = min frameSize input.length := by omega
        have hhandled := handleRequestFrame_piece h streamId stream (frameSize - input.length)
          input
        rw [haccepted] at hhandled
        rw [parseLoop_succ, parseRound_open hblocked htype,
          consumeFrame_pass h streamId htype hsize input true hcount (by simp)]
        simp only [List.take_length, hhandled, Except.map, afterRound, Option.isSome_some]
      | ok p => exact absurd (.inside htype hsize hshort haccepted) hends
    · -- any other frame is waited for, also after FIN
      have hwaits : frameType ≠ h3FrameTypeData ∧ min frameSize input.length < frameSize :=
        ⟨hdata, by omega⟩
      rw [parseLoop_succ, parseRound_open hblocked htype]
      simp only [consumeFrame, htype, hsize, if_pos hwaits, afterRound, idleRound, if_true,
        Option.isSome_some]

/-- Any other bytes are read in at most one round more than there are bytes. -/
theorem parseLoop_returns :
    ∀ (h : H3 Q) (stream : H3Stream) (input : Bytes), input.length < fuel →
      Sound streamId (h, stream) → ¬EndsInData streamId h stream input →
      (parseLoop streamId true fuel h { stream with buffer := input }).isSome = true := by
  induction fuel with
  | zero =>
    intro h stream input hfuel
    exact absurd hfuel (Nat.not_lt_zero _)
  | succ fuel ih =>
    intro h stream input hfuel hs hends
    have hblocked : stream.blocked = false := hs.coherent.notBlocked
    rcases hs.coherent.frame with hclosed | ⟨frameType, frameSize, htype, hsize, hpos⟩
    · cases hheader : readFrameHeader input with
      | none =>
        rw [parseLoop_succ, parseRound_working (by exact hblocked) (Or.inr rfl),
          openFrame_eq hclosed]
        simp only [hheader, afterRound, idleRound, if_true, Option.isSome_some]
      | some header =>
        obtain ⟨frameType, frameSize, payload⟩ := header
        cases hviolation : h.headerViolation streamId frameType frameSize with
        | some e =>
          rw [parseLoop_succ, parseRound_working (by exact hblocked) (Or.inr rfl),
            openFrame_eq hclosed]
          simp only [hheader, hviolation, afterRound, Option.isSome_some]
        | none =>
          have hlt := length_readFrameHeader hheader
          rw [parseLoop_succ, parseRound_opened hblocked hclosed hheader hviolation,
            ← parseLoop_succ]
          refine consumeFrame_returns (by exact hblocked) (by exact hs.coherent.capsules)
            (by exact hs.nonBlocking) rfl rfl
            (fun hrest => hends (.opened hclosed hheader hviolation hrest)) ?_ ih
          omega
    · refine consumeFrame_returns hblocked hs.coherent.capsules hs.nonBlocking htype hsize hends
        ?_ ih
      omega

theorem parseLoop_isSome (hs : Sound streamId (h, stream))
    (hends : ¬(streamEnded = true ∧ EndsInData streamId h stream stream.buffer))
    (hrounds : stream.buffer.length < rounds) :
    (parseLoop streamId streamEnded rounds h stream).isSome = true := by
  cases streamEnded with
  | true =>
    have hdata : ¬EndsInData streamId h stream stream.buffer := fun hdata => hends ⟨rfl, hdata⟩
    exact parseLoop_returns h stream stream.buffer hrounds hs hdata
  | false =>
    have hagrees := parseLoop_agrees streamId rounds h stream stream.buffer hrounds hs
    cases hadvance : (frameParser Q streamId).advance 1 (h, stream) stream.buffer with
    | error e =>
      rw [hadvance] at hagrees
      obtain ⟨h', heq⟩ := hagrees
      exact Option.isSome_iff_exists.mpr ⟨_, heq⟩
    | ok p =>
      rw [hadvance] at hagrees
      obtain ⟨effects, heq⟩ := hagrees
      exact Option.isSome_iff_exists.mpr ⟨_, heq⟩

theorem not_endsInData_of_isSome (hs : Sound streamId (h, stream))
    (hsome : (parseLoop streamId streamEnded rounds h stream).isSome = true) :
    ¬(streamEnded = true ∧ EndsInData streamId h stream stream.buffer) := by
  rintro ⟨rfl, hends⟩
  have hnone := hends.diverges hs.coherent.notBlocked hs.coherent.capsules hs.nonBlocking rounds
  rw [hsome] at hnone
  cases hnone

/-! ## Every state of a stream -/

/-- The states of the layer after a bidirectional stream has been opened by
the peer or bound to a request and any chunks have come, with FIN or
without. What the layer does for other streams leaves this one alone. -/
inductive Delivered (streamId : StreamId) : H3 Q → Prop where
  | opened (h : H3 Q) : Delivered streamId (h.handleStreamOpened streamId).1
  | bound (h : H3 Q) : Delivered streamId (h.bindConnectStream streamId).1
  | received {h h' : H3 Q} {data : Bytes} {endStream : Bool} {outcome : Outcome} :
      Delivered streamId h →
      h.recvRequestData streamId data endStream = some (h', .ok outcome) → Delivered streamId h'
  | elsewhere {h h' : H3 Q} : Delivered streamId h →
      h'.streams.get? streamId = h.streams.get? streamId →
      h'.maxCapsuleSize = h.maxCapsuleSize → Delivered streamId h'

theorem Delivered.invariant (hQ : Q.NonBlocking) (hd : Delivered streamId h) :
    ∀ s, h.streams.get? streamId = some s → Kept h.maxCapsuleSize streamId s := by
  induction hd with
  | opened h =>
    intro s hs
    simp only [handleStreamOpened, OrderedMap.get?_insert_self, Option.some.injEq] at hs
    subst hs
    exact kept_empty
  | bound h =>
    intro s hs
    simp only [bindConnectStream, OrderedMap.get?_insert_self, Option.some.injEq] at hs
    subst hs
    exact ⟨⟨rfl, Or.inl rfl, rfl⟩, fun _ => rfl⟩
  | received _ hrecv ih =>
    obtain ⟨hmax, hstored⟩ := recvRequestData_kept hQ ih hrecv
    intro s hs
    rw [hmax]
    exact (hstored s hs).1
  | elsewhere _ hget hmax ih =>
    rw [hget, hmax]
    exact ih

/-- The loop of `parse_stream_data`, if the chunk gets there, is over after
some number of rounds. -/
def FrameLoopEnds (h : H3 Q) (streamId : StreamId) (data : Bytes) (endStream : Bool) : Prop :=
  ∀ stream, h.identifyRequest (h.feedStream streamId data endStream) = .request stream →
    ∃ rounds,
      (parseLoop streamId stream.ended rounds (h.withoutStream streamId) stream).isSome = true

/-- The stream is at its end, and its bytes end in a DATA frame. -/
def FinInsideData (h : H3 Q) (streamId : StreamId) (data : Bytes) (endStream : Bool) : Prop :=
  let fed := h.feedStream streamId data endStream
  fed.ended = true ∧ ∃ stream, h.identifyRequest fed = .request stream ∧
    EndsInData streamId (h.withoutStream streamId) stream stream.buffer

/-- The loop ends and `recv_request_data` returns, for every chunk that does
not leave a stream that is over within a DATA frame. -/
theorem frame_loop_ends_iff (hQ : Q.NonBlocking) {streamId : StreamId} {h : H3 Q}
    (hd : Delivered streamId h) (data : Bytes) (endStream : Bool) :
    (h.FrameLoopEnds streamId data endStream ↔ ¬h.FinInsideData streamId data endStream) ∧
    ((h.recvRequestData streamId data endStream).isSome = true ↔
      ¬h.FinInsideData streamId data endStream) := by
  have hfed := feedStream_kept (hd.invariant hQ) data endStream
  have hwithout : ∀ fed, ({ h with streams := h.streams.erase streamId } : H3 Q).identifyRequest fed =
      h.identifyRequest fed := fun _ => rfl
  simp only [FrameLoopEnds, FinInsideData, recvRequestData, hwithout]
  generalize h.feedStream streamId data endStream = fed at hfed ⊢
  have hkind := identifyRequest_kept (h := h) hfed
  cases hidentify : h.identifyRequest fed with
  | incomplete | webtransport stream | refused => simp
  | request stream =>
    rw [hidentify] at hkind
    obtain ⟨hkept, hended⟩ := hkind
    have hs : Sound streamId (h.withoutStream streamId, stream) :=
      ⟨hkept.coherent, fun _ => hQ⟩
    have hblocked : stream.blocked = false := hs.coherent.notBlocked
    have hparse : (({ h with streams := h.streams.erase streamId } : H3 Q).parseStreamData
        streamId stream stream.ended).isSome = (parseLoop streamId stream.ended
          (stream.buffer.length + 2) (h.withoutStream streamId) stream).isSome := by
      simp only [parseStreamData, hblocked, Bool.false_eq_true, if_false, withoutStream]
    simp only [RequestKind.request.injEq, exists_eq_left', forall_eq', Option.isSome_map, hparse,
      ← hended]
    refine ⟨⟨?_, fun hends => ⟨_, parseLoop_isSome hs hends (Nat.lt_succ_self _)⟩⟩,
      ⟨not_endsInData_of_isSome hs, fun hends => parseLoop_isSome hs hends (by omega)⟩⟩
    rintro ⟨rounds, hsome⟩
    exact not_endsInData_of_isSome hs hsome

/-- The client's end of the stream, when the first byte of a DATA frame of
five has come with FIN. -/
def sampleCutOff : H3Stream where
  buffer := [0x00, 0x05, 0x01]
  ended := true
  isConnectStream := true
  isRequestStream := true

theorem endsInData_sampleCutOff :
    EndsInData 0 (sampleClient.withoutStream 0) sampleCutOff sampleCutOff.buffer := by
  have hheader : readFrameHeader sampleCutOff.buffer = some (h3FrameTypeData, 5, [0x01]) := by
    decide
  exact .opened rfl hheader rfl (.inside rfl rfl (by decide) rfl)

/-- FIN in the middle of a DATA frame, and the loop goes on for ever. -/
theorem fin_inside_data_never_ends :
    Delivered 0 sampleClient ∧
    sampleClient.recvRequestData 0 [0x00, 0x05, 0x01] true = none ∧
    sampleClient.identifyRequest (sampleClient.feedStream 0 [0x00, 0x05, 0x01] true) =
      .request sampleCutOff ∧
    ∀ rounds, (parseLoop 0 true rounds (sampleClient.withoutStream 0) sampleCutOff).isSome =
      false :=
  ⟨Delivered.bound _, rfl, rfl,
    endsInData_sampleCutOff.diverges rfl rfl fun _ => plainQpack_nonBlocking⟩

theorem frame_loop_ends_response :
    (sampleClient.FrameLoopEnds 0 greasedResponse true ↔
      ¬sampleClient.FinInsideData 0 greasedResponse true) ∧
    ((sampleClient.recvRequestData 0 greasedResponse true).isSome = true ↔
      ¬sampleClient.FinInsideData 0 greasedResponse true) :=
  frame_loop_ends_iff plainQpack_nonBlocking (Delivered.bound _) greasedResponse true

end H3

end PyWebTransport

/-
PyWebTransport.Protocol.H3.FrameLoop — the loop of `parse_stream_data`
against the frame parser.

The loop takes a DATA frame in pieces as large as the buffer allows, the
parser byte by byte. A piece is as good as its bytes (`advance_data`),
because the capsule parser behind it is incremental too. One run of the
loop without FIN is then one feeding of the parser (`parseLoop_agrees`): it
returns, with the same error or the same events, and leaves the same stream.
-/
import PyWebTransport.Protocol.H3.FrameParser

namespace PyWebTransport

open PyWebTransport.Lib

namespace H3

variable {Q : Qpack} {streamId : StreamId} {streamEnded : Bool} {h h' : H3 Q} {stream : H3Stream}
  {frameType frameSize : Nat} {fuel : Nat} {outcome : Outcome} {stream' : H3Stream}
  {result : RoundResult}

/-! ## The pieces of a DATA frame -/

theorem not_isForbiddenRequestFrame_data : isForbiddenRequestFrame h3FrameTypeData = false := by
  decide

theorem handleRequestFrame_data {payload : Bytes} :
    h.handleRequestFrame streamId stream h3FrameTypeData payload =
      (h, h.handleDataFrame streamId stream payload) := by
  simp [handleRequestFrame, not_isForbiddenRequestFrame_data]

/-- The moves over the first `count` bytes of an open DATA frame. -/
theorem advance_data :
    ∀ (count : Nat) {stream : H3Stream} {frameSize : Nat} {input : Bytes},
      stream.frameType = some h3FrameTypeData → stream.frameSize = some frameSize →
      0 < count → count ≤ frameSize → count ≤ input.length →
      (frameParser Q streamId).advance 1 (h, stream) input =
        (h.handleDataFrame streamId { stream with frameSize := some (frameSize - count) }
          (input.take count)).bind fun p =>
            ((frameParser Q streamId).advance 1
              (h, if count = frameSize then closeFrame p.1 h3FrameTypeData else p.1)
              (input.drop count)).map (Incremental.prepend p.2.1)
  | 0, _, _, _, _, _, hpos, _, _ => absurd hpos (Nat.lt_irrefl 0)
  | count + 1, stream, frameSize, [], _, _, _, _, hle => absurd hle (by simp)
  | count + 1, stream, frameSize, byte :: rest, htype, hsize, _, hframe, hlen => by
      have hstep : (frameParser Q streamId).step (h, stream) (byte :: rest) =
          some (passOn streamId (h, stream) h3FrameTypeData frameSize [byte] rest false) := by
        show parserStep streamId (h, stream) (byte :: rest) = _
        rw [parserStep_open htype hsize]
        simp only [frameStep, if_true]
      have hpass : passOn streamId (h, stream) h3FrameTypeData frameSize [byte] rest false =
          (h.handleDataFrame streamId { stream with frameSize := some (frameSize - 1) } [byte]).map
            fun p => ⟨(h, if 1 = frameSize then closeFrame p.1 h3FrameTypeData else p.1), rest,
              p.2.1, false⟩ := by
        simp only [passOn, handleRequestFrame_data, List.length_singleton]
      rw [hpass] at hstep
      have hfirst : (frameParser Q streamId).advance 1 (h, stream) (byte :: rest) =
          (h.handleDataFrame streamId { stream with frameSize := some (frameSize - 1) } [byte]).bind
            fun p => ((frameParser Q streamId).advance 1
              (h, if 1 = frameSize then closeFrame p.1 h3FrameTypeData else p.1) rest).map
                (Incremental.prepend p.2.1) := by
        cases hhandled : h.handleDataFrame streamId
            { stream with frameSize := some (frameSize - 1) } [byte] with
        | error e =>
          rw [hhandled] at hstep
          exact (frameParser Q streamId).advance_of_error hstep 0
        | ok p =>
          rw [hhandled] at hstep
          exact (frameParser Q streamId).advance_of_ok hstep 0
      rw [hfirst]
      cases count with
      | zero => simp only [Nat.zero_add, List.take_succ_cons, List.take_zero, List.drop_succ_cons,
          List.drop_zero]
      | succ count =>
        -- the frame stays open behind the first byte, and the rest is shorter
        have hopen : 1 ≠ frameSize := by omega
        simp only [if_neg hopen, List.take_succ_cons, List.drop_succ_cons]
        rw [handleDataFrame_inert (inert_frameSize (some (frameSize - 1))) h streamId stream [byte],
          handleDataFrame_cons byte (rest.take (count + 1))]
        cases hhandled : h.handleDataFrame streamId stream [byte] with
        | error e => rfl
        | ok p =>
          obtain ⟨capsuleBuffer, hp, -⟩ := handleDataFrame_shape hhandled
          have hlast : (count + 1 + 1 = frameSize) = (count + 1 = frameSize - 1) :=
            propext (by omega)
          have hleft : frameSize - (count + 1 + 1) = frameSize - 1 - (count + 1) := by omega
          simp only [Except.map, Except.bind]
          rw [advance_data (count + 1) (by rw [hp]; exact htype) rfl
            (Nat.succ_pos _) (by omega) (by simpa using hlen)]
          simp only [hlast, hleft]
          cases h.handleDataFrame streamId
              { p.1 with frameSize := some (frameSize - 1 - (count + 1)) }
              (rest.take (count + 1)) with
          | error e => rfl
          | ok q => exact Incremental.map_prepend_prepend _ _ _

/-! ## The loop -/

/-- What the loop does with a round. -/
def afterRound (streamId : StreamId) (streamEnded : Bool) (fuel : Nat)
    (round : H3 Q × Except WebTransportError RoundResult) :
    Option (H3 Q × Except WebTransportError (H3Stream × Outcome)) :=
  match round.2 with
  | .error e => some (round.1, .error e)
  | .ok result =>
    if result.isDone then some (round.1, .ok (result.stream, result.outcome))
    else
      (parseLoop streamId streamEnded fuel round.1 result.stream).map fun others =>
        (others.1, others.2.map fun (stream, outcome) =>
          (stream, result.outcome.1 ++ outcome.1, result.outcome.2 ++ outcome.2))

theorem parseLoop_succ :
    parseLoop streamId streamEnded (fuel + 1) h stream =
      afterRound streamId streamEnded fuel (h.parseRound streamId stream streamEnded) :=
  rfl

/-- With bytes left, or after FIN, a round opens a frame and works on it. -/
theorem parseRound_working (hblocked : stream.blocked = false)
    (hmore : stream.buffer.isEmpty = false ∨ streamEnded = true) :
    h.parseRound streamId stream streamEnded =
      match h.openFrame streamId stream with
      | .error e => (h, .error e)
      | .ok none => (h, .ok (idleRound stream))
      | .ok (some opened) => h.consumeFrame streamId opened streamEnded := by
  unfold parseRound
  rw [if_neg (by simp [hblocked])]
  exact if_neg (by rcases hmore with h | h <;> simp [h])

/-- The loop returns, with what the parser comes to. -/
def Agrees (result : Option (H3 Q × Except WebTransportError (H3Stream × Outcome))) :
    Except WebTransportError (ParserState Q × Bytes × List ProtocolEvent) → Prop
  | .error e => ∃ h, result = some (h, .error e)
  | .ok p => ∃ effects, result = some (p.1.1, .ok ({ p.1.2 with buffer := p.2.1 }, p.2.2, effects))

theorem Agrees.afterRound
    {a : Except WebTransportError (ParserState Q × Bytes × List ProtocolEvent)}
    (hagrees : Agrees (parseLoop streamId streamEnded fuel h stream) a) :
    Agrees (afterRound streamId streamEnded fuel (h, .ok ⟨stream, outcome, false⟩))
      (a.map (Incremental.prepend outcome.1)) := by
  cases a with
  | error e =>
    obtain ⟨h', heq⟩ := hagrees
    exact ⟨h', by simp [H3.afterRound, heq, Except.map]⟩
  | ok p =>
    obtain ⟨effects, heq⟩ := hagrees
    exact ⟨outcome.2 ++ effects, by simp [H3.afterRound, heq, Except.map, Incremental.prepend]⟩

/-- Passing on a piece of the open frame, seen without the buffer. -/
theorem consumeFrame_pass (h : H3 Q) (streamId : StreamId)
    (htype : stream.frameType = some frameType) (hsize : stream.frameSize = some frameSize)
    (input : Bytes) (streamEnded : Bool) {count : Nat} (hcount : count = min frameSize input.length)
    (hpass : ¬(frameType ≠ h3FrameTypeData ∧ count < frameSize)) :
    h.consumeFrame streamId { stream with buffer := input } streamEnded =
      ((h.handleRequestFrame streamId { stream with frameSize := some (frameSize - count) }
          frameType (input.take count)).1,
        (h.handleRequestFrame streamId { stream with frameSize := some (frameSize - count) }
          frameType (input.take count)).2.map fun p =>
            ⟨{ (if count = frameSize then closeFrame p.1 frameType else p.1) with
                buffer := input.drop count }, p.2, decide (count = 0) && !streamEnded⟩) := by
  subst hcount
  simp only [consumeFrame, htype, hsize, if_neg hpass]
  have hbuffer := handleRequestFrame_inert (inert_buffer (input.drop (min frameSize input.length)))
    h streamId { stream with frameSize := some (frameSize - min frameSize input.length) } frameType
    (input.take (min frameSize input.length))
  simp only [htype] at hbuffer
  simp only [hbuffer]
  generalize h.handleRequestFrame streamId _ frameType _ = handled
  cases handled.2 with
  | error e => rfl
  | ok p =>
    simp only [Except.map]
    split
    · rfl
    · rfl

/-- A round on an open frame, given the loop on what the round leaves. -/
theorem consumeFrame_agrees (hs : Sound streamId (h, stream))
    (htype : stream.frameType = some frameType) (hsize : stream.frameSize = some frameSize)
    (hpos : 0 < frameSize) {input : Bytes} (hfuel : input.length ≤ fuel)
    (ih : ∀ (h' : H3 Q) (stream' : H3Stream) (rest : Bytes), rest.length < fuel →
      Sound streamId (h', stream') →
      Agrees (parseLoop streamId false fuel h' { stream' with buffer := rest })
        ((frameParser Q streamId).advance 1 (h', stream') rest)) :
    Agrees (afterRound streamId false fuel
        (h.consumeFrame streamId { stream with buffer := input } false))
      ((frameParser Q streamId).advance 1 (h, stream) input) := by
  have hstep : (frameParser Q streamId).step (h, stream) input =
      frameStep streamId (h, stream) frameType frameSize input :=
    parserStep_open htype hsize input
  by_cases hdata : frameType = h3FrameTypeData
  · subst hdata
    rw [consumeFrame_pass h streamId htype hsize input false rfl (by simp),
      handleRequestFrame_data]
    cases input with
    | nil =>
      -- nothing has come: the capsule buffer holds no capsule, so nothing happens
      have hnothing : h.handleDataFrame streamId { stream with frameSize := some frameSize } [] =
          .ok ({ stream with frameSize := some frameSize }, [], []) := by
        rw [handleDataFrame_eq]
        split
        · simp only [List.append_nil]
          rw [hs.coherent.capsules]
          rfl
        · rfl
      rw [(frameParser Q streamId).advance_of_idle ((frameParser Q streamId).idle_nil _)]
      have hopen : 0 ≠ frameSize := by omega
      simp only [List.length_nil, Nat.min_zero, Nat.sub_zero, List.take_nil, hnothing, Except.map,
        if_neg hopen, List.drop_nil]
      exact ⟨[], by simp [afterRound, ← hsize]⟩
    | cons byte rest =>
      have hsome : 0 < min frameSize (byte :: rest).length := by
        simp only [List.length_cons]
        omega
      rw [advance_data _ htype hsize hsome (Nat.min_le_left _ _)
        (Nat.min_le_right _ _)]
      generalize hcount : min frameSize (byte :: rest).length = count at hsome ⊢
      have hmore : decide (count = 0) = false := by simp; omega
      cases hhandled : h.handleDataFrame streamId
          { stream with frameSize := some (frameSize - count) } ((byte :: rest).take count) with
      | error e => exact ⟨h, rfl⟩
      | ok p =>
        simp only [Except.map, Except.bind, hmore, Bool.false_and]
        refine Agrees.afterRound (ih _ _ _ ?_ ?_)
        · rw [List.length_drop]
          omega
        · have hle : count ≤ frameSize := by omega
          have hrequest : (h.handleRequestFrame streamId
              { stream with frameSize := some (frameSize - count) } h3FrameTypeData
              ((byte :: rest).take count)).2 = .ok p := by
            rw [handleRequestFrame_data]
            exact hhandled
          have hnext := handled_ok hs.coherent.notBlocked hs.coherent.capsules hs.nonBlocking
            htype hle hrequest
          rw [handleRequestFrame_data] at hnext
          exact hnext.1
  · by_cases hshort : input.length < frameSize
    · -- the frame is not there whole yet
      have hround : h.consumeFrame streamId { stream with buffer := input } false =
          (h, .ok (idleRound { stream with buffer := input })) := by
        have hmin : min frameSize input.length < frameSize := by omega
        simp only [consumeFrame, htype, hsize, if_pos (And.intro hdata hmin)]
      have hidle : frameStep streamId (h, stream) frameType frameSize input = none := by
        cases input with
        | nil => rfl
        | cons byte rest => simp only [frameStep, if_neg hdata, hshort, or_true, if_true]
      rw [hround, (frameParser Q streamId).advance_of_idle (hstep.trans hidle)]
      exact ⟨[], rfl⟩
    · have hcount : frameSize = min frameSize input.length := by omega
      have hlen : (input.take frameSize).length = frameSize := by
        rw [List.length_take]
        omega
      have hmove : frameStep streamId (h, stream) frameType frameSize input =
          some (passOn streamId (h, stream) frameType frameSize (input.take frameSize)
            (input.drop frameSize) false) := by
        cases input with
        | nil =>
          simp only [List.length_nil] at hshort
          omega
        | cons byte rest =>
          have hwhole : ¬(frameSize = 0 ∨ (byte :: rest).length < frameSize) := by omega
          simp only [frameStep, if_neg hdata, if_neg hwhole]
      rw [consumeFrame_pass h streamId htype hsize input false hcount (by simp)]
      rw [hmove] at hstep
      simp only [passOn, hlen] at hstep
      cases hhandled : (h.handleRequestFrame streamId
          { stream with frameSize := some (frameSize - frameSize) } frameType
          (input.take frameSize)).2 with
      | error e =>
        rw [hhandled] at hstep
        rw [(frameParser Q streamId).advance_of_error hstep]
        exact ⟨_, rfl⟩
      | ok p =>
        rw [hhandled] at hstep
        rw [(frameParser Q streamId).advance_of_ok hstep]
        have hmore : decide (frameSize = 0) = false := by simp; omega
        simp only [Except.map, hmore, Bool.false_and]
        refine Agrees.afterRound (ih _ _ _ ?_ ?_)
        · rw [List.length_drop]
          omega
        · simpa only [if_true] using (handled_ok hs.coherent.notBlocked hs.coherent.capsules
            hs.nonBlocking htype (Nat.le_refl _) hhandled).1

/-- One run of the loop without FIN is one feeding of the parser. -/
theorem parseLoop_agrees (streamId : StreamId) :
    ∀ (fuel : Nat) (h : H3 Q) (stream : H3Stream) (input : Bytes), input.length < fuel →
      Sound streamId (h, stream) →
      Agrees (parseLoop streamId false fuel h { stream with buffer := input })
        ((frameParser Q streamId).advance 1 (h, stream) input)
  | 0, _, _, _, hfuel, _ => absurd hfuel (Nat.not_lt_zero _)
  | fuel + 1, h, stream, [], _, hs => by
      rw [(frameParser Q streamId).advance_of_idle ((frameParser Q streamId).idle_nil _)]
      have hblocked : stream.blocked = false := hs.coherent.notBlocked
      exact ⟨[], by simp [parseLoop, parseRound, hblocked, idleRound]⟩
  | fuel + 1, h, stream, byte :: rest, hfuel, hs => by
      have ih := fun h' stream' rest' => parseLoop_agrees streamId fuel h' stream' rest'
      have hblocked : stream.blocked = false := hs.coherent.notBlocked
      rw [parseLoop_succ, parseRound_working (by exact hblocked) (Or.inl rfl)]
      rcases hs.coherent.frame with hclosed | ⟨frameType, frameSize, htype, hsize, hpos⟩
      · have hstep : (frameParser Q streamId).step (h, stream) (byte :: rest) =
            openStep streamId (h, stream) (byte :: rest) := parserStep_closed hclosed _
        rw [openFrame_eq hclosed]
        unfold openStep at hstep
        cases hheader : readFrameHeader (byte :: rest) with
        | none =>
          simp only [hheader] at hstep
          rw [(frameParser Q streamId).advance_of_idle hstep]
          exact ⟨[], rfl⟩
        | some header =>
          obtain ⟨frameType, frameSize, payload⟩ := header
          have hlt := length_readFrameHeader hheader
          simp only [hheader] at hstep ⊢
          cases hviolation : h.headerViolation streamId frameType frameSize with
          | some e =>
            simp only [hviolation] at hstep ⊢
            rw [(frameParser Q streamId).advance_of_error hstep]
            exact ⟨h, rfl⟩
          | none =>
            simp only [hviolation] at hstep ⊢
            by_cases hzero : frameSize = 0
            · -- an empty frame is passed on, and ends the loop
              subst hzero
              have hopened : (withFrame stream frameType 0).frameType = some frameType := rfl
              rw [consumeFrame_pass h streamId hopened rfl payload false
                (Nat.zero_min _).symm (by simp)]
              simp only [if_true, passOn, List.length_nil] at hstep
              simp only [List.take_zero, List.drop_zero]
              cases hhandled : (h.handleRequestFrame streamId
                  { withFrame stream frameType 0 with frameSize := some (0 - 0) }
                  frameType []).2 with
              | error e =>
                rw [hhandled] at hstep
                rw [(frameParser Q streamId).advance_of_error hstep]
                exact ⟨_, rfl⟩
              | ok p =>
                rw [hhandled] at hstep
                rw [(frameParser Q streamId).advance_of_ok hstep]
                simp only [if_true, Incremental.advance_zero, Except.map, Incremental.prepend,
                  List.append_nil]
                exact ⟨p.2.2, rfl⟩
            · rw [if_neg hzero] at hstep
              rw [(frameParser Q streamId).advance_of_ok hstep]
              simp only [Bool.false_eq_true, if_false, Incremental.map_prepend_nil]
              have hpos : 0 < frameSize := Nat.pos_of_ne_zero hzero
              have hsound : Sound streamId (h, withFrame stream frameType frameSize) :=
                ⟨⟨hblocked, Or.inr ⟨frameType, frameSize, rfl, rfl, hpos⟩,
                  hs.coherent.capsules⟩, hs.nonBlocking⟩
              have hle : payload.length ≤ fuel := by omega
              exact consumeFrame_agrees hsound rfl rfl hpos hle ih
      · have hopened : h.openFrame streamId { stream with buffer := byte :: rest } =
            .ok (some { stream with buffer := byte :: rest }) := by
          rw [openFrame, if_pos (Option.isSome_iff_exists.mpr ⟨frameType, htype⟩)]
        rw [hopened]
        exact consumeFrame_agrees hs htype hsize hpos (by omega) ih

/-! ## What the loop preserves -/

/-- The layer and the stream without its buffer, as the parser sees them. -/
def unbuffered (h : H3 Q) (stream : H3Stream) : ParserState Q := (h, { stream with buffer := [] })

/-- A run of the loop, or of one round of it, keeps the stream coherent and
all that the parser keeps. -/
structure Keeps (streamId : StreamId) (h : H3 Q) (stream : H3Stream) (h' : H3 Q)
    (stream' : H3Stream) : Prop where
  sound : Sound streamId (h', stream')
  tracks : Tracks (unbuffered h stream) (unbuffered h' stream')

theorem Keeps.trans {h'' : H3 Q} {stream'' : H3Stream} (hfirst : Keeps streamId h stream h' stream')
    (hnext : Keeps streamId h' stream' h'' stream'') : Keeps streamId h stream h'' stream'' :=
  ⟨hnext.sound, hfirst.tracks.trans hnext.tracks⟩

/-- A round on an open frame, which may be an empty one. -/
theorem consumeFrame_keeps (hblocked : stream.blocked = false)
    (hcapsules : drainCapsules h.maxCapsuleSize streamId stream.capsuleBuffer =
      .ok (stream.capsuleBuffer, [])) (hQ : stream.headersProcessed = false → Q.NonBlocking)
    (htype : stream.frameType = some frameType) (hsize : stream.frameSize = some frameSize)
    (hround : h.consumeFrame streamId stream streamEnded = (h', .ok result)) :
    Keeps streamId h stream h' result.stream := by
  by_cases hshort : frameType ≠ h3FrameTypeData ∧ min frameSize stream.buffer.length < frameSize
  · simp only [consumeFrame, htype, hsize, if_pos hshort] at hround
    cases hround
    have hpos : 0 < frameSize := by omega
    exact ⟨⟨⟨hblocked, Or.inr ⟨frameType, frameSize, htype, hsize, hpos⟩, hcapsules⟩, hQ⟩,
      Tracks.refl _⟩
  · have hpass := consumeFrame_pass h streamId htype hsize stream.buffer streamEnded rfl hshort
    rw [hround] at hpass
    obtain ⟨rfl, hresult⟩ := Prod.mk.inj hpass
    obtain ⟨p, hhandled, rfl⟩ := exists_of_map_eq_ok hresult.symm
    obtain ⟨hsound, htracks⟩ := handled_ok (s := (h, stream)) hblocked hcapsules hQ htype
      (Nat.min_le_left frameSize stream.buffer.length) hhandled
    exact ⟨⟨⟨hsound.coherent.notBlocked, hsound.coherent.frame, hsound.coherent.capsules⟩,
        hsound.nonBlocking⟩,
      ⟨htracks.layer, rfl, htracks.ended, htracks.streamType, htracks.isRequestStream,
        htracks.isConnectStream, htracks.headersProcessed⟩⟩

theorem parseRound_keeps (hs : Sound streamId (h, stream))
    (hround : h.parseRound streamId stream streamEnded = (h', .ok result)) :
    Keeps streamId h stream h' result.stream := by
  have hblocked : stream.blocked = false := hs.coherent.notBlocked
  simp only [parseRound, hblocked, Bool.false_eq_true, if_false] at hround
  split at hround
  · cases hround
    exact ⟨hs, Tracks.refl _⟩
  · rcases hs.coherent.frame with hclosed | ⟨frameType, frameSize, htype, hsize, -⟩
    · rw [openFrame_eq hclosed stream.buffer] at hround
      cases hheader : readFrameHeader stream.buffer with
      | none =>
        simp only [hheader] at hround
        cases hround
        exact ⟨hs, Tracks.refl _⟩
      | some header =>
        obtain ⟨frameType, frameSize, payload⟩ := header
        simp only [hheader] at hround
        cases hviolation : h.headerViolation streamId frameType frameSize with
        | some e =>
          simp only [hviolation] at hround
          cases hround
        | none =>
          simp only [hviolation] at hround
          have hopened : Tracks (unbuffered h stream)
              (unbuffered h { withFrame stream frameType frameSize with buffer := payload }) :=
            ⟨⟨h.decoder, rfl⟩, rfl, rfl, rfl, rfl, id, id⟩
          have hkeeps := consumeFrame_keeps (by exact hblocked)
            (by exact hs.coherent.capsules) (by exact hs.nonBlocking) rfl rfl hround
          exact ⟨hkeeps.sound, hopened.trans hkeeps.tracks⟩
    · have hopened : h.openFrame streamId stream = .ok (some stream) := by
        rw [openFrame, if_pos (Option.isSome_iff_exists.mpr ⟨frameType, htype⟩)]
      rw [hopened] at hround
      exact consumeFrame_keeps hblocked hs.coherent.capsules hs.nonBlocking htype hsize hround

theorem parseLoop_keeps :
    ∀ {h h' : H3 Q} {stream stream' : H3Stream} {outcome : Outcome},
      Sound streamId (h, stream) →
      parseLoop streamId streamEnded fuel h stream = some (h', .ok (stream', outcome)) →
      Keeps streamId h stream h' stream' := by
  induction fuel with
  | zero =>
    intro h h' stream stream' outcome _ hloop
    cases hloop
  | succ fuel ih =>
    intro h h' stream stream' outcome hs hloop
    rw [parseLoop_succ] at hloop
    cases hround : h.parseRound streamId stream streamEnded with
    | mk next result =>
      rw [hround] at hloop
      cases result with
      | error e => cases hloop
      | ok result =>
        have hkeeps := parseRound_keeps hs hround
        simp only [afterRound] at hloop
        split at hloop
        · cases hloop
          exact hkeeps
        · obtain ⟨⟨last, left⟩, hothers, heq⟩ := Option.map_eq_some_iff.mp hloop
          cases left with
          | error e => cases heq
          | ok left =>
            cases heq
            exact hkeeps.trans (ih hkeeps.sound hothers)

/-- What `parse_stream_data` leaves of a stream, with or without FIN. -/
theorem parseStreamData_keeps (hs : Sound streamId (h, stream))
    (hparse : h.parseStreamData streamId stream streamEnded = some (h', .ok (stream', outcome))) :
    Keeps streamId h stream h' stream' := by
  have hblocked : stream.blocked = false := hs.coherent.notBlocked
  simp only [parseStreamData, hblocked, Bool.false_eq_true, if_false] at hparse
  exact parseLoop_keeps hs hparse

end H3

end PyWebTransport

/-
PyWebTransport.Protocol.H3.BoundedBuffers — how much the HTTP/3 layer can be
made to buffer.

A frame or capsule that is not there whole is kept until the rest of it
comes, so the sizes a peer may announce bound what the layer keeps. The two
frame loops check the announced size, and two things escape:

* on the control stream, a HEADERS frame may announce any size, although it
  is refused once it is there whole (`headers_fill_control_stream`);
* on a request stream, the loop stops behind an empty frame, and keeps
  whatever bytes came behind it, as large as the chunk was.

`Orderly` excludes these two, as a condition on the bytes a call starts
with. `buffers_bounded` says that nothing else escapes: in every run of
orderly calls each stream keeps at most one incomplete frame and one
incomplete capsule.
-/
import PyWebTransport.Protocol.H3.ControlPlaneRuns

namespace PyWebTransport

open PyWebTransport.Lib

namespace H3

variable {Q : Qpack} {buffer payload data : Bytes} {frameType frameSize limit : Nat}
  {streamId : StreamId} {connection : Connection} {streamEnded endStream : Bool} {s : H3Stream}
  {h h' : H3 Q} {maxCapsuleSize streamType : Nat} {result : RoundResult} {joined : H3 Q}
  {fed stream : H3Stream} {outcome : Outcome} {event : ProtocolEvent} {isClient : Bool}
  {parameters : H3Parameters} {calls : List (Call Q)}

/-! ## What a header takes up -/

theorem length_of_readFrameHeader_none (h : readFrameHeader buffer = none) :
    buffer.length < 16 := by
  unfold readFrameHeader at h
  cases hfirst : readVarint buffer with
  | error e =>
    have hlen := length_of_readVarint_error hfirst
    omega
  | ok first =>
    simp only [hfirst] at h
    have hused := length_le_of_readVarint hfirst
    cases hsecond : readVarint first.2 with
    | error e =>
      have hlen := length_of_readVarint_error hsecond
      omega
    | ok second =>
      simp only [hsecond] at h
      cases h

theorem length_le_of_readFrameHeader
    (h : readFrameHeader buffer = some (frameType, frameSize, payload)) :
    buffer.length ≤ payload.length + 16 := by
  obtain ⟨rest, hfirst, hsecond⟩ := readFrameHeader_ok h
  have hused := length_le_of_readVarint hfirst
  have hused' := length_le_of_readVarint hsecond
  omega

/-- What is left of the capsules is less than one of them. -/
theorem length_of_drainCapsules
    (h : drainCapsules maxCapsuleSize streamId buffer = .ok (buffer, [])) :
    buffer.length ≤ 16 + maxCapsuleSize := by
  rw [drainCapsules_eq_advance] at h
  cases hstep : (capsuleParser maxCapsuleSize streamId).step () buffer with
  | none =>
    have hidle : capsuleStep maxCapsuleSize streamId buffer = none := hstep
    unfold capsuleStep at hidle
    cases hheader : readFrameHeader buffer with
    | none =>
      have hlen := length_of_readFrameHeader_none hheader
      omega
    | some header =>
      obtain ⟨capsuleType, capsuleLength, payload⟩ := header
      have hlen := length_le_of_readFrameHeader hheader
      simp only [hheader] at hidle
      split_ifs at hidle
      omega
  | some result =>
    cases result with
    | error e =>
      rw [(capsuleParser maxCapsuleSize streamId).advance_of_error hstep] at h
      cases h
    | ok m =>
      -- a capsule that is taken off raises an event
      have hmove : capsuleStep maxCapsuleSize streamId buffer = some (.ok m) := hstep
      unfold capsuleStep at hmove
      split at hmove
      · cases hmove
      · split_ifs at hmove
        · cases hmove
        · obtain rfl := Except.ok.inj (Option.some.inj hmove)
          rw [(capsuleParser maxCapsuleSize streamId).advance_of_ok hstep] at h
          generalize (capsuleParser maxCapsuleSize streamId).advance _ _ _ = rest at h
          cases rest <;> simp [Except.map, Incremental.prepend] at h

/-! ## The frames of a byte string -/

/-- Read frame by frame, the bytes hold the header of such a frame, and what
comes behind the header. -/
inductive HasFrame : Bytes → Nat → Nat → Bytes → Prop where
  | first {bytes payload : Bytes} {frameType frameSize : Nat}
      (header : readFrameHeader bytes = some (frameType, frameSize, payload)) :
      HasFrame bytes frameType frameSize payload
  | later {bytes payload behind : Bytes} {frameType frameSize laterType laterSize : Nat}
      (header : readFrameHeader bytes = some (frameType, frameSize, payload))
      (frame : HasFrame (payload.drop frameSize) laterType laterSize behind) :
      HasFrame bytes laterType laterSize behind

theorem not_hasFrame_nil : ¬HasFrame [] frameType frameSize payload := by
  intro h
  cases h with
  | first header | later header => cases header

/-- The largest frame that is kept until it is there whole. -/
def bufferLimit (h : H3 Q) : Nat := max controlFrameSizeLimit h.maxFieldSectionSize

/-! ## The control stream -/

/-- What the loop over a control stream leaves. -/
theorem parseControlFrames_rest (hlimit : controlFrameSizeLimit ≤ limit) :
    ∀ (fuel : Nat) {h h' : H3 Q} {buffer rest : Bytes} {outcome : Outcome},
      buffer.length ≤ fuel →
      (∀ frameSize payload, HasFrame buffer h3FrameTypeHeaders frameSize payload →
        frameSize ≤ limit) →
      parseControlFrames connection fuel h buffer = (h', .ok (rest, outcome)) →
      rest.length ≤ 16 + limit := by
  intro fuel
  induction fuel with
  | zero =>
    intro h h' buffer rest outcome hfuel _ hparse
    cases hparse
    omega
  | succ fuel ih =>
    intro h h' buffer rest outcome hfuel hframes hparse
    unfold parseControlFrames at hparse
    cases hheader : readFrameHeader buffer with
    | none =>
      simp only [hheader] at hparse
      cases hparse
      have hlen := length_of_readFrameHeader_none hheader
      omega
    | some header =>
      obtain ⟨frameType, frameSize, payload⟩ := header
      have hlen := length_le_of_readFrameHeader hheader
      have hshorter := length_readFrameHeader hheader
      simp only [hheader] at hparse
      split at hparse
      · cases hparse
      split at hparse
      · cases hparse
      rename_i hsize
      split at hparse
      · -- the frame is not there whole, and its size is within the limit
        cases hparse
        have hwithin : frameSize ≤ limit := by
          by_cases hheaders : frameType = h3FrameTypeHeaders
          · subst hheaders
            exact hframes frameSize payload (.first hheader)
          · have hsmall : ¬frameSize > controlFrameSizeLimit := fun hlarge =>
              hsize ⟨hheaders, hlarge⟩
            omega
        omega
      · generalize h.handleControlFrame frameType (payload.take frameSize) connection = handled
          at hparse
        obtain ⟨next, result⟩ := handled
        cases result with
        | error e => cases hparse
        | ok first =>
          simp only at hparse
          generalize hothers : parseControlFrames connection fuel next
            (payload.drop frameSize) = others at hparse
          obtain ⟨last, left⟩ := others
          cases left with
          | error e => cases hparse
          | ok left =>
            cases hparse
            refine ih ?_ (fun size behind hframe => ?_) hothers
            · rw [List.length_drop]
              omega
            · exact hframes size behind (.later hheader hframe)

/-! ## The frame loop of a request stream -/

/-- A frame is open or not; one that is kept until it is there whole is
within the limit. -/
def FrameWithin (limit : Nat) (s : H3Stream) : Prop :=
  (s.frameType = none ∧ s.frameSize = none) ∨
    ∃ frameType frameSize, s.frameType = some frameType ∧ s.frameSize = some frameSize ∧
      0 < frameSize ∧ (frameType ≠ h3FrameTypeData → frameSize ≤ limit)

/-- The stream between two rounds of the loop. -/
structure Looping (maxCapsuleSize limit : Nat) (streamId : StreamId) (streamEnded : Bool)
    (s : H3Stream) : Prop where
  blocked : s.blocked = false
  frame : FrameWithin limit s
  capsules : drainCapsules maxCapsuleSize streamId s.capsuleBuffer = .ok (s.capsuleBuffer, [])
  behind : streamEnded = false → ∀ frameType payload,
    HasFrame (s.buffer.drop (s.frameSize.getD 0)) frameType 0 payload → payload = []

/-- The stream when the loop is done. -/
structure Settled (maxCapsuleSize limit : Nat) (streamId : StreamId) (s : H3Stream) : Prop where
  blocked : s.blocked = false
  frame : FrameWithin limit s
  capsules : drainCapsules maxCapsuleSize streamId s.capsuleBuffer = .ok (s.capsuleBuffer, [])
  buffer : s.buffer.length ≤ 16 + limit

/-- What a round leaves, whether or not the loop is done with it. -/
def RoundSettles (maxCapsuleSize limit : Nat) (streamId : StreamId) (streamEnded : Bool)
    (result : RoundResult) : Prop :=
  if result.isDone then Settled maxCapsuleSize limit streamId result.stream
  else Looping maxCapsuleSize limit streamId streamEnded result.stream

theorem RoundSettles.idle (h : Settled maxCapsuleSize limit streamId s) :
    RoundSettles maxCapsuleSize limit streamId streamEnded (idleRound s) := h

/-- A round on an open frame, which may be an empty one. -/
theorem consumeFrame_settles (hQ : Q.NonBlocking) (hblocked : s.blocked = false)
    (htype : s.frameType = some frameType) (hsize : s.frameSize = some frameSize)
    (hwithin : frameType ≠ h3FrameTypeData → frameSize ≤ limit)
    (hcapsules : drainCapsules h.maxCapsuleSize streamId s.capsuleBuffer =
      .ok (s.capsuleBuffer, [])) (hempty : frameSize = 0 → streamEnded = false → s.buffer = [])
    (hbehind : streamEnded = false → ∀ laterType payload,
      HasFrame (s.buffer.drop frameSize) laterType 0 payload → payload = [])
    (hround : h.consumeFrame streamId s streamEnded = (h', .ok result)) :
    RoundSettles h.maxCapsuleSize limit streamId streamEnded result := by
  simp only [consumeFrame, htype, hsize] at hround
  split at hround
  · rename_i hshort
    cases hround
    have hle := hwithin hshort.1
    refine RoundSettles.idle ⟨hblocked, Or.inr ⟨frameType, frameSize, htype, hsize, ?_, hwithin⟩,
      hcapsules, ?_⟩
    · omega
    · omega
  · rename_i hpass
    generalize hcount : min frameSize s.buffer.length = count at hround hpass
    cases hhandled : (h.handleRequestFrame streamId { s with
        buffer := s.buffer.drop count
        frameSize := some (frameSize - count) } frameType (s.buffer.take count)).2 with
    | error e =>
      rw [htype] at hhandled
      rw [hhandled] at hround
      cases hround
    | ok p =>
      obtain ⟨capsuleBuffer, isConnectStream, headersProcessed, hshape, hidle, -, -⟩ :=
        handleRequestFrame_ok (fun _ => hQ) (by exact hblocked) (by exact hcapsules) hhandled
      rw [htype] at hhandled
      rw [hhandled] at hround
      simp only [Except.map, Prod.mk.injEq, Except.ok.injEq] at hround
      obtain ⟨-, rfl⟩ := hround
      have hframe : FrameWithin limit
          (if count = frameSize then closeFrame p.1 frameType else p.1) := by
        split
        · exact Or.inl ⟨rfl, rfl⟩
        · rename_i hmore
          have hless : count < frameSize := by omega
          refine Or.inr ⟨frameType, frameSize - count, ?_, ?_, by omega, fun hdata => ?_⟩
          · rw [hshape]
            exact htype
          · rw [hshape]
          · exact absurd ⟨hdata, hless⟩ hpass
      have hrest : (if count = frameSize then closeFrame p.1 frameType else p.1).buffer =
          s.buffer.drop count := by
        rw [hshape]
        split <;> rfl
      have hidle' : drainCapsules h.maxCapsuleSize streamId
          (if count = frameSize then closeFrame p.1 frameType else p.1).capsuleBuffer =
            .ok ((if count = frameSize then closeFrame p.1 frameType else p.1).capsuleBuffer,
              []) := by
        rw [hshape]
        split <;> exact hidle
      have hblocked' : (if count = frameSize then closeFrame p.1 frameType else p.1).blocked =
          false := by
        rw [hshape]
        split <;> exact hblocked
      have hclosed : count = frameSize →
          (if count = frameSize then closeFrame p.1 frameType else p.1).frameSize = none := by
        intro hwhole
        rw [if_pos hwhole]
        rfl
      generalize (if count = frameSize then closeFrame p.1 frameType else p.1) = next
        at hframe hrest hidle' hblocked' hclosed
      by_cases hdone : (decide (count = 0) && !streamEnded) = true
      · -- the loop stops behind an empty piece: the buffer was empty, or the frame was
        obtain ⟨hzero, hopen⟩ := Bool.and_eq_true_iff.mp hdone
        have hzero : count = 0 := by simpa using hzero
        have hopen : streamEnded = false := by simpa using hopen
        have hnothing : s.buffer = [] := by
          by_cases hframeSize : frameSize = 0
          · exact hempty hframeSize hopen
          · exact List.length_eq_zero_iff.mp (by omega)
        rw [RoundSettles, if_pos hdone]
        refine ⟨hblocked', hframe, hidle', ?_⟩
        rw [hrest, hnothing]
        simp
      · rw [RoundSettles, if_neg hdone]
        refine ⟨hblocked', hframe, hidle', fun hopen laterType payload hlater => ?_⟩
        rw [hrest] at hlater
        by_cases hwhole : count = frameSize
        · rw [hclosed hwhole, Option.getD_none, List.drop_zero, hwhole] at hlater
          exact hbehind hopen laterType payload hlater
        · -- a piece of a DATA frame: nothing is left
          have hall : s.buffer.drop count = [] := List.drop_of_length_le (by omega)
          rw [hall, List.drop_nil] at hlater
          exact absurd hlater not_hasFrame_nil

theorem openFrame_cases {opened : H3Stream} (hopen : h.openFrame streamId s = .ok (some opened)) :
    (s.frameType.isSome = true ∧ opened = s) ∨
    s.frameType.isSome = false ∧ ∃ frameType frameSize payload blockedFrameSize,
      readFrameHeader s.buffer = some (frameType, frameSize, payload) ∧
      (frameType ≠ h3FrameTypeData → frameSize ≤ h.bufferLimit) ∧
      opened = { s with
        frameType := some frameType
        frameSize := some frameSize
        blockedFrameSize := blockedFrameSize
        buffer := payload } := by
  unfold openFrame at hopen
  split at hopen
  · rename_i hsome
    cases hopen
    exact Or.inl ⟨hsome, rfl⟩
  · rename_i hnone
    cases hheader : readFrameHeader s.buffer with
    | none =>
      rw [hheader] at hopen
      cases hopen
    | some header =>
      obtain ⟨frameType, frameSize, payload⟩ := header
      simp only [hheader] at hopen
      split at hopen
      · cases hopen
      rename_i hfield
      split at hopen
      · cases hopen
      rename_i hcontrol
      cases hopen
      refine Or.inr ⟨by simpa using hnone, frameType, frameSize, payload, _, rfl, fun hdata => ?_,
        rfl⟩
      unfold bufferLimit
      by_cases hheaders : frameType = h3FrameTypeHeaders
      · have hle : ¬frameSize > h.maxFieldSectionSize := fun hgt => hfield ⟨hheaders, hgt⟩
        omega
      · have hle : ¬frameSize > controlFrameSizeLimit := fun hgt =>
          hcontrol ⟨hdata, hheaders, hgt⟩
        omega

/-- One round of the loop. -/
theorem parseRound_settles (hQ : Q.NonBlocking)
    (hs : Looping h.maxCapsuleSize h.bufferLimit streamId streamEnded s)
    (hround : h.parseRound streamId s streamEnded = (h', .ok result)) :
    RoundSettles h.maxCapsuleSize h.bufferLimit streamId streamEnded result := by
  unfold parseRound at hround
  rw [if_neg (by rw [hs.blocked]; exact Bool.false_ne_true)] at hround
  split at hround
  · rename_i hempty
    obtain ⟨hempty, -⟩ := Bool.and_eq_true_iff.mp hempty
    cases hround
    refine RoundSettles.idle ⟨hs.blocked, hs.frame, hs.capsules, ?_⟩
    rw [List.isEmpty_iff.mp hempty]
    simp
  · cases hopen : h.openFrame streamId s with
    | error e =>
      rw [hopen] at hround
      cases hround
    | ok next =>
      cases next with
      | none =>
        -- no frame is open, and the next header is not there whole
        rw [hopen] at hround
        cases hround
        refine RoundSettles.idle ⟨hs.blocked, hs.frame, hs.capsules, ?_⟩
        unfold openFrame at hopen
        split at hopen
        · cases hopen
        · cases hheader : readFrameHeader s.buffer with
          | none =>
            have hlen := length_of_readFrameHeader_none hheader
            omega
          | some header =>
            simp only [hheader] at hopen
            split at hopen
            · cases hopen
            split at hopen
            · cases hopen
            · cases hopen
      | some opened =>
        simp only [hopen] at hround
        rcases openFrame_cases hopen with
          ⟨hsome, rfl⟩ | ⟨hnone, frameType, frameSize, payload, blockedFrameSize, hheader,
            hwithin, rfl⟩
        · rcases hs.frame with ⟨hnone, -⟩ | ⟨frameType, frameSize, htype, hsize, hpos, hwithin⟩
          · rw [hnone] at hsome
            cases hsome
          · refine consumeFrame_settles hQ hs.blocked htype hsize hwithin hs.capsules
              (fun hzero => absurd hzero (by omega)) (fun hopen laterType payload hlater => ?_)
              hround
            refine hs.behind hopen laterType payload ?_
            rwa [hsize, Option.getD_some]
        · have hclosed : s.frameSize = none := by
            rcases hs.frame with ⟨-, hclosed⟩ | ⟨frameType, frameSize, htype, -⟩
            · exact hclosed
            · rw [htype] at hnone
              cases hnone
          have hbehind : streamEnded = false → ∀ laterType behind,
              HasFrame s.buffer laterType 0 behind → behind = [] := by
            intro hopen laterType behind hlater
            refine hs.behind hopen laterType behind ?_
            rwa [hclosed, Option.getD_none, List.drop_zero]
          exact consumeFrame_settles hQ (by exact hs.blocked) rfl rfl hwithin
            (by exact hs.capsules)
            (fun hzero hopen => hbehind hopen frameType payload (.first (hzero ▸ hheader)))
            (fun hopen laterType behind hlater =>
              hbehind hopen laterType behind (.later hheader hlater)) hround

/-- The whole loop. -/
theorem parseLoop_settles (hQ : Q.NonBlocking) (streamId : StreamId) (streamEnded : Bool) :
    ∀ (fuel : Nat) {h h' : H3 Q} {s s' : H3Stream} {outcome : Outcome},
      Looping h.maxCapsuleSize h.bufferLimit streamId streamEnded s →
      parseLoop streamId streamEnded fuel h s = some (h', .ok (s', outcome)) →
      Settled h.maxCapsuleSize h.bufferLimit streamId s' := by
  intro fuel
  induction fuel with
  | zero =>
    intro h h' s s' outcome _ hloop
    cases hloop
  | succ fuel ih =>
    intro h h' s s' outcome hs hloop
    obtain ⟨⟨decoder, hlayer⟩, -⟩ := h.parseRound_parses hQ hs.blocked
    rw [parseLoop_succ] at hloop
    cases hround : h.parseRound streamId s streamEnded with
    | mk next result =>
      rw [hround] at hlayer hloop
      cases result with
      | error e => cases hloop
      | ok result =>
        have hsettles := parseRound_settles hQ hs hround
        unfold RoundSettles at hsettles
        simp only [afterRound] at hloop
        split at hloop
        · rename_i hdone
          rw [if_pos hdone] at hsettles
          cases hloop
          exact hsettles
        · rename_i hmore
          rw [if_neg hmore] at hsettles
          obtain ⟨others, hothers, heq⟩ := Option.map_eq_some_iff.mp hloop
          obtain ⟨last, left⟩ := others
          cases left with
          | error e => cases heq
          | ok left =>
            cases heq
            have hsame : next.maxCapsuleSize = h.maxCapsuleSize ∧
                next.bufferLimit = h.bufferLimit := by
              have hnext : next = { h with decoder := decoder } := hlayer
              rw [hnext]
              exact ⟨rfl, rfl⟩
            rw [← hsame.1, ← hsame.2] at hsettles ⊢
            exact ih hsettles hothers

/-! ## The table -/

/-- The types a unidirectional stream is kept under. -/
def KnownType (streamId : StreamId) (s : H3Stream) : Prop :=
  isUnidirectionalStream streamId = true → ∀ streamType, s.streamType = some streamType →
    IsInfrastructure streamType ∨ streamType = h3StreamTypeWebtransport

/-- No stream keeps more than an incomplete frame and an incomplete capsule. -/
def TableWithin (h : H3 Q) : Prop :=
  ∀ id s, h.streams.get? id = some s →
    Settled h.maxCapsuleSize h.bufferLimit id s ∧ KnownType id s

theorem SameLimits.bufferLimit (hsame : SameLimits h h') : h'.bufferLimit = h.bufferLimit := by
  unfold H3.bufferLimit
  rw [hsame.fieldSection]

theorem settled_empty : Settled maxCapsuleSize limit streamId {} :=
  ⟨rfl, Or.inl ⟨rfl, rfl⟩, rfl, Nat.zero_le _⟩

theorem settled_connectStream : Settled maxCapsuleSize limit streamId connectStream :=
  ⟨rfl, Or.inl ⟨rfl, rfl⟩, rfl, Nat.zero_le _⟩

/-- The same stream with another buffer. -/
theorem Settled.withBuffer (hs : Settled maxCapsuleSize limit streamId s) {t : H3Stream}
    (hblocked : t.blocked = s.blocked) (htype : t.frameType = s.frameType)
    (hsize : t.frameSize = s.frameSize) (hcapsules : t.capsuleBuffer = s.capsuleBuffer)
    (hbuffer : t.buffer.length ≤ 16 + limit) : Settled maxCapsuleSize limit streamId t := by
  refine ⟨hblocked.trans hs.blocked, ?_, ?_, hbuffer⟩
  · unfold FrameWithin
    rw [htype, hsize]
    exact hs.frame
  · rw [hcapsules]
    exact hs.capsules

/-- The entry a chunk of a stream starts with. -/
theorem TableWithin.before (hin : h.TableWithin) (streamId : StreamId) :
    Settled h.maxCapsuleSize h.bufferLimit streamId ((h.streams.get? streamId).getD {}) ∧
      KnownType streamId ((h.streams.get? streamId).getD {}) := by
  cases hget : h.streams.get? streamId with
  | none => exact ⟨settled_empty, fun _ _ htype => nomatch htype⟩
  | some s => exact hin streamId s hget

/-! ## Orderly calls -/

/-- The bytes a call starts with: on the control stream, no HEADERS frame
announces more than the limit; on a request stream that is not at its end,
nothing comes behind an empty frame. -/
def Orderly (h : H3 Q) : ProtocolEvent → Prop
  | .transportStreamDataReceived streamId data endStream =>
    let fed := h.feedStream streamId data endStream
    if isUnidirectionalStream streamId then
      fed.streamType = some h3StreamTypeControl → ∀ frameSize payload,
        HasFrame fed.buffer h3FrameTypeHeaders frameSize payload → frameSize ≤ h.bufferLimit
    else
      fed.ended = false → ∀ stream, h.identifyRequest fed = .request stream →
        ∀ frameType payload,
          HasFrame (fed.buffer.drop (fed.frameSize.getD 0)) frameType 0 payload → payload = []
  | _ => True

theorem Typed.limits (htyped : Typed h streamId fed joined stream streamType) :
    SameLimits h joined := by
  cases htyped with
  | already | session => exact SameLimits.refl h
  | registered _ _ registers =>
    unfold registerPeerInfrastructureStream at registers
    simp only at registers
    split_ifs at registers <;> cases registers <;> exact ⟨rfl, rfl⟩

/-- What a stream of a known type is worked on as. -/
theorem Typed.stream_eq (htyped : Typed h streamId fed joined stream streamType) :
    stream = fed ∧ fed.streamType = some streamType ∨
      stream = { fed with buffer := [], streamType := some streamType } ∧
        (IsInfrastructure streamType ∨ streamType = h3StreamTypeWebtransport) := by
  cases htyped with
  | already type => exact Or.inl ⟨rfl, type⟩
  | session => exact Or.inr ⟨rfl, Or.inr rfl⟩
  | registered _ infrastructure => exact Or.inr ⟨rfl, Or.inl infrastructure⟩

theorem parseStreamHeader_buffer {found : H3Stream} (hgone : h.streams.get? streamId = none)
    (hget : (h.parseStreamHeader streamId stream).1.streams.get? streamId = some found) :
    found = stream ∧ stream.buffer.length < 8 := by
  refine ⟨(parseStreamHeader_aside hgone).1 found hget, ?_⟩
  unfold parseStreamHeader at hget
  cases hread : readVarint stream.buffer with
  | error e => exact length_of_readVarint_error hread
  | ok header =>
    simp only [hread] at hget
    split at hget
    · rw [hgone] at hget
      cases hget
    · rw [hgone] at hget
      cases hget

/-- The layer's limits are not the peer's to change. -/
theorem recvUnidirectionalStreamData_limits (hQ : Q.NonBlocking)
    {r : H3 Q × Except WebTransportError Outcome}
    (hr : h.recvUnidirectionalStreamData streamId data endStream connection = some r) :
    SameLimits h r.1 := by
  have hcases := recvUnidirectionalStreamData_cases hQ hr
  have hwithout : SameLimits h { h with streams := h.streams.erase streamId } := ⟨rfl, rfl⟩
  generalize ({ h with streams := h.streams.erase streamId } : H3 Q) = without
    at hwithout hcases
  refine hwithout.trans ?_
  cases hcases with
  | waits => exact without.awaitHeader_keeps.2
  | refused | stopped => exact SameLimits.refl without
  | header typed => exact typed.limits.trans (parseStreamHeader_keeps _).2
  | failed typed read | ended typed read => exact typed.limits.trans read.reaches.limits
  | kept typed _ _ read =>
    have hlimits := typed.limits.trans read.reaches.limits
    exact ⟨hlimits.capsule, hlimits.fieldSection⟩

/-- What is kept of a unidirectional stream. -/
theorem recvUnidirectionalStreamData_settles (hQ : Q.NonBlocking) (hin : h.TableWithin)
    (huni : isUnidirectionalStream streamId = true)
    (horderly : h.Orderly (.transportStreamDataReceived streamId data endStream))
    (hr : h.recvUnidirectionalStreamData streamId data endStream connection =
      some (h', .ok outcome)) :
    ∀ s, h'.streams.get? streamId = some s →
      Settled h.maxCapsuleSize h.bufferLimit streamId s ∧ KnownType streamId s := by
  obtain ⟨hbefore, hknown⟩ := hin.before streamId
  simp only [Orderly, huni, if_true] at horderly
  have hcases := recvUnidirectionalStreamData_cases hQ hr
  have hgone := OrderedMap.get?_erase_self h.streams streamId
  -- a stream of a known type is one that is kept, and keeps its frame and its capsules
  have hsettled : ∀ {joined : H3 Q} {stream : H3Stream} {streamType : Nat},
      Typed { h with streams := h.streams.erase streamId } streamId
        (h.feedStream streamId data endStream) joined stream streamType →
      (IsInfrastructure streamType ∨ streamType = h3StreamTypeWebtransport) ∧
      ∀ buffer : Bytes, buffer.length ≤ 16 + h.bufferLimit →
        Settled h.maxCapsuleSize h.bufferLimit streamId { stream with buffer := buffer } ∧
          KnownType streamId { stream with buffer := buffer } := by
    intro joined stream streamType typed
    have hkind : IsInfrastructure streamType ∨ streamType = h3StreamTypeWebtransport := by
      rcases typed.stream_eq with ⟨-, hold⟩ | ⟨-, hnew⟩
      · exact hknown huni streamType hold
      · exact hnew
    refine ⟨hkind, fun buffer hbuffer => ⟨?_, fun _ found hfound => ?_⟩⟩
    · rcases typed.stream_eq with ⟨rfl, -⟩ | ⟨rfl, -⟩
      · exact hbefore.withBuffer rfl rfl rfl rfl hbuffer
      · exact hbefore.withBuffer rfl rfl rfl rfl hbuffer
    · obtain rfl : streamType = found := Option.some.inj (typed.same.2.2.1.symm.trans hfound)
      exact hkind
  intro s hget
  generalize hresult : ((h', Except.ok outcome) : H3 Q × Except WebTransportError Outcome) = r
    at hcases
  cases hcases with
  | waits untyped short =>
    cases hresult
    obtain rfl := awaitHeader_entry hget
    refine ⟨hbefore.withBuffer rfl rfl rfl rfl (by omega), fun _ t ht => ?_⟩
    rw [untyped] at ht
    cases ht
  | refused => cases hresult
  | stopped =>
    cases hresult
    rw [hgone] at hget
    cases hget
  | @header joined stream typed =>
    have hlast : h' = (joined.parseStreamHeader streamId stream).1 := congrArg Prod.fst hresult
    rw [hlast] at hget
    obtain ⟨rfl, hlen⟩ := parseStreamHeader_buffer (by rw [typed.same.2.1, hgone]) hget
    exact (hsettled typed).2 s.buffer (by omega)
  | failed | ended => cases hresult
  | @kept joined last stream streamType kept typed other running read =>
    cases hresult
    rw [OrderedMap.get?_insert_self] at hget
    cases hget
    refine (hsettled typed).2 kept.1 ?_
    generalize hparsed : ((last, Except.ok kept) :
      H3 Q × Except WebTransportError (Bytes × Outcome)) = parsed at read
    cases read with
    | critical => cases hparsed
    | frames hcontrol =>
      subst hcontrol
      refine parseControlFrames_rest (Nat.le_max_left _ _) _ (Nat.le_refl _) ?_ hparsed.symm
      intro frameSize payload hframe
      rcases typed.stream_eq with ⟨rfl, hold⟩ | ⟨rfl, -⟩
      · exact horderly hold frameSize payload hframe
      · exact absurd hframe not_hasFrame_nil
    | codec =>
      cases hparsed
      exact Nat.zero_le _
    | codecFailed => cases hparsed
    | other stranger =>
      rcases (hsettled typed).1 with hinfra | hwebtransport
      · exact absurd hinfra stranger
      · exact absurd hwebtransport other

/-- What a bidirectional stream is worked on as. -/
def RequestKind.WorksOn (fed : H3Stream) : RequestKind → Prop
  | .incomplete => fed.buffer.length < 8
  | .webtransport stream =>
    stream = fed ∨
      stream = { fed with buffer := [], streamType := some h3StreamTypeWebtransport }
  | .refused => True
  | .request stream => stream = fed ∨ stream = { fed with isRequestStream := true }

theorem identifyRequest_worksOn (h : H3 Q) (fed : H3Stream) :
    (h.identifyRequest fed).WorksOn fed := by
  unfold identifyRequest
  split
  · split
    · exact Or.inl rfl
    · exact Or.inl rfl
  · cases hread : readVarint fed.buffer with
    | error e => exact length_of_readVarint_error hread
    | ok header =>
      simp only
      split
      · exact Or.inr rfl
      split
      · trivial
      · exact Or.inr rfl

/-- What is kept of a bidirectional stream. -/
theorem recvRequestData_settles (hQ : Q.NonBlocking) (hin : h.TableWithin)
    (hbidi : isUnidirectionalStream streamId = false)
    (horderly : h.Orderly (.transportStreamDataReceived streamId data endStream))
    (hr : h.recvRequestData streamId data endStream = some (h', .ok outcome)) :
    ∀ s, h'.streams.get? streamId = some s → Settled h.maxCapsuleSize h.bufferLimit streamId s := by
  have hbefore := (hin.before streamId).1
  simp only [Orderly, hbidi, Bool.false_eq_true, if_false] at horderly
  have hgone := OrderedMap.get?_erase_self h.streams streamId
  have hstream := h.identifyRequest_worksOn (h.feedStream streamId data endStream)
  unfold recvRequestData at hr
  simp only [show ({ h with streams := h.streams.erase streamId } : H3 Q).identifyRequest
    (h.feedStream streamId data endStream) = h.identifyRequest
      (h.feedStream streamId data endStream) from rfl] at hr
  intro s hget
  cases hkind : h.identifyRequest (h.feedStream streamId data endStream) with
  | incomplete =>
    rw [hkind] at hstream
    simp only [hkind] at hr
    cases hr
    obtain rfl := awaitHeader_entry hget
    have hlen : (h.feedStream streamId data endStream).buffer.length < 8 := hstream
    exact hbefore.withBuffer rfl rfl rfl rfl (by omega)
  | webtransport stream =>
    rw [hkind] at hstream
    simp only [hkind] at hr
    have hlast := congrArg Prod.fst (Option.some.inj hr)
    rw [← show _ = h' from hlast] at hget
    obtain ⟨rfl, hlen⟩ := parseStreamHeader_buffer hgone hget
    rcases hstream with rfl | rfl
    · exact hbefore.withBuffer rfl rfl rfl rfl (by omega)
    · exact hbefore.withBuffer rfl rfl rfl rfl (Nat.zero_le _)
  | refused =>
    simp only [hkind] at hr
    cases hr
  | request stream =>
    rw [hkind] at hstream
    simp only [hkind] at hr
    obtain ⟨⟨last, result⟩, hparsed, heq⟩ := Option.map_eq_some_iff.mp hr
    have hlooping : Looping h.maxCapsuleSize h.bufferLimit streamId stream.ended stream := by
      have hbehind := fun hopen => horderly hopen stream hkind
      rcases hstream with rfl | rfl
      · exact ⟨hbefore.blocked, hbefore.frame, hbefore.capsules, hbehind⟩
      · exact ⟨hbefore.blocked, hbefore.frame, hbefore.capsules, hbehind⟩
    unfold parseStreamData at hparsed
    rw [if_neg (by rw [hlooping.blocked]; exact Bool.false_ne_true)] at hparsed
    cases result with
    | error e => cases heq
    | ok p =>
      have hsettled := parseLoop_settles (h := { h with streams := h.streams.erase streamId }) hQ
        streamId stream.ended _ hlooping hparsed
      cases heq
      unfold finishRequestData at hget
      split at hget
      · rw [cleanupStream_get?_self] at hget
        cases hget
      · rw [OrderedMap.get?_insert_self] at hget
        cases hget
        exact hsettled

/-! ## Whole runs -/

theorem tableWithin_new : (H3.new isClient parameters : H3 Q).TableWithin := by
  intro id s hget
  cases hget

theorem AsideShape.tableWithin (hshape : AsideShape h h') (hin : h.TableWithin) :
    h'.TableWithin := by
  intro id s hget
  rw [hshape.limits.capsule, hshape.limits.bufferLimit]
  rcases hshape.entries id with hsame | ⟨hbidi, hnone | hbound⟩
  · rw [hsame] at hget
    exact hin id s hget
  · rw [hnone] at hget
    cases hget
  · rw [hbound] at hget
    cases hget
    refine ⟨settled_connectStream, fun huni => ?_⟩
    rw [hbidi] at huni
    cases huni

/-- A call that touches one stream, and leaves it as it should be. -/
theorem TableWithin.touched (hin : h.TableWithin) (hlimits : SameLimits h h')
    (htouches : Touches streamId h h') (hentry : ∀ s, h'.streams.get? streamId = some s →
      Settled h.maxCapsuleSize h.bufferLimit streamId s ∧ KnownType streamId s) :
    h'.TableWithin := by
  intro id s hget
  rw [hlimits.capsule, hlimits.bufferLimit]
  by_cases hid : id = streamId
  · subst hid
    exact hentry s hget
  · rw [htouches.others id hid] at hget
    exact hin id s hget

theorem handleTransportEvent_limits (hQ : Q.NonBlocking) (hwf : h.TableWF)
    (hr : h.handleTransportEvent event connection = some (h', outcome)) : SameLimits h h' := by
  by_cases hdata : ∃ streamId data endStream,
      event = .transportStreamDataReceived streamId data endStream
  · obtain ⟨streamId, data, endStream, rfl⟩ := hdata
    have hresult : ∀ {r : H3 Q × Except WebTransportError Outcome},
        h.transportResult (.transportStreamDataReceived streamId data endStream) connection =
          some r → SameLimits h r.1 := by
      intro r hr
      unfold transportResult at hr
      simp only at hr
      split at hr
      · exact recvUnidirectionalStreamData_limits hQ hr
      · exact (recvRequestData_keeps hQ hwf hr).2
    rcases handleTransportEvent_cases hr with hok | ⟨failed, e, herror, hfail⟩
    · exact hresult hok
    · have hlast := (failed.failTransportEvent_keeps e).2
      rw [hfail] at hlast
      exact (hresult herror).trans hlast
  · exact (other_call hr fun streamId data endStream heq => hdata ⟨_, _, _, heq⟩).limits

/-- One orderly call. -/
theorem handleTransportEvent_tableWithin (hQ : Q.NonBlocking) (hin : h.TableWithin)
    (hwf : h.TableWF) (horderly : h.Orderly event)
    (hr : h.handleTransportEvent event connection = some (h', outcome)) : h'.TableWithin := by
  have hlimits := handleTransportEvent_limits hQ hwf hr
  by_cases hdata : ∃ streamId data endStream,
      event = .transportStreamDataReceived streamId data endStream
  · obtain ⟨streamId, data, endStream, rfl⟩ := hdata
    refine hin.touched hlimits (data_call_touches hQ hwf hr).1 fun s hget => ?_
    rcases handleTransportEvent_cases hr with hok | ⟨failed, e, herror, hfail⟩
    · cases huni : isUnidirectionalStream streamId with
      | true =>
        rw [h.transportResult_uni huni] at hok
        exact recvUnidirectionalStreamData_settles hQ hin huni horderly hok s hget
      | false =>
        rw [h.transportResult_bidi huni] at hok
        refine ⟨recvRequestData_settles hQ hin huni horderly hok s hget, fun hyes => ?_⟩
        rw [huni] at hyes
        cases hyes
    · rw [(data_call_failed hQ hwf herror hfail).2.1] at hget
      cases hget
  · have hother := other_call hr fun streamId data endStream heq => hdata ⟨_, _, _, heq⟩
    intro id s hget
    rw [hlimits.capsule, hlimits.bufferLimit]
    cases hother.table with
    | same hstreams =>
      rw [hstreams] at hget
      exact hin id s hget
    | opened hstreams =>
      rw [hstreams] at hget
      rcases OrderedMap.get?_insert_some hget with ⟨rfl, rfl⟩ | ⟨-, hold⟩
      · exact ⟨settled_empty, fun _ _ htype => nomatch htype⟩
      · exact hin id s hold
    | forgotten _ hstreams =>
      rw [hstreams] at hget
      exact hin id s (OrderedMap.get?_erase_some hget).2

theorem LayerRun.limits (hQ : Q.NonBlocking) (hrun : LayerRun isClient parameters calls h) :
    h.maxCapsuleSize = parameters.maxCapsuleSize ∧
      h.maxFieldSectionSize = parameters.maxFieldSectionSize := by
  induction hrun with
  | new => exact ⟨rfl, rfl⟩
  | aside _ step ih =>
    have hlimits := step.shape.limits
    rwa [hlimits.capsule, hlimits.fieldSection]
  | call run handled ih =>
    have hlimits := handleTransportEvent_limits hQ (run.tableWF hQ) handled
    rwa [hlimits.capsule, hlimits.fieldSection]

theorem LayerRun.tableWithin (hQ : Q.NonBlocking) (hrun : LayerRun isClient parameters calls h)
    (horderly : ∀ call ∈ calls, call.before.Orderly call.event) : h.TableWithin := by
  induction hrun with
  | new => exact tableWithin_new
  | aside _ step ih => exact step.shape.tableWithin (ih horderly)
  | call run handled ih =>
    refine handleTransportEvent_tableWithin hQ
      (ih fun call hmem => horderly call (List.mem_append_left _ hmem)) (run.tableWF hQ) ?_
      handled
    exact horderly _ (List.mem_append_right _ (List.mem_singleton.mpr rfl))

/-- In every run of orderly calls, no stream of the table holds more than an
incomplete frame and an incomplete capsule. -/
theorem buffers_bounded (hQ : Q.NonBlocking) { isClient : Bool} {parameters : H3Parameters}
    {calls : List (Call Q)} {h : H3 Q} (hrun : LayerRun isClient parameters calls h)
    (horderly : ∀ call ∈ calls, call.before.Orderly call.event) {streamId : StreamId}
    {stream : H3Stream} (hstored : h.streams.get? streamId = some stream) :
    stream.buffer.length ≤ 16 + max controlFrameSizeLimit parameters.maxFieldSectionSize ∧
      stream.capsuleBuffer.length ≤ 16 + parameters.maxCapsuleSize := by
  obtain ⟨hcapsule, hfield⟩ := hrun.limits hQ
  have hsettled := (hrun.tableWithin hQ horderly streamId stream hstored).1
  have hlimit : h.bufferLimit = max controlFrameSizeLimit parameters.maxFieldSectionSize := by
    unfold bufferLimit
    rw [hfield]
  rw [← hlimit, ← hcapsule]
  exact ⟨hsettled.buffer, length_of_drainCapsules hsettled.capsules⟩

/-- The layer of a client when stream 3 has been announced. -/
def sampleAnnounced : H3 plainQpack :=
  ((H3.new true sampleH3Parameters : H3 plainQpack).handleStreamOpened 3).1

/-- Stream 3 is announced, and says that it is the control stream. -/
def controlOpened : List (Call plainQpack) :=
  [⟨.transportStreamOpened 3, sampleConnection, H3.new true sampleH3Parameters, sampleAnnounced,
      ([], [.receiveQuicData 3 1])⟩,
    ⟨.transportStreamDataReceived 3 [0] false, sampleConnection, sampleAnnounced, sampleControl,
      ([], [.receiveQuicData 3 u64Max])⟩]

theorem layerRun_controlOpened : LayerRun true sampleH3Parameters controlOpened sampleControl := by
  have hannounced : (H3.new true sampleH3Parameters : H3 plainQpack).handleTransportEvent
      (.transportStreamOpened 3) sampleConnection =
        some (sampleAnnounced, ([], [.receiveQuicData 3 1])) := rfl
  have htyped : sampleAnnounced.handleTransportEvent (.transportStreamDataReceived 3 [0] false)
      sampleConnection = some (sampleControl, ([], [.receiveQuicData 3 u64Max])) := rfl
  exact .call (.call .new hannounced) htyped

theorem buffers_bounded_control :
    (∀ call ∈ controlOpened, call.before.Orderly call.event) ∧
    sampleControl.streams.get? 3 = some { streamType := some h3StreamTypeControl } ∧
    ([] : Bytes).length ≤ 16 + max controlFrameSizeLimit sampleH3Parameters.maxFieldSectionSize ∧
    ([] : Bytes).length ≤ 16 + sampleH3Parameters.maxCapsuleSize := by
  have horderly : ∀ call ∈ controlOpened, call.before.Orderly call.event := by
    intro call hmem
    rcases List.mem_cons.mp hmem with rfl | hmem
    · trivial
    · cases List.mem_singleton.mp hmem
      intro htype
      cases htype
  have hstored : sampleControl.streams.get? 3 =
      some { streamType := some h3StreamTypeControl } := rfl
  exact ⟨horderly, hstored,
    buffers_bounded plainQpack_nonBlocking layerRun_controlOpened horderly hstored⟩

/-- A HEADERS frame that announces 16384 bytes, and the first 5000 of them. -/
def headersOnControl : Bytes := [0x01, 0x80, 0x00, 0x40, 0x00] ++ List.replicate 5000 0

/-- The effect gives up the connection or a stream. -/
def givesUp : Effect → Bool
  | .closeQuicConnection .. | .resetQuicStream .. | .stopQuicStream .. => true
  | _ => false

/-- The control stream waits for the payload of a HEADERS frame, whatever the
frame announces. -/
theorem control_awaits_headers {chunk : Bytes} {size : Nat}
    (hheader : readFrameHeader chunk = some (h3FrameTypeHeaders, size, payload))
    (hshort : payload.length < size) :
    sampleControl.handleTransportEvent (.transportStreamDataReceived 3 chunk false)
      sampleConnection =
        some (putBack 3 { streamType := some h3StreamTypeControl }
          (sampleControl.withoutStream 3) chunk, ([], [.receiveQuicData 3 u64Max])) := by
  have hviolation : controlViolation h3FrameTypeHeaders size = none := by
    simp [controlViolation, h3FrameTypeHeaders, h3FrameTypeData]
  have hparse : parseControlFrames sampleConnection chunk.length
      (sampleControl.withoutStream 3) chunk =
        (sampleControl.withoutStream 3, .ok (chunk, [], [])) := by
    obtain _ | ⟨byte, tail⟩ := chunk
    · rfl
    · rw [List.length_cons, parseControlFrames_succ, hheader]
      simp only [hviolation, if_pos hshort]
  have hreads : ControlReads 3 { streamType := some h3StreamTypeControl } sampleControl [] :=
    ⟨rfl, rfl, rfl⟩
  have hrecv := recvUnidirectionalStreamData_control hreads sampleConnection chunk
  rw [List.nil_append, hparse] at hrecv
  have huni : isUnidirectionalStream 3 = true := by decide
  simp only [handleTransportEvent, transportResult, huni, if_true, hrecv, Option.map_some,
    List.nil_append]

/-- The control stream buffers a HEADERS frame of any size, although it is
an error there. -/
theorem headers_fill_control_stream :
    ∃ (calls : List (Call plainQpack)) (h : H3 plainQpack) (stream : H3Stream),
      LayerRun true sampleH3Parameters calls h ∧
      calls.map Call.event = [.transportStreamOpened 3, .transportStreamDataReceived 3 [0] false,
        .transportStreamDataReceived 3 headersOnControl false] ∧
      (∀ call ∈ calls, ∀ effect ∈ call.outcome.2, givesUp effect = false) ∧
      h.streams.get? 3 = some stream ∧
      16 + max controlFrameSizeLimit sampleH3Parameters.maxFieldSectionSize <
        stream.buffer.length := by
  have hheader : readFrameHeader headersOnControl =
      some (h3FrameTypeHeaders, 16384, [] ++ List.replicate 5000 0) :=
    readFrameHeader_append (by decide) _
  have hlen : headersOnControl.length = 5005 := by
    rw [headersOnControl, List.length_append, List.length_replicate]
    rfl
  have hshort : ([] ++ List.replicate 5000 (0 : UInt8)).length < 16384 := by
    rw [List.nil_append, List.length_replicate]
    decide
  have hcall := control_awaits_headers hheader hshort
  refine ⟨_, _, _, .call layerRun_controlOpened hcall, rfl, ?_,
    OrderedMap.get?_insert_self _ _ _, ?_⟩
  · intro call hmem effect heffect
    rcases List.mem_append.mp hmem with hmem | hmem
    · rcases List.mem_cons.mp hmem with rfl | hmem
      · cases List.mem_singleton.mp heffect
        rfl
      · cases List.mem_singleton.mp hmem
        cases List.mem_singleton.mp heffect
        rfl
    · cases List.mem_singleton.mp hmem
      cases List.mem_singleton.mp heffect
      rfl
  · show 16 + max controlFrameSizeLimit sampleH3Parameters.maxFieldSectionSize <
      headersOnControl.length
    rw [hlen]
    decide

end H3

end PyWebTransport

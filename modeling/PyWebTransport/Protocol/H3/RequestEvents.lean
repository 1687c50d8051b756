/-
PyWebTransport.Protocol.H3.RequestEvents — what the bytes of a request
stream can raise.

The frame loop is described by one relation, `Parses`, which holds of one
frame (`handleRequestFrame_parses`), composes (`Parses.trans`), and so holds
of a whole run of the loop (`parseLoop_parses`): parsing raises at most one
headers event, before every capsule event, all of them about the stream that
is parsed. A failure gives up that stream or the connection, never another
stream.
-/
import PyWebTransport.Protocol.H3.FrameLoop

namespace PyWebTransport

open PyWebTransport.Lib

/-- A stream error is about this stream. -/
def WebTransportError.NamesOnly (streamId : StreamId) : WebTransportError → Prop
  | .stream id _ _ => id = streamId
  | _ => True

namespace H3

variable {Q : Qpack} {streamId : StreamId} {stream : H3Stream}

variable {s : H3Stream} {h : H3 Q} {streamEnded : Bool}

/-- The headers of a request to open a session. -/
def asksForSession (headers : Headers) : Bool :=
  findHeader headers (asciiBytes [':', 'p', 'r', 'o', 't', 'o', 'c', 'o', 'l']) =
    some wtUpgradeToken

/-- Every event is a capsule of the stream. -/
def CapsulesOnly (streamId : StreamId) (events : List ProtocolEvent) : Prop :=
  ∀ event ∈ events, ∃ capsuleType capsuleValue,
    event = .h3CapsuleReceived streamId capsuleType capsuleValue

theorem CapsulesOnly.append {a b : List ProtocolEvent} (ha : CapsulesOnly streamId a)
    (hb : CapsulesOnly streamId b) : CapsulesOnly streamId (a ++ b) := by
  exact List.forall_mem_append.mpr ⟨ha, hb⟩

/-- The only effects of parsing are instructions for the peer's decoder. -/
def SendsOnly (effects : List Effect) : Prop :=
  ∀ effect ∈ effects, ∃ streamId data endStream, effect = .sendQuicData streamId data endStream

theorem sendsOnly_sendInstructions (streamId : Option StreamId) (instructions : Bytes) :
    SendsOnly (sendInstructions streamId instructions) := by
  intro effect heffect
  unfold sendInstructions at heffect
  split at heffect
  · cases heffect
  · obtain ⟨id, -, rfl⟩ := List.mem_map.mp heffect
    exact ⟨id, instructions, false, rfl⟩

theorem SendsOnly.append {a b : List Effect} (ha : SendsOnly a) (hb : SendsOnly b) :
    SendsOnly (a ++ b) := by
  exact List.forall_mem_append.mpr ⟨ha, hb⟩

/-! ## The relation -/

/-- The headers of the stream have not been read, and nothing was raised; or
they had been read, and only capsules were. -/
structure ParsesOn (streamId : StreamId) (s : H3Stream) (p : H3Stream × Outcome) : Prop where
  headersProcessed : p.1.headersProcessed = s.headersProcessed
  isConnectStream : p.1.isConnectStream = s.isConnectStream
  capsules : CapsulesOnly streamId p.2.1
  early : s.headersProcessed = false → p.2.1 = []

/-- The headers of the stream were read, and capsules behind them. -/
structure ParsesHeaders (streamId : StreamId) (s : H3Stream) (p : H3Stream × Outcome)
    (headers : Headers) : Prop where
  before : s.headersProcessed = false
  after : p.1.headersProcessed = true
  isConnectStream : p.1.isConnectStream = (s.isConnectStream || asksForSession headers)
  events : ∃ capsules, p.2.1 = .h3HeadersReceived streamId headers :: capsules ∧
    CapsulesOnly streamId capsules

/-- What parsing can do to a stream. -/
structure Parses (streamId : StreamId) (s : H3Stream) (p : H3Stream × Outcome) : Prop where
  blocked : p.1.blocked = false
  ended : p.1.ended = s.ended
  isRequestStream : p.1.isRequestStream = s.isRequestStream
  streamType : p.1.streamType = s.streamType
  sends : SendsOnly p.2.2
  raises : ParsesOn streamId s p ∨ ∃ headers, ParsesHeaders streamId s p headers

/-- Nothing was raised, and only the parser's own fields have changed. -/
theorem Parses.quiet {t : H3Stream} (hblocked : t.blocked = false) (hended : t.ended = s.ended)
    (hrequest : t.isRequestStream = s.isRequestStream) (htype : t.streamType = s.streamType)
    (hheaders : t.headersProcessed = s.headersProcessed)
    (hconnect : t.isConnectStream = s.isConnectStream) : Parses streamId s (t, [], []) where
  blocked := hblocked
  ended := hended
  isRequestStream := hrequest
  streamType := htype
  sends := fun _ h => nomatch h
  raises := Or.inl ⟨hheaders, hconnect, (fun _ h => nomatch h), fun _ => rfl⟩

theorem Parses.trans {p q : H3Stream × Outcome} (hp : Parses streamId s p)
    (hq : Parses streamId p.1 q) : Parses streamId s (q.1, p.2.1 ++ q.2.1, p.2.2 ++ q.2.2) where
  blocked := hq.blocked
  ended := hq.ended.trans hp.ended
  isRequestStream := hq.isRequestStream.trans hp.isRequestStream
  streamType := hq.streamType.trans hp.streamType
  sends := hp.sends.append hq.sends
  raises := by
    rcases hp.raises with h₁ | ⟨headers, h₁⟩ <;> rcases hq.raises with h₂ | ⟨headers', h₂⟩
    · refine Or.inl ⟨h₂.headersProcessed.trans h₁.headersProcessed,
        h₂.isConnectStream.trans h₁.isConnectStream, h₁.capsules.append h₂.capsules, ?_⟩
      intro hearly
      have hearly' : p.1.headersProcessed = false := h₁.headersProcessed.trans hearly
      show p.2.1 ++ q.2.1 = []
      rw [h₁.early hearly, h₂.early hearly', List.append_nil]
    · have hearly : s.headersProcessed = false := h₁.headersProcessed ▸ h₂.before
      refine Or.inr ⟨headers', hearly, h₂.after, ?_, ?_⟩
      · rw [← h₁.isConnectStream]
        exact h₂.isConnectStream
      · show ∃ capsules, p.2.1 ++ q.2.1 = _ ∧ _
        rw [h₁.early hearly, List.nil_append]
        exact h₂.events
    · refine Or.inr ⟨headers, h₁.before, h₂.headersProcessed.trans h₁.after,
        h₂.isConnectStream.trans h₁.isConnectStream, ?_⟩
      obtain ⟨capsules, hevents, honly⟩ := h₁.events
      exact ⟨capsules ++ q.2.1, by rw [hevents, List.cons_append], honly.append h₂.capsules⟩
    · -- headers are read once
      have hafter := h₁.after
      rw [h₂.before] at hafter
      cases hafter

/-- Parsing did what it can do, or failed over this stream. -/
def ParsesTo (streamId : StreamId) (s : H3Stream) :
    Except WebTransportError (H3Stream × Outcome) → Prop
  | .error e => e.NamesOnly streamId
  | .ok p => Parses streamId s p

/-! ## One frame -/

theorem parseCapsulesLoop_raises (maxCapsuleSize : Nat) (streamId : StreamId) :
    ∀ (fuel : Nat) (buffer : Bytes),
      match parseCapsulesLoop maxCapsuleSize streamId fuel buffer with
      | .error e => e.NamesOnly streamId
      | .ok p => CapsulesOnly streamId p.2 := by
  intro fuel
  induction fuel with
  | zero =>
    intro buffer event hevent
    cases hevent
  | succ fuel ih =>
    intro buffer
    unfold parseCapsulesLoop
    cases readVarint buffer with
    | error e => exact List.forall_mem_nil _
    | ok head =>
      obtain ⟨capsuleType, rest⟩ := head
      simp only
      cases readVarint rest with
      | error e => exact List.forall_mem_nil _
      | ok size =>
        simp only
        split_ifs with hlarge hshort
        · exact rfl
        · exact List.forall_mem_nil _
        · have hrest := ih (size.2.drop size.1)
          generalize parseCapsulesLoop maxCapsuleSize streamId fuel _ = rest at hrest
          cases rest with
          | error e => exact hrest
          | ok p =>
            intro event hevent
            rcases List.mem_cons.mp hevent with rfl | hevent
            · exact ⟨_, _, rfl⟩
            · exact hrest event hevent

theorem handleDataFrame_parses (h : H3 Q) (hblocked : stream.blocked = false) {payload : Bytes} :
    ParsesTo streamId stream (h.handleDataFrame streamId stream payload) := by
  rw [handleDataFrame_eq]
  split
  · rename_i hready
    have hraises := parseCapsulesLoop_raises h.maxCapsuleSize streamId
      (stream.capsuleBuffer ++ payload).length (stream.capsuleBuffer ++ payload)
    simp only [drainCapsules]
    generalize parseCapsulesLoop h.maxCapsuleSize streamId _ _ = drained at hraises
    cases drained with
    | error e => exact hraises
    | ok p =>
      have hprocessed : stream.headersProcessed = true := (Bool.and_eq_true_iff.mp hready).2
      exact
        { blocked := hblocked, ended := rfl, isRequestStream := rfl, streamType := rfl
          sends := List.forall_mem_nil _
          raises := Or.inl ⟨rfl, rfl, hraises, fun hearly => by
            rw [hprocessed] at hearly
            cases hearly⟩ }
  · exact Parses.quiet hblocked rfl rfl rfl rfl rfl

/-- What decoding a header block asks for, and how it fails. -/
theorem decodeHeaders_sends (h : H3 Q) (streamId : StreamId) (frameData : Bytes) :
    match (h.decodeHeaders streamId (some frameData)).2 with
    | .error e => e.NamesOnly streamId
    | .ok .blocked => True
    | .ok (.done _ effects) => SendsOnly effects := by
  simp only [decodeHeaders]
  generalize (Q.decodeHeader h.decoder streamId frameData).2 = decoded
  cases decoded with
  | error e => trivial
  | ok p =>
    obtain ⟨instructions, status⟩ := p
    cases status with
    | blocked => trivial
    | done headers => exact sendsOnly_sendInstructions h.localDecoderStreamId instructions

theorem validated_names {headers : Headers} {e : WebTransportError}
    (herror : (if h.isClient then validateResponseHeaders streamId headers
      else validateRequestHeaders streamId headers) = .error e) : e.NamesOnly streamId := by
  split at herror
  · unfold validateResponseHeaders at herror
    split at herror
    · cases herror
    · cases herror
      rfl
  · unfold validateRequestHeaders at herror
    split at herror
    · cases herror
      rfl
    · split_ifs at herror <;> cases herror <;> rfl

theorem handleHeadersFrame_parses (hQ : Q.NonBlocking) (h : H3 Q) {frameData : Bytes} :
    ParsesTo streamId stream (h.handleHeadersFrame streamId stream frameData).2 := by
  unfold handleHeadersFrame
  split
  · exact rfl
  · rename_i hearly
    simp only
    have hdecoded := decodeHeaders_ne_blocked hQ h streamId frameData
    have hsends := decodeHeaders_sends h streamId frameData
    generalize (h.decodeHeaders streamId (some frameData)).2 = decoded at hdecoded hsends
    cases decoded with
    | error e => exact hsends
    | ok status =>
      cases status with
      | blocked => exact absurd rfl hdecoded
      | done headers effects =>
        simp only
        cases hvalid : (if h.isClient then validateResponseHeaders streamId headers
            else validateRequestHeaders streamId headers) with
        | error e => exact validated_names hvalid
        | ok valid =>
          exact
            { blocked := rfl, ended := rfl, isRequestStream := rfl, streamType := rfl
              sends := hsends
              raises := Or.inr ⟨headers, by simpa using hearly, rfl, rfl, [], rfl,
                fun _ h => nomatch h⟩ }

theorem handleRequestFrame_parses (hQ : Q.NonBlocking) (h : H3 Q) (streamId : StreamId)
    (hblocked : stream.blocked = false) (frameType : Nat) (frameData : Bytes) :
    ParsesTo streamId stream (h.handleRequestFrame streamId stream frameType frameData).2 := by
  unfold handleRequestFrame
  split_ifs
  · trivial
  · exact h.handleDataFrame_parses hblocked
  · exact h.handleHeadersFrame_parses hQ
  · trivial
  · trivial
  · exact Parses.quiet hblocked rfl rfl rfl rfl rfl

/-! ## The loop -/

/-- The next frame has been started, or cannot be yet, or must not be. -/
def OpensTo (streamId : StreamId) (s : H3Stream) :
    Except WebTransportError (Option H3Stream) → Prop
  | .error e => e.NamesOnly streamId
  | .ok none => True
  | .ok (some opened) => Parses streamId s (opened, [], [])

theorem openFrame_opens (h : H3 Q) (streamId : StreamId) (hblocked : stream.blocked = false) :
    OpensTo streamId stream (h.openFrame streamId stream) := by
  unfold openFrame
  split
  · exact Parses.quiet hblocked rfl rfl rfl rfl rfl
  · cases readFrameHeader stream.buffer with
    | none => trivial
    | some header =>
      simp only
      split
      · exact rfl
      · split
        · trivial
        · exact Parses.quiet hblocked rfl rfl rfl rfl rfl

theorem closeFrame_parses (streamId : StreamId) (hblocked : stream.blocked = false)
    (frameType : Nat) : Parses streamId stream (closeFrame stream frameType, [], []) :=
  Parses.quiet hblocked rfl rfl rfl rfl rfl

/-- A round parses, and touches nothing of the layer but the decoder. -/
structure RoundParses (h : H3 Q) (streamId : StreamId) (stream : H3Stream)
    (round : H3 Q × Except WebTransportError RoundResult) : Prop where
  layer : ∃ decoder, round.1 = { h with decoder := decoder }
  parses : ParsesTo streamId stream (round.2.map fun result => (result.stream, result.outcome))

theorem RoundParses.idle (h : H3 Q) (streamId : StreamId) (hblocked : stream.blocked = false) :
    RoundParses h streamId stream (h, .ok (idleRound stream)) :=
  ⟨⟨h.decoder, rfl⟩, Parses.quiet hblocked rfl rfl rfl rfl rfl⟩

theorem consumeFrame_parses (hQ : Q.NonBlocking) (h : H3 Q) (streamId : StreamId)
    (hblocked : stream.blocked = false) (streamEnded : Bool) :
    RoundParses h streamId stream (h.consumeFrame streamId stream streamEnded) := by
  unfold consumeFrame
  split
  · rename_i currentType currentSize _ _
    simp only
    split
    · exact RoundParses.idle h streamId hblocked
    · generalize htaken : ({ stream with
        buffer := stream.buffer.drop (min currentSize stream.buffer.length)
        frameSize := some (currentSize - min currentSize stream.buffer.length) } : H3Stream) = taken
      have hstart : Parses streamId stream (taken, [], []) := by
        rw [← htaken]
        exact Parses.quiet hblocked rfl rfl rfl rfl rfl
      refine ⟨h.handleRequestFrame_shape streamId taken currentType _, ?_⟩
      have hframe := h.handleRequestFrame_parses hQ streamId hstart.blocked currentType
        (stream.buffer.take (min currentSize stream.buffer.length))
      generalize (h.handleRequestFrame streamId taken currentType _).2 = handled at hframe
      cases handled with
      | error e => exact hframe
      | ok p =>
        have hread : Parses streamId stream (p.1, p.2) := hstart.trans hframe
        show Parses streamId stream (if _ then closeFrame p.1 currentType else p.1, p.2)
        split
        · have hclosed := hread.trans (closeFrame_parses streamId hread.blocked currentType)
          rwa [List.append_nil, List.append_nil] at hclosed
        · exact hread
  · exact RoundParses.idle h streamId hblocked

theorem parseRound_parses (hQ : Q.NonBlocking) (h : H3 Q) (hblocked : stream.blocked = false) :
    RoundParses h streamId stream (h.parseRound streamId stream streamEnded) := by
  unfold parseRound
  rw [if_neg (by rw [hblocked]; exact Bool.false_ne_true)]
  split
  · exact RoundParses.idle h streamId hblocked
  · have hopen := h.openFrame_opens streamId hblocked
    generalize h.openFrame streamId stream = opened at hopen
    cases opened with
    | error e => exact ⟨⟨h.decoder, rfl⟩, hopen⟩
    | ok next =>
      cases next with
      | none => exact RoundParses.idle h streamId hblocked
      | some started =>
        have hopen : Parses streamId stream (started, [], []) := hopen
        have hround := h.consumeFrame_parses hQ streamId hopen.blocked streamEnded
        refine ⟨hround.layer, ?_⟩
        have hparses := hround.parses
        show ParsesTo streamId stream
          ((h.consumeFrame streamId started streamEnded).2.map _)
        generalize (h.consumeFrame streamId started streamEnded).2 = result at hparses
        cases result with
        | error e => exact hparses
        | ok result => exact hopen.trans hparses

/-- Parsing from `stream` came to `r`. -/
structure LoopParses (h : H3 Q) (streamId : StreamId) (stream : H3Stream)
    (r : H3 Q × Except WebTransportError (H3Stream × Outcome)) : Prop where
  layer : ∃ decoder, r.1 = { h with decoder := decoder }
  parses : ParsesTo streamId stream r.2

theorem parseLoop_parses (hQ : Q.NonBlocking) :
    ∀ (fuel : Nat) (h : H3 Q) {stream : H3Stream}
      {r : H3 Q × Except WebTransportError (H3Stream × Outcome)}, stream.blocked = false →
      parseLoop streamId streamEnded fuel h stream = some r → LoopParses h streamId stream r := by
  intro fuel
  induction fuel with
  | zero =>
    intro h stream r _ hr
    cases hr
  | succ fuel ih =>
    intro h stream r hblocked hr
    obtain ⟨⟨decoder, hlayer⟩, hparses⟩ := h.parseRound_parses hQ hblocked
    rw [parseLoop_succ] at hr
    generalize h.parseRound streamId stream streamEnded = round at hlayer hparses hr
    obtain ⟨h', result⟩ := round
    cases hlayer
    cases result with
    | error e =>
      cases hr
      exact ⟨⟨decoder, rfl⟩, hparses⟩
    | ok result =>
      simp only [afterRound] at hr
      split at hr
      · cases hr
        exact ⟨⟨decoder, rfl⟩, hparses⟩
      · obtain ⟨others, hothers, rfl⟩ := Option.map_eq_some_iff.mp hr
        have hstep : Parses streamId stream (result.stream, result.outcome) := hparses
        obtain ⟨⟨decoder', hlayer'⟩, hrest⟩ := ih _ hstep.blocked hothers
        refine ⟨⟨decoder', by rw [hlayer']⟩, ?_⟩
        generalize others.2 = outcome at hrest
        cases outcome with
        | error e => exact hrest
        | ok p => exact hstep.trans hrest

theorem parseStreamData_parses (hQ : Q.NonBlocking)
    {r : H3 Q × Except WebTransportError (H3Stream × Outcome)} (hblocked : stream.blocked = false)
    (hr : h.parseStreamData streamId stream streamEnded = some r) :
    LoopParses h streamId stream r := by
  unfold parseStreamData at hr
  rw [if_neg (by rw [hblocked]; exact Bool.false_ne_true)] at hr
  exact parseLoop_parses hQ _ h hblocked hr

end H3

end PyWebTransport

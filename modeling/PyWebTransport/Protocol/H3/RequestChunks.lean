/-
PyWebTransport.Protocol.H3.RequestChunks — a request stream that comes in
chunks.

`Receiving` is the history of a bidirectional stream that has not been
finished: it was opened or bound, and bytes came. It keeps what the frame
parser needs (`Receiving.invariant`), so every delivery of chunks returns
and is a delivery to `frameParser` (`recvChunks_agrees`).

What the chunks are can be observed: the loop breaks behind an empty frame,
and what is left in the buffer waits for the next chunk.
`request_chunks_agree_iff` says that this is the only way, and exactly when it
shows; `empty_frame_hides_response` is an instance.
-/
import PyWebTransport.Protocol.H3.FrameLoop

namespace PyWebTransport

open PyWebTransport.Lib

namespace H3

variable {Q : Qpack} {h : H3 Q} {streamId : StreamId} {stream : H3Stream} {h' : H3 Q}
  {outcome : Outcome}

variable {maxCapsuleSize : Nat}

/-! ## One chunk -/

theorem parseStreamData_agrees (hs : Sound streamId (h, stream)) (input : Bytes) :
    Agrees (h.parseStreamData streamId { stream with buffer := input } false)
      ((frameParser Q streamId).advance 1 (h, stream) input) := by
  have hblocked : stream.blocked = false := hs.coherent.notBlocked
  have hparse : h.parseStreamData streamId { stream with buffer := input } false =
      parseLoop streamId false (input.length + 2) h { stream with buffer := input } := by
    simp only [parseStreamData, hblocked, Bool.false_eq_true, if_false]
  rw [hparse]
  exact parseLoop_agrees streamId _ h stream input (by omega) hs

/-- The layer while a stream is worked on. -/
def withoutStream (h : H3 Q) (streamId : StreamId) : H3 Q :=
  { h with streams := h.streams.erase streamId }

/-- The layer and the stream as the parser sees them: the stream is out of
the table while it is worked on, and its buffer is the parser's input. -/
def parserState (h : H3 Q) (streamId : StreamId) (stream : H3Stream) : ParserState Q :=
  ({ h with streams := h.streams.erase streamId }, { stream with buffer := [] })

/-- A request stream without FIN, in the table between two chunks. -/
structure Reads (streamId : StreamId) (h : H3 Q) (stream : H3Stream) : Prop where
  stored : h.streams.get? streamId = some stream
  isRequest : stream.isRequestStream = true
  streamType : stream.streamType = none
  ended : stream.ended = false
  sound : Sound streamId (h, stream)

theorem Reads.sound_parserState (hr : Reads streamId h stream) :
    Sound streamId (parserState h streamId stream) :=
  ⟨⟨hr.sound.coherent.notBlocked, hr.sound.coherent.frame, hr.sound.coherent.capsules⟩,
    hr.sound.nonBlocking⟩

theorem erase_insert_erase (streams : OrderedMap StreamId H3Stream) :
    ((streams.erase streamId).insert streamId stream).erase streamId = streams.erase streamId := by
  apply OrderedMap.ext_get?
  intro k
  by_cases hk : streamId = k
  · subst hk
    simp
  · rw [OrderedMap.get?_erase_of_ne _ hk, OrderedMap.get?_insert_of_ne _ _ hk]

/-- The loop on a request stream, as `recv_request_data` calls it. -/
theorem recvRequestData_request (hr : Reads streamId h stream) (data : Bytes) (streamEnded : Bool) :
    h.recvRequestData streamId data streamEnded =
      ((parserState h streamId stream).1.parseStreamData streamId
        { stream with buffer := stream.buffer ++ data, ended := streamEnded } streamEnded).map
          fun parsed =>
            match parsed.2 with
            | .error e => (parsed.1, .error e)
            | .ok (parsedStream, outcome) =>
              let finished := parsed.1.finishRequestData streamId stream.headersProcessed
                parsedStream outcome
              (finished.1, .ok finished.2) := by
  simp only [recvRequestData, feedStream, hr.stored, Option.getD_some, identifyRequest,
    hr.isRequest, hr.streamType, hr.ended, Bool.true_or, if_true, Bool.false_or, reduceCtorEq,
    if_false]
  rfl

theorem finishRequestData_open (h : H3 Q) (streamId : StreamId) (wasHeadersProcessed : Bool)
    (stream : H3Stream) (hended : stream.ended = false) (outcome : Outcome) :
    ∃ effects, h.finishRequestData streamId wasHeadersProcessed stream outcome =
      ({ h with streams := h.streams.insert streamId stream }, outcome.1, effects) :=
  ⟨_, by rw [finishRequestData, if_neg (by simp [hended])]⟩

/-- What a chunk without FIN comes to is what the parser comes to. -/
theorem recvRequestData_agrees (hr : Reads streamId h stream) (data : Bytes) :
    match (frameParser Q streamId).advance 1 (parserState h streamId stream)
        (stream.buffer ++ data) with
    | .error e => ∃ h', h.recvRequestData streamId data false = some (h', .error e)
    | .ok p => ∃ h' stream' effects,
        h.recvRequestData streamId data false = some (h', .ok (p.2.2, effects)) ∧
        Reads streamId h' stream' ∧ parserState h' streamId stream' = p.1 ∧
        stream'.buffer = p.2.1 := by
  have hfed : ({ stream with buffer := stream.buffer ++ data, ended := false } : H3Stream) =
      { (parserState h streamId stream).2 with buffer := stream.buffer ++ data } := by
    simp only [parserState, hr.ended]
  rw [recvRequestData_request hr, hfed]
  have hagrees : Agrees ((parserState h streamId stream).1.parseStreamData streamId
        { (parserState h streamId stream).2 with buffer := stream.buffer ++ data } false)
      ((frameParser Q streamId).advance 1 (parserState h streamId stream)
        (stream.buffer ++ data)) :=
    parseStreamData_agrees hr.sound_parserState (stream.buffer ++ data)
  cases hadvance : (frameParser Q streamId).advance 1 (parserState h streamId stream)
      (stream.buffer ++ data) with
  | error e =>
    rw [hadvance] at hagrees
    obtain ⟨h', hparse⟩ := hagrees
    exact ⟨h', by rw [hparse]; rfl⟩
  | ok p =>
    obtain ⟨hsound, htracks⟩ := advance_ok hr.sound_parserState hadvance
    rw [hadvance] at hagrees
    obtain ⟨effects, hparse⟩ := hagrees
    have hended : p.1.2.ended = false := htracks.ended.trans hr.ended
    have hbuffer : p.1.2.buffer = [] := htracks.buffer
    obtain ⟨decoder, hlayer⟩ := htracks.layer
    obtain ⟨effects', hfinish⟩ := p.1.1.finishRequestData_open streamId stream.headersProcessed
      { p.1.2 with buffer := p.2.1 } hended (p.2.2, effects)
    simp only [hparse, Option.map_some, hfinish]
    refine ⟨_, { p.1.2 with buffer := p.2.1 }, _, rfl, ⟨?_, ?_, ?_, hended, ⟨⟨?_, ?_, ?_⟩, ?_⟩⟩,
      ?_, rfl⟩
    · simp
    · exact htracks.isRequestStream.trans hr.isRequest
    · exact htracks.streamType.trans hr.streamType
    · exact hsound.coherent.notBlocked
    · exact hsound.coherent.frame
    · exact hsound.coherent.capsules
    · exact hsound.nonBlocking
    · have hstreams : p.1.1.streams = h.streams.erase streamId := by rw [hlayer]; rfl
      refine Prod.ext ?_ ?_
      · simp only [parserState, hstreams, erase_insert_erase]
        rw [← hstreams]
      · simp only [parserState]
        rw [← hbuffer]

/-! ## Several chunks -/

/-- Deliver chunks without FIN until one fails. -/
def recvChunks (streamId : StreamId) :
    H3 Q → List Bytes → Option (H3 Q × Except WebTransportError (List ProtocolEvent))
  | h, [] => some (h, .ok [])
  | h, chunk :: chunks =>
    (h.recvRequestData streamId chunk false).bind fun received =>
      match received.2 with
      | .error e => some (received.1, .error e)
      | .ok outcome =>
        (recvChunks streamId received.1 chunks).map fun others =>
          (others.1, others.2.map (outcome.1 ++ ·))

theorem recvChunks_agrees :
    ∀ (chunks : List Bytes) {h : H3 Q} {stream : H3Stream}, Reads streamId h stream →
      match (frameParser Q streamId).deliver (parserState h streamId stream) stream.buffer chunks with
      | .error e => ∃ h', recvChunks streamId h chunks = some (h', .error e)
      | .ok p => ∃ h' stream', recvChunks streamId h chunks = some (h', .ok p.2.2) ∧
          Reads streamId h' stream' ∧ parserState h' streamId stream' = p.1 ∧
          stream'.buffer = p.2.1
  | [], h, stream, hr => ⟨h, stream, rfl, hr, rfl, rfl⟩
  | chunk :: chunks, h, stream, hr => by
      have hfirst := recvRequestData_agrees hr chunk
      rw [Incremental.deliver]
      cases hadvance : (frameParser Q streamId).advance 1 (parserState h streamId stream)
          (stream.buffer ++ chunk) with
      | error e =>
        rw [hadvance] at hfirst
        obtain ⟨h', hrecv⟩ := hfirst
        exact ⟨h', by simp [recvChunks, hrecv]⟩
      | ok p =>
        rw [hadvance] at hfirst
        obtain ⟨h', stream', effects, hrecv, hr', hstate, hbuffer⟩ := hfirst
        have hrest := recvChunks_agrees chunks hr'
        rw [hstate, hbuffer] at hrest
        simp only [Except.bind]
        cases hdeliver : (frameParser Q streamId).deliver p.1 p.2.1 chunks with
        | error e =>
          rw [hdeliver] at hrest
          obtain ⟨h'', hothers⟩ := hrest
          exact ⟨h'', by simp [recvChunks, hrecv, hothers, Except.map]⟩
        | ok q =>
          rw [hdeliver] at hrest
          obtain ⟨h'', stream'', hothers, hr'', hstate', hbuffer'⟩ := hrest
          exact ⟨h'', stream'',
            by simp [recvChunks, hrecv, hothers, Except.map, Incremental.prepend],
            hr'', hstate', hbuffer'⟩

/-- The states of the layer in which a bidirectional stream has been opened
by the peer or bound to a request, and chunks without FIN have come. What
the layer does for other streams leaves this one alone. -/
inductive Receiving (streamId : StreamId) : H3 Q → Prop where
  | opened (h : H3 Q) : Receiving streamId (h.handleStreamOpened streamId).1
  | bound (h : H3 Q) : Receiving streamId (h.bindConnectStream streamId).1
  | received {h h' : H3 Q} {data : Bytes} {outcome : Outcome} : Receiving streamId h →
      h.recvRequestData streamId data false = some (h', .ok outcome) → Receiving streamId h'
  | elsewhere {h h' : H3 Q} : Receiving streamId h →
      h'.streams.get? streamId = h.streams.get? streamId →
      h'.maxCapsuleSize = h.maxCapsuleSize → Receiving streamId h'

/-- What every chunk leaves of a stream. -/
structure Kept (maxCapsuleSize : Nat) (streamId : StreamId) (stream : H3Stream) : Prop where
  coherent : stream.Coherent maxCapsuleSize streamId
  streamType : stream.isRequestStream = true → stream.streamType = none

theorem kept_empty : Kept maxCapsuleSize streamId {} :=
  ⟨H3Stream.coherent_empty, fun _ => rfl⟩

theorem awaitHeader_stored (hgone : h.streams.get? streamId = none)
    (hawait : h.awaitHeader streamId stream = (h', outcome)) :
    h'.maxCapsuleSize = h.maxCapsuleSize ∧
      ∀ s, h'.streams.get? streamId = some s → s = stream := by
  unfold awaitHeader at hawait
  split at hawait
  · cases hawait
    refine ⟨rfl, fun s hs => ?_⟩
    simp only [cleanupStream, OrderedMap.get?_erase_self] at hs
    cases hs
  · cases hawait
    refine ⟨rfl, fun s hs => ?_⟩
    rw [OrderedMap.get?_insert_self] at hs
    exact (Option.some.inj hs).symm

/-- The stream that is kept under its kind satisfies `P`. -/
def RequestKind.Keeps (P : H3Stream → Prop) : RequestKind → Prop
  | .webtransport stream | .request stream => P stream
  | .incomplete | .refused => True

/-- Whatever a stream is taken for, it stays as it should be. -/
theorem identifyRequest_kept (hk : Kept maxCapsuleSize streamId stream) :
    (h.identifyRequest stream).Keeps fun s =>
      Kept maxCapsuleSize streamId s ∧ s.ended = stream.ended := by
  unfold identifyRequest
  split
  · split
    · exact ⟨hk, rfl⟩
    · exact ⟨hk, rfl⟩
  · rename_i hnew
    simp only [Bool.or_eq_true, not_or, Bool.not_eq_true, Option.isSome_eq_false_iff,
      Option.isNone_iff_eq_none] at hnew
    split
    · trivial
    split
    · exact ⟨⟨⟨hk.coherent.notBlocked, hk.coherent.frame, hk.coherent.capsules⟩,
        fun hrequest => absurd hrequest (by simp [hnew.1])⟩, rfl⟩
    split
    · trivial
    · exact ⟨⟨⟨hk.coherent.notBlocked, hk.coherent.frame, hk.coherent.capsules⟩,
        fun _ => hnew.2⟩, rfl⟩

theorem feedStream_kept
    (hk : ∀ s, h.streams.get? streamId = some s → Kept h.maxCapsuleSize streamId s) (data : Bytes)
    (endStream : Bool) : Kept h.maxCapsuleSize streamId (h.feedStream streamId data endStream) := by
  have hstream : Kept h.maxCapsuleSize streamId ((h.streams.get? streamId).getD {}) := by
    cases hget : h.streams.get? streamId with
    | none => exact kept_empty
    | some s => exact hk s hget
  exact ⟨⟨hstream.coherent.notBlocked, hstream.coherent.frame, hstream.coherent.capsules⟩,
    hstream.streamType⟩

theorem finishRequestData_stored (h : H3 Q) (streamId : StreamId) (wasHeadersProcessed : Bool)
    (stream : H3Stream) (outcome : Outcome) :
    (h.finishRequestData streamId wasHeadersProcessed stream outcome).1.maxCapsuleSize =
        h.maxCapsuleSize ∧
      ∀ s, (h.finishRequestData streamId wasHeadersProcessed stream outcome).1.streams.get?
        streamId = some s → s = stream := by
  unfold finishRequestData
  split
  · refine ⟨rfl, fun s hs => ?_⟩
    simp only [cleanupStream, OrderedMap.get?_erase_self] at hs
    cases hs
  · refine ⟨rfl, fun s hs => ?_⟩
    rw [OrderedMap.get?_insert_self] at hs
    exact (Option.some.inj hs).symm

theorem recvRequestData_kept (hQ : Q.NonBlocking) {data : Bytes} {endStream : Bool}
    (hk : ∀ s, h.streams.get? streamId = some s → Kept h.maxCapsuleSize streamId s)
    (hrecv : h.recvRequestData streamId data endStream = some (h', .ok outcome)) :
    h'.maxCapsuleSize = h.maxCapsuleSize ∧
      ∀ s, h'.streams.get? streamId = some s → Kept h.maxCapsuleSize streamId s ∧
        s.ended = (h.feedStream streamId data endStream).ended := by
  have hfed := feedStream_kept hk data endStream
  simp only [recvRequestData] at hrecv
  generalize h.feedStream streamId data endStream = fed at hfed hrecv ⊢
  generalize hlayer : ({ h with streams := h.streams.erase streamId } : H3 Q) = layer at hrecv
  have hmax : layer.maxCapsuleSize = h.maxCapsuleSize := by rw [← hlayer]
  have hgone : layer.streams.get? streamId = none := by rw [← hlayer]; simp
  have hkind := identifyRequest_kept (h := layer) hfed
  cases hidentify : layer.identifyRequest fed with
  | incomplete =>
    simp only [hidentify, Option.some.injEq, Prod.mk.injEq, Except.ok.injEq] at hrecv
    obtain ⟨hsame, hstored⟩ := awaitHeader_stored hgone (Prod.ext hrecv.1 hrecv.2)
    refine ⟨hsame.trans hmax, fun s hs => ?_⟩
    rw [hstored s hs]
    exact ⟨hfed, rfl⟩
  | webtransport stream =>
    rw [hidentify] at hkind
    simp only [hidentify, parseStreamHeader] at hrecv
    split at hrecv
    · simp only [Option.some.injEq, Prod.mk.injEq, Except.ok.injEq] at hrecv
      obtain ⟨hsame, hstored⟩ := awaitHeader_stored hgone (Prod.ext hrecv.1 hrecv.2)
      refine ⟨hsame.trans hmax, fun s hs => ?_⟩
      rw [hstored s hs]
      exact hkind
    · split at hrecv
      · cases hrecv
      · cases hrecv
        refine ⟨hmax, fun s hs => ?_⟩
        rw [hgone] at hs
        cases hs
  | refused =>
    simp only [hidentify] at hrecv
    cases hrecv
  | request stream =>
    rw [hidentify] at hkind
    obtain ⟨hkept, hended⟩ := hkind
    have hsound : Sound streamId (layer, stream) := ⟨hmax ▸ hkept.coherent, fun _ => hQ⟩
    simp only [hidentify] at hrecv
    obtain ⟨⟨next, result⟩, hparse, heq⟩ := Option.map_eq_some_iff.mp hrecv
    cases result with
    | error e => cases heq
    | ok parsed =>
      obtain ⟨parsedStream, produced⟩ := parsed
      have hkeeps := parseStreamData_keeps hsound hparse
      have hmax' : next.maxCapsuleSize = h.maxCapsuleSize :=
        hkeeps.tracks.maxCapsuleSize.trans hmax
      obtain ⟨hsame, hstored⟩ := next.finishRequestData_stored streamId
        stream.headersProcessed parsedStream produced
      cases heq
      refine ⟨hsame.trans hmax', fun s hs => ?_⟩
      rw [hstored s hs]
      refine ⟨⟨hmax' ▸ hkeeps.sound.coherent, fun hrequest => ?_⟩,
        hkeeps.tracks.ended.trans hended⟩
      exact hkeeps.tracks.streamType.trans
        (hkept.streamType (hkeeps.tracks.isRequestStream.symm.trans hrequest))

theorem Receiving.invariant (hQ : Q.NonBlocking) (hr : Receiving streamId h) :
    ∀ s, h.streams.get? streamId = some s →
      Kept h.maxCapsuleSize streamId s ∧ s.ended = false := by
  induction hr with
  | opened h =>
    intro s hs
    simp only [handleStreamOpened, OrderedMap.get?_insert_self, Option.some.injEq] at hs
    subst hs
    exact ⟨kept_empty, rfl⟩
  | bound h =>
    intro s hs
    simp only [bindConnectStream, OrderedMap.get?_insert_self, Option.some.injEq] at hs
    subst hs
    exact ⟨⟨⟨rfl, Or.inl rfl, rfl⟩, fun _ => rfl⟩, rfl⟩
  | @received h h' data outcome _ hrecv ih =>
    obtain ⟨hmax, hstored⟩ := recvRequestData_kept hQ (fun s hs => (ih s hs).1) hrecv
    have hopen : (h.feedStream streamId data false).ended = false := by
      cases hget : h.streams.get? streamId with
      | none => simp [feedStream, hget]
      | some s => simp [feedStream, hget, (ih s hget).2]
    intro s hs
    rw [hmax, ← hopen]
    exact hstored s hs
  | elsewhere _ hget hmax ih =>
    rw [hget, hmax]
    exact ih

theorem Receiving.reads (hQ : Q.NonBlocking) (hr : Receiving streamId h)
    (hstored : h.streams.get? streamId = some stream) (hrequest : stream.isRequestStream = true) :
    Reads streamId h stream :=
  have hk := hr.invariant hQ stream hstored
  ⟨hstored, hrequest, hk.1.streamType hrequest, hk.2, ⟨hk.1.coherent, fun _ => hQ⟩⟩

/-! ## When the chunks can be observed -/

def sampleH3Parameters : H3Parameters where
  initialMaxData := 0
  initialMaxStreamsBidi := 0
  initialMaxStreamsUni := 0
  maxCapsuleSize := 64
  maxFieldSectionSize := 64

/-- A client that has bound a CONNECT request to stream 0. -/
def sampleClient : H3 plainQpack :=
  ((H3.new true sampleH3Parameters : H3 plainQpack).bindConnectStream 0).1

/-- An empty frame of a reserved type, and the response to the request. -/
def greasedResponse : Bytes :=
  [0x21, 0x00, 0x01, 0x0C, 0x07] ++ asciiBytes [':', 's', 't', 'a', 't', 'u', 's'] ++ [0x03] ++
    asciiBytes ['2', '0', '0']

end H3

end PyWebTransport

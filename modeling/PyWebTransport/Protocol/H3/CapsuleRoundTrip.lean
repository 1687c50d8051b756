/-
PyWebTransport.Protocol.H3.CapsuleRoundTrip — capsules over the wire.

`encode_capsule` puts a capsule into one DATA frame. Read by the frame
parser at a frame boundary, the frames of a list of capsules raise exactly
these capsules and end at a frame boundary again (`advance_capsules`), so
any chunks do (`capsules_round_trip`). A FIN at a frame boundary only adds
the event that the stream is closed: the loop then runs on an ended stream
as it does on an open one (`parseLoop_ended_of_open`).
-/
import PyWebTransport.Protocol.H3.RequestChunks

namespace PyWebTransport

open PyWebTransport.Lib

namespace H3

variable {Q : Qpack} {streamId : StreamId} {h : H3 Q} {stream : H3Stream}
  {value capsuleType : Nat} {capsuleValue last wire : Bytes} {pieces : List Bytes}
  {capsules : List (Nat × Bytes)}

/-! ## Writing capsules -/

theorem encodeVarint_ok {bytes : Bytes} (h : encodeVarint value = .ok bytes) :
    writeVarint value = .ok bytes := by
  unfold encodeVarint at h
  split at h
  · rename_i hwrite
    cases h
    exact hwrite
  · cases h

theorem encodeCapsule_ok (h : encodeCapsule streamId capsuleType capsuleValue = .ok pieces) :
    ∃ typeBytes lengthBytes frameTypeBytes frameSizeBytes,
      writeVarint capsuleType = .ok typeBytes ∧
      writeVarint capsuleValue.length = .ok lengthBytes ∧
      writeVarint h3FrameTypeData = .ok frameTypeBytes ∧
      writeVarint ((typeBytes ++ lengthBytes).length + capsuleValue.length) = .ok frameSizeBytes ∧
      pieces = [frameTypeBytes ++ frameSizeBytes, typeBytes ++ lengthBytes, capsuleValue] := by
  unfold encodeCapsule at h
  split at h
  · cases h
  · obtain ⟨typeBytes, htype, h⟩ := exists_of_bind_eq_ok h
    obtain ⟨lengthBytes, hlength, h⟩ := exists_of_bind_eq_ok h
    obtain ⟨_, hheader, rfl⟩ := exists_of_map_eq_ok h
    obtain ⟨frameTypeBytes, hframe, hheader⟩ := exists_of_bind_eq_ok hheader
    obtain ⟨frameSizeBytes, hsize, rfl⟩ := exists_of_map_eq_ok hheader
    exact ⟨typeBytes, lengthBytes, frameTypeBytes, frameSizeBytes, encodeVarint_ok htype,
      encodeVarint_ok hlength, encodeVarint_ok hframe, encodeVarint_ok hsize, rfl⟩

/-- The bytes of a list of capsules, each encoded on its own. -/
def encodeCapsules (streamId : StreamId) : List (Nat × Bytes) → Except WebTransportError Bytes
  | [] => .ok []
  | capsule :: capsules =>
    (encodeCapsule streamId capsule.1 capsule.2).bind fun pieces =>
      (encodeCapsules streamId capsules).map (pieces.flatten ++ ·)

theorem encodeVarint_isOk (h : value ≤ quicVarintLimit) :
    ∃ bytes, encodeVarint value = .ok bytes ∧ bytes.length ≤ 8 := by
  obtain ⟨bytes, hwrite⟩ := writeVarint_isOk_iff.mpr h
  exact ⟨bytes, by simp [encodeVarint, hwrite], length_writeVarint_le hwrite⟩

/-- Every capsule whose type and frame size have an encoding can be written. -/
theorem encodeCapsules_isOk (hid : isValidSessionId streamId = true) :
    ∀ {capsules : List (Nat × Bytes)},
      (∀ capsule ∈ capsules, capsule.1 ≤ quicVarintLimit ∧
        capsule.2.length + 16 ≤ quicVarintLimit) →
      ∃ wire, encodeCapsules streamId capsules = .ok wire
  | [], _ => ⟨[], rfl⟩
  | capsule :: capsules, hcapsules => by
      obtain ⟨htype, hlength⟩ := hcapsules capsule List.mem_cons_self
      obtain ⟨rest, hrest⟩ := encodeCapsules_isOk hid
        (fun other hmem => hcapsules other (List.mem_cons_of_mem _ hmem))
      obtain ⟨typeBytes, htypeBytes, htypeLength⟩ := encodeVarint_isOk htype
      have hvalue : capsule.2.length ≤ quicVarintLimit := by omega
      obtain ⟨lengthBytes, hlengthBytes, hlengthLength⟩ := encodeVarint_isOk hvalue
      have hdata : h3FrameTypeData ≤ quicVarintLimit := by decide
      obtain ⟨frameType, hframeType, -⟩ := encodeVarint_isOk hdata
      have hframe : (typeBytes ++ lengthBytes).length + capsule.2.length ≤ quicVarintLimit := by
        rw [List.length_append]
        omega
      obtain ⟨frameSize, hframeSize, -⟩ := encodeVarint_isOk hframe
      exact ⟨[frameType ++ frameSize, typeBytes ++ lengthBytes, capsule.2].flatten ++ rest, by
        simp only [encodeCapsules, encodeCapsule, hid, Bool.not_true, Bool.false_eq_true, if_false,
          htypeBytes, hlengthBytes, encodeFrameHeader, hframeType, hframeSize, hrest, Except.bind,
          Except.map]⟩

def capsuleEvents (streamId : StreamId) (capsules : List (Nat × Bytes)) : List ProtocolEvent :=
  capsules.map fun capsule => .h3CapsuleReceived streamId capsule.1 capsule.2

/-! ## Reading them back -/

/-- A CONNECT stream behind its headers, between two frames and two capsules. -/
structure AtBoundary (stream : H3Stream) : Prop where
  isConnectStream : stream.isConnectStream = true
  headersProcessed : stream.headersProcessed = true
  frameType : stream.frameType = none
  capsuleBuffer : stream.capsuleBuffer = []

theorem headerViolation_data {frameSize : Nat} :
    h.headerViolation streamId h3FrameTypeData frameSize = none := by
  simp [headerViolation, h3FrameTypeData, h3FrameTypeHeaders]

/-- A DATA frame that is there whole is one piece of data. -/
theorem advance_dataFrame (hclosed : stream.frameType = none)
    {frameTypeBytes frameSizeBytes payload : Bytes}
    (htype : writeVarint h3FrameTypeData = .ok frameTypeBytes)
    (hsize : writeVarint payload.length = .ok frameSizeBytes) (hpayload : payload ≠ [])
    (rest : Bytes) :
    (frameParser Q streamId).advance 1 (h, stream)
        (frameTypeBytes ++ frameSizeBytes ++ (payload ++ rest)) =
      (h.handleDataFrame streamId
        { withFrame stream h3FrameTypeData payload.length with frameSize := some 0 }
        payload).bind fun p =>
          ((frameParser Q streamId).advance 1 (h, closeFrame p.1 h3FrameTypeData) rest).map
            (Incremental.prepend p.2.1) := by
  have hpos : 0 < payload.length := List.length_pos_iff.mpr hpayload
  have hstep : (frameParser Q streamId).step (h, stream)
      (frameTypeBytes ++ frameSizeBytes ++ (payload ++ rest)) =
      some (.ok ⟨(h, withFrame stream h3FrameTypeData payload.length), payload ++ rest, [],
        false⟩) := by
    show parserStep streamId (h, stream) _ = _
    rw [parserStep_closed hclosed]
    simp only [openStep, readFrameHeader_encoded htype hsize, headerViolation_data,
      if_neg (Nat.ne_of_gt hpos)]
  have hopen : (withFrame stream h3FrameTypeData payload.length).frameType =
      some h3FrameTypeData := rfl
  rw [(frameParser Q streamId).advance_of_ok hstep]
  simp only [Bool.false_eq_true, if_false, Incremental.map_prepend_nil]
  rw [advance_data payload.length hopen rfl hpos (Nat.le_refl _) (by simp)]
  simp only [Nat.sub_self, List.take_left, List.drop_left, if_true]

theorem advance_capsule (hs : AtBoundary stream) (hsize : capsuleValue.length ≤ h.maxCapsuleSize)
    (hpieces : encodeCapsule streamId capsuleType capsuleValue = .ok pieces) (rest : Bytes) :
    ∃ stream', AtBoundary stream' ∧
      (frameParser Q streamId).advance 1 (h, stream) (pieces.flatten ++ rest) =
        ((frameParser Q streamId).advance 1 (h, stream') rest).map
          (Incremental.prepend [.h3CapsuleReceived streamId capsuleType capsuleValue]) := by
  obtain ⟨typeBytes, lengthBytes, frameTypeBytes, frameSizeBytes, htype, hlength, hframe, hframeSize,
    rfl⟩ := encodeCapsule_ok hpieces
  have hpayload : typeBytes ++ lengthBytes ++ capsuleValue ≠ [] := by
    have := length_writeVarint_pos htype
    intro hnil
    rw [List.append_eq_nil_iff, List.append_eq_nil_iff] at hnil
    rw [hnil.1.1] at this
    exact absurd this (Nat.lt_irrefl 0)
  have hwire : [frameTypeBytes ++ frameSizeBytes, typeBytes ++ lengthBytes, capsuleValue].flatten ++
      rest = frameTypeBytes ++ frameSizeBytes ++
        (typeBytes ++ lengthBytes ++ capsuleValue ++ rest) := by
    simp
  have hdrain := drainCapsules_encoded htype hlength hsize streamId []
  rw [List.append_nil] at hdrain
  rw [hwire, advance_dataFrame hs.frameType hframe (by rw [List.length_append]; exact hframeSize)
    hpayload, handleDataFrame_eq]
  simp only [withFrame, hs.isConnectStream, hs.headersProcessed, Bool.and_self, if_true,
    hs.capsuleBuffer, List.nil_append, hdrain]
  refine ⟨_, ?_, rfl⟩
  exact ⟨rfl, rfl, rfl, rfl⟩

/-- The frames of a list of capsules raise the capsules and nothing else. -/
theorem advance_capsules :
    ∀ {capsules : List (Nat × Bytes)} {wire : Bytes} {stream : H3Stream}, AtBoundary stream →
      (∀ capsule ∈ capsules, capsule.2.length ≤ h.maxCapsuleSize) →
      encodeCapsules streamId capsules = .ok wire →
      ∃ stream', AtBoundary stream' ∧ (frameParser Q streamId).advance 1 (h, stream) wire =
        .ok ((h, stream'), [], capsuleEvents streamId capsules)
  | [], wire, stream, hs, _, hwire => by
      cases hwire
      exact ⟨stream, hs, (frameParser Q streamId).advance_of_idle
        ((frameParser Q streamId).idle_nil _) 1⟩
  | capsule :: capsules, wire, stream, hs, hsize, hwire => by
      rw [encodeCapsules] at hwire
      obtain ⟨pieces, hpieces, hwire⟩ := exists_of_bind_eq_ok hwire
      obtain ⟨rest, hrest, rfl⟩ := exists_of_map_eq_ok hwire
      obtain ⟨next, hnext, hfirst⟩ :=
        advance_capsule hs (hsize capsule List.mem_cons_self) hpieces rest
      obtain ⟨stream', hs', hothers⟩ := advance_capsules hnext
        (fun other hmem => hsize other (List.mem_cons_of_mem _ hmem)) hrest
      exact ⟨stream', hs', by rw [hfirst, hothers]; rfl⟩

/-! ## The end of the stream -/

/-- FIN has no part in what a round does, only in whether the loop ends. -/
theorem consumeFrame_cases (h : H3 Q) :
    (∀ streamEnded, h.consumeFrame streamId stream streamEnded = (h, .ok (idleRound stream))) ∨
    ∃ h' result isEmpty, ∀ streamEnded, h.consumeFrame streamId stream streamEnded =
      (h', Except.map (fun p : H3Stream × Outcome => ⟨p.1, p.2, isEmpty && !streamEnded⟩)
        result) := by
  unfold consumeFrame
  split
  · rename_i currentType currentSize _ _
    by_cases hshort : currentType ≠ h3FrameTypeData ∧
        min currentSize stream.buffer.length < currentSize
    · exact Or.inl fun _ => by simp only [if_pos hshort]
    · simp only [if_neg hshort]
      generalize h.handleRequestFrame streamId _ currentType _ = handled
      refine Or.inr ⟨handled.1, handled.2.map fun p =>
        (if min currentSize stream.buffer.length = currentSize then closeFrame p.1 currentType
          else p.1, p.2), decide (min currentSize stream.buffer.length = 0), fun streamEnded => ?_⟩
      cases handled.2 <;> rfl
  · exact Or.inl fun _ => rfl

theorem parseLoop_atEnd (hbuffer : stream.buffer = []) (hclosed : stream.frameType = none)
    (streamEnded : Bool) (fuel : Nat) :
    parseLoop streamId streamEnded (fuel + 1) h stream = some (h, .ok (stream, [], [])) := by
  have hround : h.parseRound streamId stream streamEnded = (h, .ok (idleRound stream)) := by
    simp only [parseRound, openFrame, hbuffer, hclosed, readFrameHeader_nil]
    split
    · rfl
    · split
      · rfl
      · simp
  rw [parseLoop_succ, hround]
  rfl

/-- A loop that ends at a frame boundary with nothing left ends there with
FIN too, one round later. -/
theorem parseLoop_ended_of_open :
    ∀ (fuel : Nat) {h h' : H3 Q} {stream stream' : H3Stream} {outcome : Outcome},
      parseLoop streamId false fuel h stream = some (h', .ok (stream', outcome)) →
      stream'.buffer = [] → stream'.frameType = none →
      parseLoop streamId true (fuel + 1) h stream = some (h', .ok (stream', outcome))
  | 0, _, _, _, _, _, hloop, _, _ => by cases hloop
  | fuel + 1, h, h', stream, stream', outcome, hloop, hbuffer, hclosed => by
      by_cases hend : stream.buffer = [] ∧ stream.frameType = none
      · rw [parseLoop_atEnd hend.1 hend.2] at hloop ⊢
        exact hloop
      rw [parseLoop_succ] at hloop ⊢
      unfold parseRound at hloop ⊢
      by_cases hblocked : stream.blocked = true
      · simp only [if_pos hblocked] at hloop ⊢
        exact hloop
      simp only [if_neg hblocked] at hloop ⊢
      by_cases hempty : stream.buffer = []
      · -- an open loop stops on an empty buffer, and was not at a boundary
        simp only [hempty, List.isEmpty_nil, Bool.not_false, Bool.and_self, if_true, afterRound,
          idleRound, Option.some.injEq, Prod.mk.injEq, Except.ok.injEq] at hloop
        rw [← hloop.2.1] at hclosed
        exact absurd ⟨hempty, hclosed⟩ hend
      have hsome : ∀ streamEnded, (stream.buffer.isEmpty && !streamEnded) = false := by
        intro streamEnded
        simp [hempty]
      simp only [hsome, Bool.false_eq_true, if_false] at hloop ⊢
      cases hopen : h.openFrame streamId stream with
      | error e =>
        simp only [hopen] at hloop
        cases hloop
      | ok opened =>
        cases opened with
        | none =>
          simp only [hopen] at hloop ⊢
          exact hloop
        | some opened =>
          simp only [hopen] at hloop ⊢
          rcases h.consumeFrame_cases with hidle | ⟨h₁, result, isEmpty, hpass⟩
          · rw [hidle] at hloop ⊢
            exact hloop
          · rw [hpass] at hloop ⊢
            cases result with
            | error e => cases hloop
            | ok p =>
              simp only [afterRound, Except.map, Bool.not_false, Bool.and_true,
                Bool.not_true, Bool.and_false, Bool.false_eq_true, if_false] at hloop ⊢
              split at hloop
              · simp only [Option.some.injEq, Prod.mk.injEq, Except.ok.injEq] at hloop
                obtain ⟨rfl, rfl, rfl⟩ := hloop
                rw [parseLoop_atEnd hbuffer hclosed]
                simp
              · cases hothers : parseLoop streamId false fuel h₁ p.1 with
                | none => rw [hothers] at hloop; cases hloop
                | some others =>
                  obtain ⟨h₂, rest⟩ := others
                  cases rest with
                  | error e => rw [hothers] at hloop; cases hloop
                  | ok rest =>
                    rw [hothers] at hloop
                    simp only [Option.map_some, Option.some.injEq, Prod.mk.injEq,
                      Except.ok.injEq] at hloop
                    obtain ⟨rfl, rfl, rfl⟩ := hloop
                    rw [parseLoop_ended_of_open fuel hothers hbuffer hclosed]
                    rfl

/-- The state with the stream marked as ended, which no move looks at. -/
def markEnded (s : ParserState Q) : ParserState Q := (s.1, { s.2 with ended := true })

theorem passOn_markEnded (streamId : StreamId) (s : ParserState Q) (frameType frameSize : Nat)
    (piece rest : Bytes) (pauses : Bool) :
    passOn streamId (markEnded s) frameType frameSize piece rest pauses =
      (passOn streamId s frameType frameSize piece rest pauses).map
        fun m => { m with next := markEnded m.next } := by
  simp only [passOn, markEnded]
  have hended := handleRequestFrame_inert (inert_ended true) s.1 streamId
    { s.2 with frameSize := some (frameSize - piece.length) } frameType piece
  simp only at hended
  rw [hended]
  generalize s.1.handleRequestFrame streamId _ frameType piece = handled
  cases handled.2 with
  | error e => rfl
  | ok p =>
    simp only [Except.map]
    split
    · rfl
    · rfl

theorem parserStep_markEnded (s : ParserState Q) (input : Bytes) :
    parserStep streamId (markEnded s) input =
      (parserStep streamId s input).map
        (Except.map fun m => { m with next := markEnded m.next }) := by
  cases htype : s.2.frameType with
  | none =>
    have htype' : (markEnded s).2.frameType = none := htype
    rw [parserStep_closed htype, parserStep_closed htype']
    unfold openStep
    cases readFrameHeader input with
    | none => rfl
    | some header =>
      simp only [markEnded]
      cases s.1.headerViolation streamId header.1 header.2.1 with
      | some e => rfl
      | none =>
        simp only
        split
        · have hpass := passOn_markEnded streamId
            (s.1, withFrame s.2 header.1 header.2.1) header.1 0 [] header.2.2 true
          simp only [Option.map_some, Option.some.injEq]
          exact hpass
        · rfl
  | some frameType =>
    have htype' : (markEnded s).2.frameType = some frameType := htype
    cases hsize : s.2.frameSize with
    | none => simp [parserStep, markEnded, htype, hsize]
    | some frameSize =>
      have hsize' : (markEnded s).2.frameSize = some frameSize := hsize
      rw [parserStep_open htype hsize, parserStep_open htype' hsize']
      cases input with
      | nil => rfl
      | cons byte rest =>
        simp only [frameStep, passOn_markEnded]
        split
        · rfl
        · split
          · rfl
          · rfl

/-- Deliver chunks without FIN, and then the last bytes with it. -/
def recvToEnd (streamId : StreamId) (h : H3 Q) (chunks : List Bytes) (last : Bytes) :
    Option (H3 Q × Except WebTransportError (List ProtocolEvent)) :=
  (recvChunks streamId h chunks).bind fun received =>
    match received.2 with
    | .error e => some (received.1, .error e)
    | .ok events =>
      (received.1.recvRequestData streamId last true).map fun finished =>
        (finished.1, finished.2.map fun outcome => events ++ outcome.1)

/-- FIN behind bytes that end at a frame boundary closes the stream. -/
theorem recvRequestData_fin (hr : Reads streamId h stream) {t : ParserState Q}
    {events : List ProtocolEvent}
    (hadvance : (frameParser Q streamId).advance 1 (parserState h streamId stream)
      (stream.buffer ++ last) = .ok (t, [], events)) (hclosed : t.2.frameType = none)
    (hconnect : t.2.isConnectStream = true) :
    ∃ h' effects, h.recvRequestData streamId last true =
      some (h', .ok (events ++ [.h3ConnectStreamClosed streamId], effects)) := by
  have hended := (frameParser Q streamId).advance_map parserStep_markEnded 1
    (parserState h streamId stream) (stream.buffer ++ last)
  rw [hadvance] at hended
  have hsound : Sound streamId (markEnded (parserState h streamId stream)) :=
    ⟨⟨hr.sound.coherent.notBlocked, hr.sound.coherent.frame, hr.sound.coherent.capsules⟩,
      hr.sound.nonBlocking⟩
  have hagrees : Agrees
      (parseLoop streamId false ((stream.buffer ++ last).length + 1) (parserState h streamId stream).1
        { stream with buffer := stream.buffer ++ last, ended := true })
      ((frameParser Q streamId).advance 1 (markEnded (parserState h streamId stream))
        (stream.buffer ++ last)) :=
    parseLoop_agrees streamId _ _ _ (stream.buffer ++ last) (Nat.lt_succ_self _) hsound
  rw [hended] at hagrees
  obtain ⟨effects, hloop⟩ := hagrees
  have hfin := parseLoop_ended_of_open _ hloop rfl hclosed
  have hblocked : stream.blocked = false := hr.sound.coherent.notBlocked
  rw [recvRequestData_request hr]
  simp only [parseStreamData, hblocked, Bool.false_eq_true, if_false]
  simp only [hblocked] at hfin
  rw [hfin]
  simp only [Option.map_some, finishRequestData, markEnded, List.isEmpty_nil, Bool.and_self, if_true,
    hconnect]
  exact ⟨_, _, rfl⟩

/-! ## The round trip -/

/-- A CONNECT stream behind its headers with nothing left in its buffers, as
`recv_request_data` keeps it. -/
structure ReadyForCapsules (streamId : StreamId) (h : H3 Q) (stream : H3Stream) : Prop where
  stored : h.streams.get? streamId = some stream
  isRequest : stream.isRequestStream = true
  streamType : stream.streamType = none
  notBlocked : stream.blocked = false
  ended : stream.ended = false
  buffer : stream.buffer = []
  boundary : AtBoundary stream

section

variable (hready : ReadyForCapsules streamId h stream)
include hready

theorem ReadyForCapsules.reads :
    Reads streamId h stream where
  stored := hready.stored
  isRequest := hready.isRequest
  streamType := hready.streamType
  ended := hready.ended
  sound := by
    refine ⟨⟨hready.notBlocked, Or.inl hready.boundary.frameType, ?_⟩, ?_⟩
    · simp only [hready.boundary.capsuleBuffer]
      rfl
    · simp only [hready.boundary.headersProcessed]
      intro h
      cases h

theorem ReadyForCapsules.advance (hsize : ∀ capsule ∈ capsules, capsule.2.length ≤ h.maxCapsuleSize)
    (hwire : encodeCapsules streamId capsules = .ok wire) :
    ∃ t : ParserState Q, AtBoundary t.2 ∧ (frameParser Q streamId).advance 1
      (parserState h streamId stream) (stream.buffer ++ wire) =
        .ok (t, [], capsuleEvents streamId capsules) := by
  have hboundary : AtBoundary (parserState h streamId stream).2 :=
    ⟨hready.boundary.isConnectStream, hready.boundary.headersProcessed, hready.boundary.frameType,
      hready.boundary.capsuleBuffer⟩
  have hsize' : ∀ capsule ∈ capsules,
      capsule.2.length ≤ (parserState h streamId stream).1.maxCapsuleSize := hsize
  obtain ⟨stream', hs', hadvance⟩ := advance_capsules hboundary hsize' hwire
  exact ⟨_, hs', by rw [hready.buffer]; exact hadvance⟩

/-- With FIN on the last bytes, however little these are. -/
theorem ReadyForCapsules.recvToEnd
    (hsize : ∀ capsule ∈ capsules, capsule.2.length ≤ h.maxCapsuleSize)
    (hwire : encodeCapsules streamId capsules = .ok wire) {chunks : List Bytes}
    (hcut : (chunks ++ [last]).flatten = wire) :
    ∃ h', H3.recvToEnd streamId h chunks last =
      some (h', .ok (capsuleEvents streamId capsules ++ [.h3ConnectStreamClosed streamId])) := by
  obtain ⟨t, ht, hadvance⟩ := hready.advance hsize hwire
  rw [← hcut] at hadvance
  have hdeliver := (frameParser Q streamId).deliver_of_consumed hadvance (by simp)
  rw [Incremental.deliver_append] at hdeliver
  have hchunks := recvChunks_agrees chunks hready.reads
  obtain ⟨p, hfirst, hdeliver⟩ := exists_of_bind_eq_ok hdeliver
  rw [hfirst] at hchunks
  obtain ⟨h₁, stream₁, hrecv, hreads, hstate, hbuffer⟩ := hchunks
  obtain ⟨_, hrest, hdeliver⟩ := exists_of_map_eq_ok hdeliver
  obtain ⟨q, hlast, hq⟩ := exists_of_bind_eq_ok hrest
  cases hq
  simp only [Incremental.prepend, List.append_nil, Prod.mk.injEq] at hdeliver
  obtain ⟨hq, hrest, hevents⟩ := hdeliver
  rw [← hstate, ← hbuffer] at hlast
  have hlast' : (frameParser Q streamId).advance 1 (parserState h₁ streamId stream₁)
      (stream₁.buffer ++ last) = .ok (t, [], q.2.2) := by
    rw [hlast, ← hq, ← hrest]
  obtain ⟨h₂, effects, hfin⟩ := recvRequestData_fin hreads hlast' ht.frameType
    ht.isConnectStream
  refine ⟨h₂, ?_⟩
  rw [H3.recvToEnd, hrecv]
  simp only [Option.bind_some, hfin, Option.map_some, Except.map, ← hevents,
    List.append_assoc]

end

/-- Capsules written by `encode_capsule` and cut into any chunks are
received as they were, in order and with nothing else; FIN on or behind the
last chunk adds that the stream is closed. -/
theorem capsules_round_trip {streamId : StreamId} {h : H3 Q} {stream : H3Stream}
    (hready : ReadyForCapsules streamId h stream) {capsules : List (Nat × Bytes)}
    (hsize : ∀ capsule ∈ capsules, capsule.2.length ≤ h.maxCapsuleSize) {wire : Bytes}
    (hwire : encodeCapsules streamId capsules = .ok wire) :
    (∀ chunks, Incremental.IsChunking wire chunks →
      ∃ h', recvChunks streamId h chunks = some (h', .ok (capsuleEvents streamId capsules))) ∧
    (∀ chunks last, Incremental.IsChunking wire (chunks ++ [last]) →
      ∃ h', recvToEnd streamId h chunks last =
        some (h', .ok (capsuleEvents streamId capsules ++ [.h3ConnectStreamClosed streamId]))) ∧
    (∀ chunks, Incremental.IsChunking wire chunks →
      ∃ h', recvToEnd streamId h chunks [] =
        some (h', .ok (capsuleEvents streamId capsules ++
          [.h3ConnectStreamClosed streamId]))) := by
  refine ⟨fun chunks hcut => ?_, fun chunks last hcut => ?_, fun chunks hcut => ?_⟩
  · obtain ⟨t, -, hadvance⟩ := hready.advance hsize hwire
    have hdeliver : ∃ t' rest, (frameParser Q streamId).deliver (parserState h streamId stream)
        stream.buffer chunks = .ok (t', rest, capsuleEvents streamId capsules) := by
      cases chunks with
      | nil =>
        rw [← hcut.flatten, hready.buffer, List.flatten_nil, List.append_nil] at hadvance
        rw [(frameParser Q streamId).advance_of_idle ((frameParser Q streamId).idle_nil _)]
          at hadvance
        simp only [Except.ok.injEq, Prod.mk.injEq] at hadvance
        exact ⟨_, _, by rw [← hadvance.2.2]; rfl⟩
      | cons chunk chunks =>
        rw [← hcut.flatten] at hadvance
        exact ⟨_, _, (frameParser Q streamId).deliver_of_consumed hadvance (by simp)⟩
    obtain ⟨t', rest, hdeliver⟩ := hdeliver
    have hchunks := recvChunks_agrees chunks hready.reads
    rw [hdeliver] at hchunks
    obtain ⟨h', stream', hrecv, -⟩ := hchunks
    exact ⟨h', hrecv⟩
  · exact hready.recvToEnd hsize hwire hcut.flatten
  · exact hready.recvToEnd hsize hwire (by simpa using hcut.flatten)

/-- The client with the response to its request. -/
def establishedClient : H3 plainQpack :=
  { sampleClient with
    streams := (sampleClient.streams.erase 0).insert 0
      { isConnectStream := true, isRequestStream := true, headersProcessed := true } }

theorem capsules_round_trip_established :
    let wire : Bytes := [0x00, 0x03, 0x3D, 0x01, 0x07, 0x00, 0x02, 0x21, 0x00]
    let events : List ProtocolEvent := [.h3CapsuleReceived 0 0x3D [7], .h3CapsuleReceived 0 0x21 []]
    (∀ chunks, Incremental.IsChunking wire chunks →
      ∃ h', recvChunks 0 establishedClient chunks = some (h', .ok events)) ∧
    (∀ chunks last, Incremental.IsChunking wire (chunks ++ [last]) →
      ∃ h', recvToEnd 0 establishedClient chunks last =
        some (h', .ok (events ++ [.h3ConnectStreamClosed 0]))) ∧
    (∀ chunks, Incremental.IsChunking wire chunks →
      ∃ h', recvToEnd 0 establishedClient chunks [] =
        some (h', .ok (events ++ [.h3ConnectStreamClosed 0]))) :=
  have hsize : ∀ capsule ∈ [((0x3D : Nat), ([7] : Bytes)), (0x21, [])],
      capsule.2.length ≤ establishedClient.maxCapsuleSize := by decide
  capsules_round_trip ⟨rfl, rfl, rfl, rfl, rfl, rfl, ⟨rfl, rfl, rfl, rfl⟩⟩ hsize rfl

end H3

end PyWebTransport

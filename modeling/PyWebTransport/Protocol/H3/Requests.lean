/-
PyWebTransport.Protocol.H3.Requests — the state of the HTTP/3 layer
(`protocol/h3.rs`): the table of streams that are not handed to a session,
the local streams, the encoding of headers, and the frame and capsule
parsers of a request stream.

A fallible `&mut self` method returns the new state, also when it fails,
and an `Except` for the source's `Result`. The source takes a stream out of
the table while it works on it, so on an error the stream is gone; the
model does the same.

The frame loop of `parse_stream_data` need not end: a FIN in the middle of
a DATA frame leaves it turning without input. The loop takes one unit of
fuel per round, as many as any terminating run needs, and `none` is a loop
that never returns; methods that may run it are `Option`-valued.
-/
import PyWebTransport.Protocol.H3.Messages

namespace PyWebTransport

open PyWebTransport.Lib

structure H3Parameters where
  initialMaxData : Nat
  initialMaxStreamsBidi : Nat
  initialMaxStreamsUni : Nat
  maxCapsuleSize : Nat
  maxFieldSectionSize : Nat
deriving DecidableEq

structure H3Stream where
  blocked : Bool := false
  blockedFrameSize : Option Nat := none
  buffer : Bytes := []
  capsuleBuffer : Bytes := []
  ended : Bool := false
  frameSize : Option Nat := none
  frameType : Option Nat := none
  headersProcessed : Bool := false
  isConnectStream : Bool := false
  isRequestStream : Bool := false
  streamType : Option Nat := none
deriving DecidableEq

structure H3 (Q : Qpack) where
  blockedStreams : Nat
  decoder : Q.Decoder
  encoder : Q.Encoder
  initialMaxData : Nat
  initialMaxStreamsBidi : Nat
  initialMaxStreamsUni : Nat
  isClient : Bool
  localControlStreamId : Option StreamId
  localDecoderStreamId : Option StreamId
  localEncoderStreamId : Option StreamId
  maxCapsuleSize : Nat
  maxFieldSectionSize : Nat
  maxTableCapacity : Nat
  peerControlStreamId : Option StreamId
  peerDecoderStreamId : Option StreamId
  peerEncoderStreamId : Option StreamId
  peerMaxPushId : Option Nat
  settingsReceived : Bool
  streams : OrderedMap StreamId H3Stream

namespace H3

variable {Q : Qpack}

def qpackDecoderBlockedStreamCapacity : Nat := 0
def qpackDecoderTableCapacity : Nat := 0
def qpackEncoderBlockedStreamCapacity : Nat := 0
def qpackEncoderTableCapacity : Nat := 0

/-- What a handler produces: events for the connection and effects. -/
abbrev Outcome := List ProtocolEvent × List Effect

def new ( isClient : Bool) (parameters : H3Parameters) : H3 Q where
  blockedStreams := qpackDecoderBlockedStreamCapacity
  decoder := Q.newDecoder qpackDecoderTableCapacity qpackDecoderBlockedStreamCapacity
  encoder := Q.newEncoder qpackEncoderTableCapacity qpackEncoderBlockedStreamCapacity
  initialMaxData := parameters.initialMaxData
  initialMaxStreamsBidi := parameters.initialMaxStreamsBidi
  initialMaxStreamsUni := parameters.initialMaxStreamsUni
  isClient := isClient
  localControlStreamId := none
  localDecoderStreamId := none
  localEncoderStreamId := none
  maxCapsuleSize := parameters.maxCapsuleSize
  maxFieldSectionSize := parameters.maxFieldSectionSize
  maxTableCapacity := qpackDecoderTableCapacity
  peerControlStreamId := none
  peerDecoderStreamId := none
  peerEncoderStreamId := none
  peerMaxPushId := none
  settingsReceived := false
  streams := ∅

/-- Instructions for the peer's QPACK half, when there are any and the
stream that carries them is open. -/
def sendInstructions (streamId : Option StreamId) (instructions : Bytes) : List Effect :=
  if instructions.isEmpty then []
  else streamId.toList.map (fun streamId => .sendQuicData streamId instructions false)

/-! ## Local streams and the table -/

def bindConnectStream (h : H3 Q) (streamId : StreamId) : H3 Q × List Effect :=
  let stream : H3Stream := { isConnectStream := true, isRequestStream := true }
  ({ h with streams := h.streams.insert streamId stream }, [.receiveQuicData streamId u64Max])

def cleanupStream (h : H3 Q) (streamId : StreamId) : H3 Q × List Effect :=
  let abandoned := Q.abandonHeaderBlock h.decoder streamId
  ({ h with decoder := abandoned.1, streams := h.streams.erase streamId },
    sendInstructions h.localDecoderStreamId abandoned.2)

def localSettings (h : H3 Q) : H3Settings where
  enableConnectProtocol := some 1
  h3Datagram := some 1
  maxFieldSectionSize := some h.maxFieldSectionSize
  qpackBlockedStreams := some h.blockedStreams
  qpackMaxTableCapacity := some h.maxTableCapacity
  wtEnabled := some 1
  wtInitialMaxData := some h.initialMaxData
  wtInitialMaxStreamsBidi := some h.initialMaxStreamsBidi
  wtInitialMaxStreamsUni := some h.initialMaxStreamsUni

def initializeSettings (h : H3 Q) : Except WebTransportError Bytes :=
  (encodeSettings h.localSettings).bind fun payload =>
    (encodeFrameHeader h3FrameTypeSettings payload.length).map fun header => header ++ payload

def setLocalStreamIds (h : H3 Q) (controlStreamId encoderStreamId decoderStreamId : StreamId) :
    Except WebTransportError (H3 Q) :=
  if !isUnidirectionalStream controlStreamId then
    .error (.protocol (some errH3IdError) "h3_control_stream validate invalid")
  else if !isUnidirectionalStream encoderStreamId then
    .error (.protocol (some errH3IdError) "qpack_encoder_stream validate invalid")
  else if !isUnidirectionalStream decoderStreamId then
    .error (.protocol (some errH3IdError) "qpack_decoder_stream validate invalid")
  else if controlStreamId = encoderStreamId ∨ controlStreamId = decoderStreamId ∨
      encoderStreamId = decoderStreamId then
    .error (.protocol (some errLibInternalError) "h3_stream validate invalid")
  else if h.localControlStreamId.isSome || h.localEncoderStreamId.isSome ||
      h.localDecoderStreamId.isSome then
    .error (.protocol (some errLibInternalError) "h3_stream validate failed")
  else
    .ok { h with
      localControlStreamId := some controlStreamId
      localEncoderStreamId := some encoderStreamId
      localDecoderStreamId := some decoderStreamId }

/-- The first bytes of a unidirectional stream: its type, then `data`. -/
def streamPreface (streamType : Nat) (data : Bytes) : Except WebTransportError Bytes :=
  (encodeVarint streamType).map (· ++ data)

def bindLocalStreams (h : H3 Q) (controlStreamId encoderStreamId decoderStreamId : StreamId) :
    H3 Q × List Effect :=
  match h.initializeSettings with
  | .error _ => (h, [.closeQuicConnection errH3InternalError (some "h3_settings encode failed")])
  | .ok settingsFrame =>
    match h.setLocalStreamIds controlStreamId encoderStreamId decoderStreamId with
    | .error _ => (h, [.closeQuicConnection errH3InternalError (some "h3_stream encode failed")])
    | .ok h =>
      match streamPreface h3StreamTypeControl settingsFrame,
          streamPreface h3StreamTypeQpackEncoder [],
          streamPreface h3StreamTypeQpackDecoder [] with
      | .ok controlData, .ok encoderData, .ok decoderData =>
        (h, [.sendQuicData controlStreamId controlData false,
          .sendQuicData encoderStreamId encoderData false,
          .sendQuicData decoderStreamId decoderData false])
      | _, _, _ =>
        (h, [.closeQuicConnection errH3InternalError (some "h3_stream encode failed")])

def failLocalStreams : List Effect :=
  [.closeQuicConnection errH3GeneralProtocolError (some "h3_stream create failed")]

def handleStreamOpened (h : H3 Q) (streamId : StreamId) : H3 Q × List Effect :=
  ({ h with streams := h.streams.insert streamId {} }, [.receiveQuicData streamId 1])

def resumeRequestStream (h : H3 Q) (streamId : StreamId) : List Effect :=
  match h.streams.get? streamId with
  | none => []
  | some stream =>
    if stream.blocked || stream.ended then [] else [.receiveQuicData streamId u64Max]

def stopRequestStream (h : H3 Q) (streamId : StreamId) : H3 Q × List Effect :=
  if !h.streams.contains streamId then (h, [])
  else
    let cleaned := h.cleanupStream streamId
    (cleaned.1, .stopQuicStream streamId errWtSessionGone :: cleaned.2)

/-! ## Sending headers -/

def encodeHeaders (h : H3 Q) (streamId : StreamId) (headers : Headers) (endStream : Bool) :
    H3 Q × Except WebTransportError (List Effect) :=
  let encoded := Q.encode h.encoder streamId headers
  ({ h with encoder := encoded.1 },
    match encoded.2 with
    | .error _ =>
      .error (.protocol (some errQpackEncoderStreamError) "qpack_encoder encode failed")
    | .ok (framePayload, encoderInstructions) =>
      (encodeFrameHeader h3FrameTypeHeaders framePayload.length).map fun frameHeader =>
        sendInstructions h.localEncoderStreamId encoderInstructions ++
          [.sendQuicData streamId frameHeader false,
            .sendQuicData streamId framePayload endStream])

def connectRequestHeaders (authority path : String) (headers : Headers) : Headers :=
  [(asciiBytes [':', 'm', 'e', 't', 'h', 'o', 'd'], connectMethod),
    (asciiBytes [':', 's', 'c', 'h', 'e', 'm', 'e'], asciiBytes ['h', 't', 't', 'p', 's']),
    (asciiBytes [':', 'a', 'u', 't', 'h', 'o', 'r', 'i', 't', 'y'], utf8Bytes authority),
    (asciiBytes [':', 'p', 'a', 't', 'h'], utf8Bytes path),
    (asciiBytes [':', 'p', 'r', 'o', 't', 'o', 'c', 'o', 'l'], wtUpgradeToken)] ++ headers

def encodeConnectRequest (h : H3 Q) (streamId : StreamId) (authority path : String)
    (headers : Headers) : H3 Q × Except WebTransportError (List Effect) :=
  h.encodeHeaders streamId (connectRequestHeaders authority path headers) false

/-! ## Request frames -/

inductive HeaderDecodeStatus where
  | blocked
  | done (headers : Headers) (effects : List Effect)

def decodeHeaders (h : H3 Q) (streamId : StreamId) (frameData : Option Bytes) :
    H3 Q × Except WebTransportError HeaderDecodeStatus :=
  let decoded : Q.Decoder × Except String (Bytes × DecodeStatus) :=
    match frameData with
    | some frameData => Q.decodeHeader h.decoder streamId frameData
    | none =>
      let resumed := Q.resumeHeader h.decoder streamId
      (resumed.1, resumed.2.map fun (instructions, headers) =>
        (instructions, match headers with
          | some headers => .done headers
          | none => .blocked))
  ({ h with decoder := decoded.1 },
    match decoded.2 with
    | .error _ =>
      .error (.protocol (some errQpackDecompressionFailed) "h3_headers decode invalid")
    | .ok (instructions, .done headers) =>
      .ok (.done headers (sendInstructions h.localDecoderStreamId instructions))
    | .ok (_, .blocked) => .ok .blocked)

/-- The loop of `parse_capsules` on the capsule buffer: the capsules it holds
whole, and what is left of it. -/
def parseCapsulesLoop (maxCapsuleSize : Nat) (streamId : StreamId) :
    Nat → Bytes → Except WebTransportError (Bytes × List ProtocolEvent)
  | 0, buffer => .ok (buffer, [])
  | fuel + 1, buffer =>
    match readVarint buffer with
    | .error _ => .ok (buffer, [])
    | .ok (capsuleType, rest) =>
      match readVarint rest with
      | .error _ => .ok (buffer, [])
      | .ok (capsuleLength, payload) =>
        if capsuleLength > maxCapsuleSize then
          .error (.stream streamId (some errH3MessageError) "wt_capsule validate exceeded")
        else if payload.length < capsuleLength then .ok (buffer, [])
        else
          (parseCapsulesLoop maxCapsuleSize streamId fuel (payload.drop capsuleLength)).map
            fun (buffer, events) =>
              (buffer, .h3CapsuleReceived streamId capsuleType
                (payload.take capsuleLength) :: events)

/-- Every capsule takes at least two bytes, so the buffer's length bounds the loop. -/
def parseCapsules (h : H3 Q) (streamId : StreamId) (stream : H3Stream) :
    Except WebTransportError (H3Stream × List ProtocolEvent) :=
  (parseCapsulesLoop h.maxCapsuleSize streamId stream.capsuleBuffer.length
    stream.capsuleBuffer).map
      fun (capsuleBuffer, events) => ({ stream with capsuleBuffer := capsuleBuffer }, events)

/-- The frame types that have no place on a request stream. -/
def isForbiddenRequestFrame (frameType : Nat) : Bool :=
  frameType = h3FrameTypeCancelPush || frameType = h3FrameTypeGoaway ||
  frameType = h3FrameTypeMaxPushId || frameType = h3FrameTypeReservedContinuation ||
  frameType = h3FrameTypeReservedPing || frameType = h3FrameTypeReservedPriority ||
  frameType = h3FrameTypeReservedWindowUpdate || frameType = h3FrameTypeSettings

def handleDataFrame (h : H3 Q) (streamId : StreamId) (stream : H3Stream) (payload : Bytes) :
    Except WebTransportError (H3Stream × Outcome) :=
  if stream.isConnectStream && stream.headersProcessed then
    let filled := { stream with capsuleBuffer := stream.capsuleBuffer ++ payload }
    (h.parseCapsules streamId filled).map fun (stream, events) => (stream, events, [])
  else .ok (stream, [], [])

def handleHeadersFrame (h : H3 Q) (streamId : StreamId) (stream : H3Stream) (frameData : Bytes) :
    H3 Q × Except WebTransportError (H3Stream × Outcome) :=
  if stream.headersProcessed then
    (h, .error (.stream streamId (some errH3FrameUnexpected) "h3_headers validate failed"))
  else
    let decoded := h.decodeHeaders streamId (some frameData)
    (decoded.1,
      match decoded.2 with
      | .error e => .error e
      | .ok .blocked =>
        .ok ({ stream with blocked := true, frameType := some h3FrameTypeHeaders }, [], [])
      | .ok (.done headers effects) =>
        (if h.isClient then validateResponseHeaders streamId headers
          else validateRequestHeaders streamId headers).map fun _ =>
            ({ stream with
                isConnectStream := stream.isConnectStream ||
                  findHeader headers (asciiBytes [':', 'p', 'r', 'o', 't', 'o', 'c', 'o', 'l']) =
                    some wtUpgradeToken
                blocked := false
                headersProcessed := true },
              [.h3HeadersReceived streamId headers], effects))

/-- One frame, or one piece of a DATA frame. The source passes the payload
as an `Option`, which is never empty at its one call. -/
def handleRequestFrame (h : H3 Q) (streamId : StreamId) (stream : H3Stream) (frameType : Nat)
    (frameData : Bytes) : H3 Q × Except WebTransportError (H3Stream × Outcome) :=
  if isForbiddenRequestFrame frameType then
    (h, .error (.protocol (some errH3FrameUnexpected) "h3_stream validate invalid"))
  else if frameType = h3FrameTypeData then (h, h.handleDataFrame streamId stream frameData)
  else if frameType = h3FrameTypeHeaders then h.handleHeadersFrame streamId stream frameData
  else if frameType = h3FrameTypePushPromise then
    (h, .error (.protocol (some errH3FrameUnexpected) "h3_push_promise validate invalid"))
  else if frameType = h3FrameTypeWtStream then
    (h, .error (.protocol (some errH3FrameError) "h3_stream validate invalid"))
  else (h, .ok (stream, [], []))

/-- The type and size at the front of the buffer, and the rest of it. -/
def readFrameHeader (buffer : Bytes) : Option (Nat × Nat × Bytes) :=
  match readVarint buffer with
  | .error _ => none
  | .ok (frameType, rest) =>
    match readVarint rest with
    | .error _ => none
    | .ok (frameSize, payload) => some (frameType, frameSize, payload)

/-- Start the next frame if none is open; `none` when its header is not
there yet. -/
def openFrame (h : H3 Q) (streamId : StreamId) (stream : H3Stream) :
    Except WebTransportError (Option H3Stream) :=
  if stream.frameType.isSome then .ok (some stream)
  else
    match readFrameHeader stream.buffer with
    | none => .ok none
    | some (frameType, frameSize, payload) =>
      if frameType = h3FrameTypeHeaders ∧ frameSize > h.maxFieldSectionSize then
        .error (.stream streamId (some errH3MessageError) "h3_field_section validate exceeded")
      else if frameType ≠ h3FrameTypeData ∧ frameType ≠ h3FrameTypeHeaders ∧
          frameSize > controlFrameSizeLimit then
        .error (.protocol (some errH3FrameError) "h3_frame validate exceeded")
      else
        .ok (some { stream with
          frameType := some frameType
          frameSize := some frameSize
          blockedFrameSize :=
            if frameType = h3FrameTypeHeaders then some frameSize else stream.blockedFrameSize
          buffer := payload })

/-- The end of a frame: the next round reads a new header. -/
def closeFrame (stream : H3Stream) (frameType : Nat) : H3Stream :=
  { stream with
    frameType := none
    frameSize := none
    blockedFrameSize :=
      if frameType = h3FrameTypeHeaders ∧ stream.blocked = false then none
      else stream.blockedFrameSize }

/-- What one round of the frame loop leaves: the stream, what it produced,
and whether the loop ends here. -/
structure RoundResult where
  stream : H3Stream
  outcome : Outcome
  isDone : Bool

/-- A round that finds nothing to do. -/
def idleRound (stream : H3Stream) : RoundResult := ⟨stream, ([], []), true⟩

/-- Hand the open frame on: a DATA frame as far as it is there, any other
frame only when it is complete. -/
def consumeFrame (h : H3 Q) (streamId : StreamId) (stream : H3Stream) (streamEnded : Bool) :
    H3 Q × Except WebTransportError RoundResult :=
  match stream.frameType, stream.frameSize with
  | some currentType, some currentSize =>
    let chunkSize := min currentSize stream.buffer.length
    if currentType ≠ h3FrameTypeData ∧ chunkSize < currentSize then (h, .ok (idleRound stream))
    else
      let taken := { stream with
        buffer := stream.buffer.drop chunkSize
        frameSize := some (currentSize - chunkSize) }
      let handled :=
        h.handleRequestFrame streamId taken currentType (stream.buffer.take chunkSize)
      (handled.1, handled.2.map fun (stream, outcome) =>
        ⟨if chunkSize = currentSize then closeFrame stream currentType else stream, outcome,
          -- an empty chunk ends the loop, also when it was a whole frame
          decide (chunkSize = 0) && !streamEnded⟩)
  | _, _ => (h, .ok (idleRound stream))

def parseRound (h : H3 Q) (streamId : StreamId) (stream : H3Stream) (streamEnded : Bool) :
    H3 Q × Except WebTransportError RoundResult :=
  if stream.blocked then (h, .ok (idleRound stream))
  else if stream.buffer.isEmpty && !streamEnded then (h, .ok (idleRound stream))
  else
    match h.openFrame streamId stream with
    | .error e => (h, .error e)
    | .ok none => (h, .ok (idleRound stream))
    | .ok (some stream) => h.consumeFrame streamId stream streamEnded

def parseLoop (streamId : StreamId) (streamEnded : Bool) :
    Nat → H3 Q → H3Stream → Option (H3 Q × Except WebTransportError (H3Stream × Outcome))
  | 0, _, _ => none
  | fuel + 1, h, stream =>
    let round := h.parseRound streamId stream streamEnded
    match round.2 with
    | .error e => some (round.1, .error e)
    | .ok result =>
      if result.isDone then some (round.1, .ok (result.stream, result.outcome))
      else
        (parseLoop streamId streamEnded fuel round.1 result.stream).map fun others =>
          (others.1, others.2.map fun (stream, outcome) =>
            (stream, result.outcome.1 ++ outcome.1, result.outcome.2 ++ outcome.2))

/-- A blocked stream first asks whether its headers can be decoded now. -/
def parseStreamData (h : H3 Q) (streamId : StreamId) (stream : H3Stream) (streamEnded : Bool) :
    Option (H3 Q × Except WebTransportError (H3Stream × Outcome)) :=
  if stream.blocked then
    let resumed := h.decodeHeaders streamId none
    match resumed.2 with
    | .ok (.done _ _) =>
      let stream := { stream with blocked := false }
      parseLoop streamId streamEnded (stream.buffer.length + 2) resumed.1 stream
    | _ => some (resumed.1, .ok (stream, [], []))
  else parseLoop streamId streamEnded (stream.buffer.length + 2) h stream

end H3

end PyWebTransport

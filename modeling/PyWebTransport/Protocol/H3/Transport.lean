/-
PyWebTransport.Protocol.H3.Transport — what HTTP/3 does with the events of
the transport (`H3::handle_transport_event` and the `recv_*` methods of
`protocol/h3.rs`): bytes of bidirectional and unidirectional streams,
datagrams, resets, and the way an error gives up a stream or the whole
connection.
-/
import PyWebTransport.Protocol.H3.Requests

namespace PyWebTransport

open PyWebTransport.Lib

namespace H3

variable {Q : Qpack}

/-! ## Receiving on bidirectional streams -/

/-- Keep the stream and ask for one more byte of its header. -/
def awaitHeader (h : H3 Q) (streamId : StreamId) (stream : H3Stream) : H3 Q × Outcome :=
  if stream.ended then
    let cleaned := h.cleanupStream streamId
    (cleaned.1, [], cleaned.2)
  else
    ({ h with streams := h.streams.insert streamId stream }, [], [.receiveQuicData streamId 1])

def parseStreamHeader (h : H3 Q) (streamId : StreamId) (stream : H3Stream) :
    H3 Q × Except WebTransportError Outcome :=
  match readVarint stream.buffer with
  | .error _ =>
    let waiting := h.awaitHeader streamId stream
    (waiting.1, .ok waiting.2)
  | .ok (sessionId, _) =>
    if !isValidSessionId sessionId then
      (h, .error (.protocol (some errH3IdError) "wt_session validate invalid"))
    else (h, .ok ([.h3WebTransportStreamOpened sessionId streamId], []))

/-- What the first bytes of a bidirectional stream say it is. -/
inductive RequestKind where
  | incomplete
  | webtransport (stream : H3Stream)
  | refused
  | request (stream : H3Stream)

def identifyRequest (h : H3 Q) (stream : H3Stream) : RequestKind :=
  if stream.isRequestStream || stream.streamType.isSome then
    if stream.streamType = some h3StreamTypeWebtransport then .webtransport stream
    else .request stream
  else
    match readVarint stream.buffer with
    | .error _ => .incomplete
    | .ok (streamType, _) =>
      if streamType = h3FrameTypeWtStream then
        .webtransport { stream with buffer := [], streamType := some h3StreamTypeWebtransport }
      else if h.isClient then .refused
      else .request { stream with isRequestStream := true }

/-- The end of `recv_request_data`: a stream that is over is forgotten, any
other is kept and read on, except while its headers are with the connection. -/
def finishRequestData (h : H3 Q) (streamId : StreamId) (wasHeadersProcessed : Bool)
    (stream : H3Stream) (outcome : Outcome) : H3 Q × Outcome :=
  if stream.ended && stream.buffer.isEmpty then
    let cleaned := h.cleanupStream streamId
    (cleaned.1,
      outcome.1 ++ (if stream.isConnectStream then [.h3ConnectStreamClosed streamId] else []),
      outcome.2 ++ cleaned.2)
  else
    let isHeadersReceived := !wasHeadersProcessed && stream.headersProcessed
    ({ h with streams := h.streams.insert streamId stream }, outcome.1,
      outcome.2 ++
        (if !stream.blocked && !stream.ended && !isHeadersReceived then
          [.receiveQuicData streamId u64Max] else []))

/-- The stream with newly received bytes. -/
def feedStream (h : H3 Q) (streamId : StreamId) (data : Bytes) (streamEnded : Bool) : H3Stream :=
  let stream := (h.streams.get? streamId).getD {}
  { stream with buffer := stream.buffer ++ data, ended := stream.ended || streamEnded }

def recvRequestData (h : H3 Q) (streamId : StreamId) (data : Bytes) (streamEnded : Bool) :
    Option (H3 Q × Except WebTransportError Outcome) :=
  let fed := h.feedStream streamId data streamEnded
  let h := { h with streams := h.streams.erase streamId }
  match h.identifyRequest fed with
  | .incomplete =>
    let waiting := h.awaitHeader streamId fed
    some (waiting.1, .ok waiting.2)
  | .webtransport stream => some (h.parseStreamHeader streamId stream)
  | .refused =>
    some (h, .error (.protocol (some errH3StreamCreationError) "h3_stream validate invalid"))
  | .request stream =>
    (h.parseStreamData streamId stream stream.ended).map fun parsed =>
      match parsed.2 with
      | .error e => (parsed.1, .error e)
      | .ok (parsedStream, outcome) =>
        let finished :=
          parsed.1.finishRequestData streamId stream.headersProcessed parsedStream outcome
        (finished.1, .ok finished.2)

def recvDatagram (data : Bytes) : Except WebTransportError (List ProtocolEvent) :=
  match readVarint data with
  | .error _ => .error (.protocol (some errH3DatagramError) "varint decode invalid")
  | .ok (quarterStreamId, payload) =>
    let sessionId := quarterStreamId * 4
    if sessionId > quicVarintLimit then
      .error (.protocol (some errH3DatagramError) "wt_datagram validate exceeded")
    else .ok [.h3DatagramReceived sessionId payload]

def closedCriticalStream : WebTransportError :=
  .protocol (some errH3ClosedCriticalStream) "h3_control_stream validate invalid"

def recvStopSending (h : H3 Q) (streamId : StreamId) : Except WebTransportError Outcome :=
  if [h.localControlStreamId, h.localDecoderStreamId, h.localEncoderStreamId].contains
      (some streamId) then
    .error closedCriticalStream
  else .ok ([], [])

def recvStreamReset (h : H3 Q) (streamId : StreamId) :
    H3 Q × Except WebTransportError Outcome :=
  if [h.peerControlStreamId, h.peerDecoderStreamId, h.peerEncoderStreamId].contains
      (some streamId) then
    (h, .error closedCriticalStream)
  else
    let cleaned := h.cleanupStream streamId
    (cleaned.1, .ok ([], cleaned.2))

/-! ## Receiving on unidirectional streams -/

def handleSettingsFrame (h : H3 Q) (frameData : Bytes) (connection : Connection) :
    H3 Q × Except WebTransportError Outcome :=
  if h.settingsReceived then (h, .error (.protocol (some errH3FrameUnexpected)
    "h3_settings validate invalid"))
  else
    match (parseSettings frameData).bind fun settings =>
        (validateSettings settings connection).map fun _ => settings with
    | .error e => (h, .error e)
    | .ok settings =>
      let applied := Q.applySettings h.encoder (settings.qpackMaxTableCapacity.getD 0)
        (settings.qpackBlockedStreams.getD 0)
      match applied.2 with
      | .error _ =>
        ({ h with encoder := applied.1 }, .error (.protocol (some errH3InternalError)
          "qpack_encoder validate failed"))
      | .ok encoderInstructions =>
        ({ h with encoder := applied.1, settingsReceived := true },
          .ok ([.h3SettingsReceived settings],
            sendInstructions h.localEncoderStreamId encoderInstructions))

def handleMaxPushIdFrame (h : H3 Q) (frameData : Bytes) :
    H3 Q × Except WebTransportError Outcome :=
  if h.isClient then
    (h, .error (.protocol (some errH3FrameUnexpected) "h3_max_push_id validate invalid"))
  else
    match parsePushId frameData with
    | .error e => (h, .error e)
    | .ok peerMaxPushId =>
      if h.peerMaxPushId.any (· > peerMaxPushId) then
        (h, .error (.protocol (some errH3IdError) "h3_max_push_id validate invalid"))
      else ({ h with peerMaxPushId := some peerMaxPushId }, .ok ([], []))

/-- The frame types that have no place on a control stream. -/
def isForbiddenControlFrame (frameType : Nat) : Bool :=
  frameType = h3FrameTypeData || frameType = h3FrameTypeHeaders ||
  frameType = h3FrameTypePushPromise || frameType = h3FrameTypeReservedContinuation ||
  frameType = h3FrameTypeReservedPing || frameType = h3FrameTypeReservedPriority ||
  frameType = h3FrameTypeReservedWindowUpdate

def handleControlFrame (h : H3 Q) (frameType : Nat) (frameData : Bytes) (connection : Connection) :
    H3 Q × Except WebTransportError Outcome :=
  if frameType ≠ h3FrameTypeSettings ∧ h.settingsReceived = false then
    (h, .error (.protocol (some errH3MissingSettings) "h3_settings validate invalid"))
  else if frameType = h3FrameTypeCancelPush then
    (h, (parsePushId frameData).bind fun _ =>
      .error (.protocol (some errH3IdError) "h3_cancel_push validate invalid"))
  else if isForbiddenControlFrame frameType then
    (h, .error (.protocol (some errH3FrameUnexpected) "h3_control_stream validate invalid"))
  else if frameType = h3FrameTypeGoaway then (h, .ok ([.h3GoawayReceived], []))
  else if frameType = h3FrameTypeMaxPushId then h.handleMaxPushIdFrame frameData
  else if frameType = h3FrameTypeSettings then h.handleSettingsFrame frameData connection
  else if frameType = h3FrameTypeWtStream then
    (h, .error (.protocol (some errH3FrameError) "h3_control_stream validate invalid"))
  else (h, .ok ([], []))

/-- The loop over a control stream: every frame that is there whole. -/
def parseControlFrames (connection : Connection) :
    Nat → H3 Q → Bytes → H3 Q × Except WebTransportError (Bytes × Outcome)
  | 0, h, buffer => (h, .ok (buffer, [], []))
  | fuel + 1, h, buffer =>
    match readFrameHeader buffer with
    | none => (h, .ok (buffer, [], []))
    | some (frameType, frameSize, payload) =>
      if frameType = h3FrameTypeData then
        (h, .error (.protocol (some errH3FrameUnexpected)
          "h3_control_stream validate invalid"))
      else if frameType ≠ h3FrameTypeHeaders ∧ frameSize > controlFrameSizeLimit then
        (h, .error (.protocol (some errH3FrameError) "h3_frame validate exceeded"))
      else if payload.length < frameSize then (h, .ok (buffer, [], []))
      else
        let handled := h.handleControlFrame frameType (payload.take frameSize) connection
        match handled.2 with
        | .error e => (handled.1, .error e)
        | .ok outcome =>
          let others := parseControlFrames connection fuel handled.1 (payload.drop frameSize)
          (others.1, others.2.map fun (buffer, rest) =>
            (buffer, outcome.1 ++ rest.1, outcome.2 ++ rest.2))

/-- Streams released by the peer's encoder go on where they stopped. -/
def resumeUnblocked : List StreamId → H3 Q → Option (H3 Q × Except WebTransportError Outcome)
  | [], h => some (h, .ok ([], []))
  | streamId :: rest, h =>
    match h.streams.get? streamId with
    | some stream =>
      if stream.blocked then
        let released := { h with
          streams := h.streams.insert streamId { stream with blocked := false } }
        (released.recvRequestData streamId [] stream.ended).bind fun resumed =>
          match resumed.2 with
          | .error e => some (resumed.1, .error e)
          | .ok outcome =>
            (resumeUnblocked rest resumed.1).map fun others =>
              (others.1, others.2.map fun rest =>
                (outcome.1 ++ rest.1, outcome.2 ++ rest.2))
      else resumeUnblocked rest h
    | none => resumeUnblocked rest h

def registerPeerInfrastructureStream (h : H3 Q) (streamId : StreamId) (streamType : Nat) :
    Except WebTransportError (H3 Q) :=
  let failed := WebTransportError.protocol (some errH3StreamCreationError)
    "h3_stream validate failed"
  if [h.peerControlStreamId, h.peerDecoderStreamId, h.peerEncoderStreamId].contains
      (some streamId) then
    .error failed
  else if streamType = h3StreamTypeControl then
    if h.peerControlStreamId.isSome then .error failed
    else .ok { h with peerControlStreamId := some streamId }
  else if streamType = h3StreamTypeQpackDecoder then
    if h.peerDecoderStreamId.isSome then .error failed
    else .ok { h with peerDecoderStreamId := some streamId }
  else if streamType = h3StreamTypeQpackEncoder then
    if h.peerEncoderStreamId.isSome then .error failed
    else .ok { h with peerEncoderStreamId := some streamId }
  else .ok h

/-- What the type at the front of a unidirectional stream leads to. -/
inductive UniKind (Q : Qpack) where
  | incomplete
  | failed (e : WebTransportError)
  | unknown
  | known (h : H3 Q) (stream : H3Stream) (streamType : Nat)

def identifyUnidirectional (h : H3 Q) (streamId : StreamId) (stream : H3Stream) : UniKind Q :=
  match stream.streamType with
  | some streamType => .known h stream streamType
  | none =>
    match readVarint stream.buffer with
    | .error _ => .incomplete
    | .ok (streamType, _) =>
      let stream := { stream with buffer := [], streamType := some streamType }
      if streamType = h3StreamTypeControl ∨ streamType = h3StreamTypeQpackDecoder ∨
          streamType = h3StreamTypeQpackEncoder then
        match h.registerPeerInfrastructureStream streamId streamType with
        | .error e => .failed e
        | .ok h => .known h stream streamType
      else if streamType = h3StreamTypePush then
        .failed (.protocol
          (some (if h.isClient then errH3IdError else errH3StreamCreationError))
          "h3_push_stream validate invalid")
      else if streamType = h3StreamTypeWebtransport then .known h stream streamType
      else .unknown

/-- The bytes of a control or QPACK stream: the new state, the bytes kept,
and what they produced. -/
def recvInfrastructureData (h : H3 Q) (stream : H3Stream) (streamType : Nat)
    (connection : Connection) : Option (H3 Q × Except WebTransportError (Bytes × Outcome)) :=
  if streamType = h3StreamTypeControl then
    if stream.ended then some (h, .error closedCriticalStream)
    else some (parseControlFrames connection stream.buffer.length h stream.buffer)
  else if streamType = h3StreamTypeQpackDecoder then
    if stream.buffer.isEmpty then some (h, .ok ([], [], []))
    else
      let fed := Q.feedDecoder h.encoder stream.buffer
      some ({ h with encoder := fed.1 },
        match fed.2 with
        | .ok _ => .ok ([], [], [])
        | .error _ => .error (.protocol (some errQpackDecoderStreamError)
            "qpack_decoder_stream decode invalid"))
  else if streamType = h3StreamTypeQpackEncoder then
    if stream.buffer.isEmpty then some (h, .ok ([], [], []))
    else
      let fed := Q.feedEncoder h.decoder stream.buffer
      let h := { h with decoder := fed.1 }
      match fed.2 with
      | .error _ => some (h, .error (.protocol (some errQpackEncoderStreamError)
          "qpack_encoder_stream decode invalid"))
      | .ok unblocked =>
        (h.resumeUnblocked unblocked).map fun resumed =>
          (resumed.1, resumed.2.map fun outcome => ([], outcome))
  else some (h, .ok (stream.buffer, [], []))

def recvUnidirectionalStreamData (h : H3 Q) (streamId : StreamId) (data : Bytes)
    (streamEnded : Bool) (connection : Connection) :
    Option (H3 Q × Except WebTransportError Outcome) :=
  let fed := h.feedStream streamId data streamEnded
  let h := { h with streams := h.streams.erase streamId }
  match h.identifyUnidirectional streamId fed with
  | .incomplete =>
    let waiting := h.awaitHeader streamId fed
    some (waiting.1, .ok waiting.2)
  | .failed e => some (h, .error e)
  | .unknown => some (h, .ok ([], [.stopQuicStream streamId errH3StreamCreationError]))
  | .known h stream streamType =>
    if streamType = h3StreamTypeWebtransport then some (h.parseStreamHeader streamId stream)
    else
      (h.recvInfrastructureData stream streamType connection).map fun received =>
        match received.2 with
        | .error e => (received.1, .error e)
        | .ok (buffer, outcome) =>
          if stream.ended then (received.1, .error closedCriticalStream)
          else
            ({ received.1 with
                streams := received.1.streams.insert streamId { stream with buffer := buffer } },
              .ok (outcome.1, outcome.2 ++ [.receiveQuicData streamId u64Max]))

/-! ## The transport events HTTP/3 sees -/

/-- A stream error gives up the stream, any other error the connection. -/
def failTransportEvent (h : H3 Q) : WebTransportError → H3 Q × Outcome
  | .stream streamId errorCode _ =>
    let errorCode := errorCode.getD errH3InternalError
    let cleaned := h.cleanupStream streamId
    (cleaned.1, [], [.resetQuicStream streamId errorCode, .stopQuicStream streamId errorCode] ++
      cleaned.2)
  | .configuration errorCode reason | .protocol errorCode reason | .unknown errorCode reason =>
    (h, [], [.closeQuicConnection (errorCode.getD errH3InternalError) (some reason)])

def transportResult (h : H3 Q) (event : ProtocolEvent) (connection : Connection) :
    Option (H3 Q × Except WebTransportError Outcome) :=
  match event with
  | .transportDatagramReceived data =>
    some (h, (recvDatagram data).map fun events => (events, []))
  | .transportResetStreamReceived streamId _ => some (h.recvStreamReset streamId)
  | .transportStopSendingReceived streamId _ => some (h, h.recvStopSending streamId)
  | .transportStreamDataReceived streamId data endStream =>
    if isUnidirectionalStream streamId then
      h.recvUnidirectionalStreamData streamId data endStream connection
    else h.recvRequestData streamId data endStream
  | .transportStreamOpened streamId =>
    let opened := h.handleStreamOpened streamId
    some (opened.1, .ok ([], opened.2))
  | _ => some (h, .ok ([], []))

def handleTransportEvent (h : H3 Q) (event : ProtocolEvent) (connection : Connection) :
    Option (H3 Q × Outcome) :=
  (h.transportResult event connection).map fun result =>
    match result.2 with
    | .ok outcome => (result.1, outcome)
    | .error e => result.1.failTransportEvent e

end H3

end PyWebTransport

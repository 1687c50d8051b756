/-
PyWebTransport.Protocol.Stream — the state machine of one WebTransport
stream (`protocol/stream.rs`).

A method that takes `&mut self` returns the new stream and what the source
method returns: its effects, and for the writing methods the number of
bytes put on the wire, which the session charges to its credit. A queue
drained with `while let Some(..) = pop_front()` is one map over the queue.
-/
import PyWebTransport.Protocol.Events
import PyWebTransport.Protocol.Utils

namespace PyWebTransport

structure StreamParameters where
  maxWriteBufferSize : Nat
deriving DecidableEq

/-- One queued write: the bytes still to send, the request they belong to,
and whether the stream ends after them. -/
structure WriteEntry where
  data : Bytes
  requestId : RequestId
  endStream : Bool
deriving DecidableEq

structure Stream where
  createdAt : Timestamp
  direction : StreamDirection
  id : StreamId
  isPeerInitiated : Bool
  maxWriteBufferSize : Nat
  pendingReadRequests : List (RequestId × Nat)
  pendingWriteRequest : Option RequestId
  receiveErrorCode : Option ErrorCode
  receiveState : Option StreamReceiveState
  sendErrorCode : Option ErrorCode
  sendState : Option StreamSendState
  sessionId : SessionId
  writeBuffer : List WriteEntry
  writeBufferSize : Nat
deriving DecidableEq

namespace Stream

def new (id : StreamId) (sessionId : SessionId) (direction : StreamDirection)
    ( isPeerInitiated : Bool) (parameters : StreamParameters) (createdAt : Timestamp) : Stream where
  createdAt := createdAt
  direction := direction
  id := id
  isPeerInitiated := isPeerInitiated
  maxWriteBufferSize := parameters.maxWriteBufferSize
  pendingReadRequests := []
  pendingWriteRequest := none
  receiveErrorCode := none
  receiveState := if direction ≠ .sendOnly then some .receive else none
  sendErrorCode := none
  sendState := if direction ≠ .receiveOnly then some .ready else none
  sessionId := sessionId
  writeBuffer := []
  writeBufferSize := 0

/-- The failure the source reports for every request it gives up on. -/
def failAborted (errorCode : Option ErrorCode) (requestId : RequestId) : Effect :=
  .notifyRequestFailed requestId .stream errorCode "wt_stream abort"

/-- The failure of a request the stream's state or direction rules out. -/
def failInvalid (requestId : RequestId) (reason : String) : Effect :=
  .notifyRequestFailed requestId .stream (some errLibStreamStateError) reason

/-- Whether the write in flight is not continued by the front of the buffer. -/
def isWriteDetached (s : Stream) (requestId : RequestId) : Bool :=
  s.writeBuffer.head?.all (fun entry => entry.requestId ≠ requestId)

def isSendTerminated (s : Stream) : Bool :=
  match s.sendState with
  | none | some .dataReceived | some .resetSent => true
  | some .dataSent | some .ready => false

def isReceiveTerminated (s : Stream) : Bool :=
  match s.receiveState with
  | none | some .dataRead | some .resetRead => true
  | some .dataReceived | some .receive => false

def sendReset (s : Stream) (errorCode : Option ErrorCode) (httpErrorCode : ErrorCode) :
    Stream × List Effect :=
  if s.isSendTerminated then (s, [])
  else
    ({ s with
        sendErrorCode := errorCode
        sendState := some .resetSent
        writeBufferSize := 0
        pendingWriteRequest := none
        writeBuffer := [] },
      [.resetQuicStream s.id httpErrorCode] ++
        -- a write both in flight and at the front of the buffer fails once, with the buffer
        ((s.pendingWriteRequest.toList.filter s.isWriteDetached).map (failAborted errorCode)) ++
        s.writeBuffer.map (fun entry => failAborted errorCode entry.requestId))

def sendStop (s : Stream) (errorCode : Option ErrorCode) (httpErrorCode : ErrorCode) :
    Stream × List Effect :=
  if s.isReceiveTerminated then (s, [])
  else
    ({ s with
        receiveErrorCode := errorCode
        receiveState := some .resetRead
        pendingReadRequests := [] },
      (if s.receiveState = some .receive then [.stopQuicStream s.id httpErrorCode] else []) ++
        s.pendingReadRequests.map (fun request => failAborted errorCode request.1))

def abort (s : Stream) (errorCode : ErrorCode) : Stream × List Effect :=
  let reset := s.sendReset (some errorCode) errorCode
  let stop := reset.1.sendStop (some errorCode) errorCode
  (stop.1, reset.2 ++ stop.2)

def flushWrites (s : Stream) (availableCredit : Nat) : Stream × List Effect × Nat :=
  if s.pendingWriteRequest.isSome || s.sendState ≠ some .ready then (s, [], 0)
  else
    match s.writeBuffer with
    | [] => (s, [], 0)
    | entry :: rest =>
      let dataLen := entry.data.length
      if dataLen > 0 ∧ availableCredit = 0 then (s, [], 0)
      else
        let isRequestComplete := decide (dataLen ≤ availableCredit)
        -- what does not fit the credit goes back to the front of the buffer
        let data := if isRequestComplete then entry.data else entry.data.take availableCredit
        let writeBuffer :=
          if isRequestComplete then rest
          else { entry with data := entry.data.drop availableCredit } :: rest
        let sent := data.length
        let isFinished := isRequestComplete && entry.endStream
        ({ s with
            writeBuffer := writeBuffer
            writeBufferSize := s.writeBufferSize - sent
            pendingWriteRequest := some entry.requestId
            sendState := if isFinished then some .dataSent else s.sendState },
          [.sendQuicData s.id data isFinished], sent)

def completeWrite (s : Stream) (availableCredit : Nat) : Stream × List Effect × Nat :=
  match s.pendingWriteRequest with
  | none => (s, [], 0)
  | some requestId =>
    let flushed := { s with pendingWriteRequest := none }.flushWrites availableCredit
    (flushed.1,
      (if s.isWriteDetached requestId then [.notifyRequestDone requestId .none] else []) ++
        flushed.2.1,
      flushed.2.2)

def diagnosticsSnapshot (s : Stream) : StreamDiagnostics where
  createdAt := s.createdAt
  direction := s.direction
  isPeerInitiated := s.isPeerInitiated
  receiveErrorCode := s.receiveErrorCode
  receiveState := s.receiveState
  sendErrorCode := s.sendErrorCode
  sendState := s.sendState
  sessionId := s.sessionId
  streamId := s.id

def diagnose (s : Stream) (requestId : RequestId) : List Effect :=
  [.notifyRequestDone requestId (.streamDiagnostics s.diagnosticsSnapshot)]

def handleDataAcknowledged (s : Stream) : Stream :=
  if s.sendState = some .dataSent then { s with sendState := some .dataReceived } else s

def isBlocked (s : Stream) : Bool := s.pendingWriteRequest.isNone && !s.writeBuffer.isEmpty

def isClosed (s : Stream) : Bool := s.isReceiveTerminated && s.isSendTerminated

def read (s : Stream) (requestId : RequestId) (maxSize : Nat) : Stream × List Effect :=
  match s.receiveState with
  | none => (s, [failInvalid requestId "wt_stream validate invalid"])
  | some .receive =>
    if maxSize > 0 then
      let pendingReadRequests := s.pendingReadRequests ++ [(requestId, maxSize)]
      ({ s with pendingReadRequests := pendingReadRequests },
        if pendingReadRequests.length = 1 then [.receiveQuicData s.id maxSize] else [])
    else (s, [.notifyRequestDone requestId (.readData [])])
  | some .dataReceived =>
    (if maxSize > 0 then { s with receiveState := some .dataRead } else s,
      [.notifyRequestDone requestId (.readData [])])
  | some .dataRead => (s, [.notifyRequestDone requestId (.readData [])])
  | some .resetRead =>
    (s, [.notifyRequestFailed requestId .stream s.receiveErrorCode "wt_stream validate failed"])

/-- The reads still waiting when the end of the stream arrives: each gets no
bytes, and one such read is enough to have read the end. -/
def finishReads (s : Stream) : Stream × List Effect :=
  let receiveState :=
    if s.receiveState = some .receive then some .dataReceived else s.receiveState
  ({ s with
      receiveState := if s.pendingReadRequests.isEmpty then receiveState else some .dataRead
      pendingReadRequests := [] },
    s.pendingReadRequests.map (fun request => .notifyRequestDone request.1 (.readData [])))

/-- The first waiting read takes the bytes. -/
def deliverRead (s : Stream) (data : Bytes) (endStream : Bool) : Stream × List Effect :=
  match s.pendingReadRequests with
  | [] => (s, [])
  | request :: rest =>
    ({ s with
        pendingReadRequests := rest
        receiveState := if endStream && data.isEmpty then some .dataRead else s.receiveState },
      [.notifyRequestDone request.1 (.readData data)])

def recvData (s : Stream) (data : Bytes) (endStream : Bool) : Stream × List Effect :=
  if s.receiveState ≠ some .receive then (s, [])
  else
    let delivered := s.deliverRead data endStream
    if endStream then
      let finished := delivered.1.finishReads
      (finished.1, delivered.2 ++ finished.2)
    else
      (delivered.1, delivered.2 ++
        (delivered.1.pendingReadRequests.head?.toList.map
          (fun request => .receiveQuicData s.id request.2)))

def recvReset (s : Stream) (errorCode : ErrorCode) : Stream × List Effect :=
  if s.isReceiveTerminated then (s, [])
  else
    let applicationErrorCode := httpCodeToWebtransportCode errorCode
    ({ s with
        receiveErrorCode := applicationErrorCode
        receiveState := some .resetRead
        pendingReadRequests := [] },
      [.emitStreamEvent s.id .streamResetReceived none none none applicationErrorCode] ++
        s.pendingReadRequests.map (fun request => failAborted applicationErrorCode request.1))

def recvStopSending (s : Stream) (errorCode : ErrorCode) : Stream × List Effect :=
  if s.isSendTerminated then (s, [])
  else
    let applicationErrorCode := httpCodeToWebtransportCode errorCode
    let reset := s.sendReset applicationErrorCode errorCode
    (reset.1,
      [.emitStreamEvent s.id .streamStopSendingReceived none none none applicationErrorCode] ++
        reset.2)

/-- The wire code of an application error; one that is no `u32` becomes the
first code of the range. -/
def toHttpErrorCode (errorCode : ErrorCode) : ErrorCode :=
  if errorCode < 2 ^ 32 then webtransportCodeToHttpCode errorCode else errWtApplicationErrorFirst

def reset (s : Stream) (requestId : RequestId) (errorCode : ErrorCode) : Stream × List Effect :=
  if s.sendState = none then (s, [failInvalid requestId "wt_stream validate invalid"])
  else if s.isSendTerminated then (s, [.notifyRequestDone requestId .none])
  else
    let sent := s.sendReset (some errorCode) (toHttpErrorCode errorCode)
    (sent.1, sent.2 ++ [.notifyRequestDone requestId .none])

def stop (s : Stream) (requestId : RequestId) (errorCode : ErrorCode) : Stream × List Effect :=
  if s.receiveState = none then (s, [failInvalid requestId "wt_stream validate invalid"])
  else if s.isReceiveTerminated then (s, [.notifyRequestDone requestId .none])
  else
    let sent := s.sendStop (some errorCode) (toHttpErrorCode errorCode)
    (sent.1, sent.2 ++ [.notifyRequestDone requestId .none])

def isFinishPending (s : Stream) : Bool := s.writeBuffer.getLast?.any WriteEntry.endStream

def enqueueWrite (s : Stream) (entry : WriteEntry) : Stream :=
  { s with
    writeBuffer := s.writeBuffer ++ [entry]
    writeBufferSize := s.writeBufferSize + entry.data.length }

def write (s : Stream) (requestId : RequestId) (data : Bytes) (endStream : Bool)
    (availableCredit : Nat) : Stream × List Effect × Nat :=
  if s.sendState = none then (s, [failInvalid requestId "wt_stream validate invalid"], 0)
  else if s.sendState ≠ some .ready || s.isFinishPending then
    -- finishing a stream that is finished already is no error
    if data.isEmpty && endStream then (s, [.notifyRequestDone requestId .none], 0)
    else (s, [failInvalid requestId "wt_stream validate failed"], 0)
  else if s.writeBufferSize + data.length > s.maxWriteBufferSize then
    (s, [failInvalid requestId "wt_stream validate exceeded"], 0)
  else
    (s.enqueueWrite ⟨data, requestId, endStream⟩).flushWrites availableCredit

end Stream

end PyWebTransport

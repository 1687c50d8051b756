/-
PyWebTransport.Protocol.Session.Basic — the state of one WebTransport
session and the helpers its operations share (the private functions of
`protocol/session.rs`).

A method that takes `&mut self` returns the new session and its effects.
Hash maps are ordered maps (the source sorts the keys wherever their order
can be seen), hash sets are finite sets, `VecDeque`s are lists. Where the
source branches on `is_unidirectional` to pick one of two counters, the
model has one accessor for the pair.

The five ways a session ends all clear the same queues and give up the same
requests; `tearDown` is that shared block.
-/
import PyWebTransport.Protocol.Stream
import PyWebTransport.Lib.OrderedMap
import Mathlib.Data.Finset.Basic

namespace PyWebTransport

open PyWebTransport.Lib

structure SessionParameters where
  flowControlNegotiated : Bool
  initialMaxData : Nat
  initialMaxStreamsBidi : Nat
  initialMaxStreamsUni : Nat
  maxPendingCapsules : Nat
  maxPendingDatagrams : Nat
  maxPendingStreams : Nat
  maxWriteBufferSize : Nat
  peerMaxData : Nat
  peerMaxStreamsBidi : Nat
  peerMaxStreamsUni : Nat
  receiveWindow : Nat
deriving DecidableEq

structure Session where
  blockedStreamRequestsBidi : List RequestId
  blockedStreamRequestsUni : List RequestId
  blockedStreams : Finset StreamId
  blockedStreamsQueue : List StreamId
  closeCode : Option ErrorCode
  closeReason : Option String
  closedAt : Option Timestamp
  createdAt : Timestamp
  dataConsumed : Nat
  dataReceived : Nat
  dataSent : Nat
  flowControlNegotiated : Bool
  headers : Headers
  id : SessionId
  initialMaxStreamsBidi : Nat
  initialMaxStreamsUni : Nat
  isClient : Bool
  lastDataBlockedSent : Option Nat
  lastStreamsBlockedBidiSent : Option Nat
  lastStreamsBlockedUniSent : Option Nat
  localMaxData : Nat
  localMaxStreamsBidi : Nat
  localMaxStreamsUni : Nat
  localStreamsBidiOpened : Nat
  localStreamsUniOpened : Nat
  maxPendingCapsules : Nat
  maxPendingDatagrams : Nat
  maxPendingStreams : Nat
  maxWriteBufferSize : Nat
  path : String
  peerMaxData : Nat
  peerMaxStreamsBidi : Nat
  peerMaxStreamsUni : Nat
  peerStreamsBidiClosed : Nat
  peerStreamsBidiOpened : Nat
  peerStreamsUniClosed : Nat
  peerStreamsUniOpened : Nat
  pendingCapsules : List (Nat × Bytes)
  pendingDatagramRequests : List RequestId
  pendingDatagrams : List Bytes
  pendingStreams : List StreamId
  readyAt : Option Timestamp
  receiveWindow : Nat
  state : SessionState
  streams : OrderedMap StreamId Stream
  wtAvailableProtocols : Option (List String)
  wtProtocol : Option String

namespace Session

def new (id : SessionId) (path : String) (headers : Headers)
    (wtAvailableProtocols : Option (List String)) ( isClient : Bool)
    (parameters : SessionParameters) (createdAt : Timestamp) : Session where
  blockedStreamRequestsBidi := []
  blockedStreamRequestsUni := []
  blockedStreams := ∅
  blockedStreamsQueue := []
  closeCode := none
  closeReason := none
  closedAt := none
  createdAt := createdAt
  dataConsumed := 0
  dataReceived := 0
  dataSent := 0
  flowControlNegotiated := parameters.flowControlNegotiated
  headers := headers
  id := id
  initialMaxStreamsBidi := parameters.initialMaxStreamsBidi
  initialMaxStreamsUni := parameters.initialMaxStreamsUni
  isClient := isClient
  lastDataBlockedSent := none
  lastStreamsBlockedBidiSent := none
  lastStreamsBlockedUniSent := none
  localMaxData := parameters.initialMaxData
  localMaxStreamsBidi := parameters.initialMaxStreamsBidi
  localMaxStreamsUni := parameters.initialMaxStreamsUni
  localStreamsBidiOpened := 0
  localStreamsUniOpened := 0
  maxPendingCapsules := parameters.maxPendingCapsules
  maxPendingDatagrams := parameters.maxPendingDatagrams
  maxPendingStreams := parameters.maxPendingStreams
  maxWriteBufferSize := parameters.maxWriteBufferSize
  path := path
  peerMaxData := parameters.peerMaxData
  peerMaxStreamsBidi := parameters.peerMaxStreamsBidi
  peerMaxStreamsUni := parameters.peerMaxStreamsUni
  peerStreamsBidiClosed := 0
  peerStreamsBidiOpened := 0
  peerStreamsUniClosed := 0
  peerStreamsUniOpened := 0
  pendingCapsules := []
  pendingDatagramRequests := []
  pendingDatagrams := []
  pendingStreams := []
  readyAt := none
  receiveWindow := parameters.receiveWindow
  state := .connecting
  streams := ∅
  wtAvailableProtocols := wtAvailableProtocols
  wtProtocol := none

/-! ## Observations -/

/-- `Connected | Connecting | Draining`: the states in which requests are served. -/
def isOpen (s : Session) : Bool :=
  match s.state with
  | .connected | .connecting | .draining => true
  | .closed | .closing => false

def isClosed (s : Session) : Bool := s.state = .closed

def hasStream (s : Session) (streamId : StreamId) : Bool := s.streams.contains streamId

/-- The bytes the peer still lets this session send. -/
def sessionCredit (s : Session) : Nat :=
  if s.flowControlNegotiated then saturatingSub s.peerMaxData s.dataSent else u64Max

/-- Whether credit may be advertised: not before a server has accepted. -/
def mayReplenish (s : Session) : Bool :=
  match s.state with
  | .connected | .draining => true
  | .connecting => s.isClient
  | .closed | .closing => false

def localStreamsOpened (s : Session) ( isUnidirectional : Bool) : Nat :=
  if isUnidirectional then s.localStreamsUniOpened else s.localStreamsBidiOpened

def peerMaxStreams (s : Session) ( isUnidirectional : Bool) : Nat :=
  if isUnidirectional then s.peerMaxStreamsUni else s.peerMaxStreamsBidi

def blockedStreamRequests (s : Session) ( isUnidirectional : Bool) : List RequestId :=
  if isUnidirectional then s.blockedStreamRequestsUni else s.blockedStreamRequestsBidi

def lastStreamsBlockedSent (s : Session) ( isUnidirectional : Bool) : Option Nat :=
  if isUnidirectional then s.lastStreamsBlockedUniSent else s.lastStreamsBlockedBidiSent

def localMaxStreams (s : Session) ( isUnidirectional : Bool) : Nat :=
  if isUnidirectional then s.localMaxStreamsUni else s.localMaxStreamsBidi

def peerStreamsOpened (s : Session) ( isUnidirectional : Bool) : Nat :=
  if isUnidirectional then s.peerStreamsUniOpened else s.peerStreamsBidiOpened

def peerStreamsClosed (s : Session) ( isUnidirectional : Bool) : Nat :=
  if isUnidirectional then s.peerStreamsUniClosed else s.peerStreamsBidiClosed

def initialMaxStreams (s : Session) ( isUnidirectional : Bool) : Nat :=
  if isUnidirectional then s.initialMaxStreamsUni else s.initialMaxStreamsBidi

/-! ## Field updates by direction -/

def setLocalStreamsOpened (s : Session) ( isUnidirectional : Bool) (count : Nat) : Session :=
  if isUnidirectional then { s with localStreamsUniOpened := count }
  else { s with localStreamsBidiOpened := count }

def setBlockedStreamRequests (s : Session) ( isUnidirectional : Bool) (requests : List RequestId) :
    Session :=
  if isUnidirectional then { s with blockedStreamRequestsUni := requests }
  else { s with blockedStreamRequestsBidi := requests }

def setLastStreamsBlockedSent (s : Session) ( isUnidirectional : Bool) (limit : Nat) : Session :=
  if isUnidirectional then { s with lastStreamsBlockedUniSent := some limit }
  else { s with lastStreamsBlockedBidiSent := some limit }

def setLocalMaxStreams (s : Session) ( isUnidirectional : Bool) (limit : Nat) : Session :=
  if isUnidirectional then { s with localMaxStreamsUni := limit }
  else { s with localMaxStreamsBidi := limit }

def setPeerMaxStreams (s : Session) ( isUnidirectional : Bool) (limit : Nat) : Session :=
  if isUnidirectional then { s with peerMaxStreamsUni := limit }
  else { s with peerMaxStreamsBidi := limit }

def setPeerStreamsOpened (s : Session) ( isUnidirectional : Bool) (count : Nat) : Session :=
  if isUnidirectional then { s with peerStreamsUniOpened := count }
  else { s with peerStreamsBidiOpened := count }

def setPeerStreamsClosed (s : Session) ( isUnidirectional : Bool) (count : Nat) : Session :=
  if isUnidirectional then { s with peerStreamsUniClosed := count }
  else { s with peerStreamsBidiClosed := count }

/-! ## Failures -/

/-- A request the session's state rules out. -/
def failState (requestId : RequestId) : Effect :=
  .notifyRequestFailed requestId .session (some errLibSessionStateError)
    "wt_session validate failed"

/-- A request given up because the session ends. -/
def failAborted (requestId : RequestId) : Effect :=
  .notifyRequestFailed requestId .session none "wt_session abort"

/-- A stream request that names no stream of the session. -/
def failResolve (requestId : RequestId) : Effect :=
  .notifyRequestFailed requestId .stream (some errLibStreamStateError) "wt_stream resolve failed"

/-! ## Flow-control capsules -/

/-- A capsule on the CONNECT stream whose value is one variable-length integer. -/
def varintCapsule (s : Session) (capsuleType value : Nat) : Option Effect :=
  match writeVarint value with
  | .ok capsuleValue => some (.sendH3Capsule s.id capsuleType capsuleValue false)
  | .error _ => none

def emitDataBlocked (s : Session) : Session × Option Effect :=
  if !s.flowControlNegotiated then (s, none)
  else if s.dataSent ≥ s.peerMaxData ∧ s.blockedStreams ≠ ∅ ∧
      s.lastDataBlockedSent.all (fun last => s.peerMaxData > last) then
    ({ s with lastDataBlockedSent := some s.peerMaxData },
      s.varintCapsule wtCapsuleTypeDataBlocked s.peerMaxData)
  else (s, none)

def emitStreamsBlocked (s : Session) ( isUnidirectional : Bool) : Session × Option Effect :=
  if !s.flowControlNegotiated then (s, none)
  else
    let limit := s.peerMaxStreams isUnidirectional
    if (s.blockedStreamRequests isUnidirectional).isEmpty ∨
        s.localStreamsOpened isUnidirectional < limit ∨
        (s.lastStreamsBlockedSent isUnidirectional).any (fun last => limit ≤ last) then
      (s, none)
    else
      match s.varintCapsule
          (if isUnidirectional then wtCapsuleTypeStreamsBlockedUni
            else wtCapsuleTypeStreamsBlockedBidi) limit with
      | none => (s, none)
      | some capsule => (s.setLastStreamsBlockedSent isUnidirectional limit, some capsule)

def replenishDataCredit (s : Session) (forceSend : Bool) : Session × Option Effect :=
  if !s.flowControlNegotiated || !s.mayReplenish then (s, none)
  else
    let newLimit := saturatingAdd s.dataConsumed s.receiveWindow
    let threshold := if forceSend then 0 else s.receiveWindow / 2
    if newLimit ≤ saturatingAdd s.localMaxData threshold then (s, none)
    else
      match s.varintCapsule wtCapsuleTypeMaxData newLimit with
      | none => (s, none)
      | some capsule => ({ s with localMaxData := newLimit }, some capsule)

def replenishStreamsCredit (s : Session) ( isUnidirectional forceSend : Bool) :
    Session × Option Effect :=
  if !s.flowControlNegotiated || !s.mayReplenish then (s, none)
  else
    let current := s.localMaxStreams isUnidirectional
    let initial := s.initialMaxStreams isUnidirectional
    let newLimit := saturatingAdd (s.peerStreamsClosed isUnidirectional) initial
    let threshold := if forceSend then 0 else initial / 2
    if newLimit ≤ current ∨ newLimit < saturatingAdd current threshold then (s, none)
    else
      match s.varintCapsule
          (if isUnidirectional then wtCapsuleTypeMaxStreamsUni else wtCapsuleTypeMaxStreamsBidi)
          newLimit with
      | none => (s, none)
      | some capsule => (s.setLocalMaxStreams isUnidirectional newLimit, some capsule)

/-! ## Streams -/

def suppressPendingStreamEvents (s : Session) (streamId : StreamId) (streamEffects : List Effect) :
    List Effect :=
  if s.pendingStreams.contains streamId then
    streamEffects.filter fun effect =>
      match effect with
      | .emitStreamEvent .. => false
      | _ => true
  else streamEffects

/-- One more peer stream of this direction is over: count it, and grant a new
one if enough have gone. -/
def closePeerStream (s : Session) ( isUnidirectional : Bool) : Session × List Effect :=
  let counted := s.setPeerStreamsClosed isUnidirectional (s.peerStreamsClosed isUnidirectional + 1)
  let replenished := counted.replenishStreamsCredit isUnidirectional false
  (replenished.1, replenished.2.toList)

def handleClosed (s : Session) (streamId : StreamId) : Session × List Effect :=
  if !(s.streams.get? streamId).any Stream.isClosed then (s, [])
  else
    let removed : Session :=
      { s with
        streams := s.streams.erase streamId
        blockedStreams := s.blockedStreams.erase streamId }
    let effects := removed.suppressPendingStreamEvents streamId
      [.emitStreamEvent streamId .streamClosed none none none none]
    if isPeerInitiatedStream streamId s.isClient then
      let closed := removed.closePeerStream (isUnidirectionalStream streamId)
      (closed.1, effects ++ closed.2)
    else (removed, effects)

/-- Abort one stream, if the session has it. -/
def abortStream (s : Session) (streamId : StreamId) : Session × List Effect :=
  match s.streams.get? streamId with
  | none => (s, [])
  | some stream =>
    let result := stream.abort errWtSessionGone
    ({ s with streams := s.streams.insert streamId result.1 },
      s.suppressPendingStreamEvents streamId result.2)

/-- The loop of `abort_streams` over the sorted stream ids. -/
def abortStreamsLoop : List StreamId → Session → Session × List Effect
  | [], s => (s, [])
  | streamId :: rest, s =>
    let aborted := s.abortStream streamId
    let closed := aborted.1.handleClosed streamId
    let others := abortStreamsLoop rest closed.1
    (others.1, aborted.2 ++ closed.2 ++ others.2)

def abortStreams (s : Session) : Session × List Effect :=
  let aborted := abortStreamsLoop s.streams.keys s
  ({ aborted.1 with
      blockedStreams := ∅
      blockedStreamsQueue := []
      pendingStreams := []
      blockedStreamRequestsBidi := []
      blockedStreamRequestsUni := [] },
    aborted.2 ++ aborted.1.blockedStreamRequestsBidi.map failAborted ++
      aborted.1.blockedStreamRequestsUni.map failAborted)

/-- What every closing path does once the state is set: forget the queued
capsules and datagrams, abort the streams, give up the datagram reads. -/
def tearDown (s : Session) : Session × List Effect :=
  let aborted := { s with pendingCapsules := [], pendingDatagrams := [] }.abortStreams
  ({ aborted.1 with pendingDatagramRequests := [] },
    aborted.2 ++ aborted.1.pendingDatagramRequests.map failAborted)

/-- One stream taken from the queue sends what the credit allows, and goes to
the end of the queue if it still waits for credit. -/
def flushBlockedStream (s : Session) (streamId : StreamId) (stream : Stream) :
    Session × List Effect :=
  let flushed := stream.flushWrites s.sessionCredit
  let sent : Session :=
    { s with
      streams := s.streams.insert streamId flushed.1
      dataSent := s.dataSent + flushed.2.2 }
  if flushed.1.isBlocked then
    ({ sent with
        blockedStreamsQueue := sent.blockedStreamsQueue ++ [streamId]
        blockedStreams := insert streamId sent.blockedStreams }, flushed.2.1)
  else (sent, flushed.2.1)

/-- The loop of `flush_blocked_writes`, at most `count` rounds. -/
def flushBlockedWritesLoop : Nat → Session → Session × List Effect
  | 0, s => (s, [])
  | count + 1, s =>
    match s.blockedStreamsQueue with
    | [] => (s, [])
    | streamId :: rest =>
      let popped : Session :=
        { s with
          blockedStreamsQueue := rest
          blockedStreams := s.blockedStreams.erase streamId }
      if popped.sessionCredit = 0 then
        -- put back what was taken: the queue is as before, the set names the stream again
        ({ popped with
            blockedStreamsQueue := streamId :: rest
            blockedStreams := insert streamId popped.blockedStreams }, [])
      else
        match popped.streams.get? streamId with
        | none => flushBlockedWritesLoop count popped
        | some stream =>
          let flushed := popped.flushBlockedStream streamId stream
          let others := flushBlockedWritesLoop count flushed.1
          (others.1, flushed.2 ++ others.2)

def flushBlockedWrites (s : Session) : Session × List Effect :=
  if s.flowControlNegotiated && s.dataSent ≥ s.peerMaxData then (s, [])
  else
    let flushed := flushBlockedWritesLoop s.blockedStreamsQueue.length s
    let blocked := flushed.1.emitDataBlocked
    (blocked.1, flushed.2 ++ blocked.2.toList)

/-- The loop of `flush_blocked_stream_requests`: open what fits the limit. -/
def flushBlockedStreamRequestsLoop ( isUnidirectional : Bool) :
    List RequestId → Session → Session × List Effect
  | [], s => (s.setBlockedStreamRequests isUnidirectional [], [])
  | requestId :: rest, s =>
    if !s.flowControlNegotiated ||
        s.localStreamsOpened isUnidirectional < s.peerMaxStreams isUnidirectional then
      let opened := s.setLocalStreamsOpened isUnidirectional
        (s.localStreamsOpened isUnidirectional + 1)
      let others := flushBlockedStreamRequestsLoop isUnidirectional rest opened
      (others.1, .createQuicStream requestId s.id isUnidirectional :: others.2)
    else (s.setBlockedStreamRequests isUnidirectional (requestId :: rest), [])

def flushBlockedStreamRequests (s : Session) ( isUnidirectional : Bool) : Session × List Effect :=
  let flushed :=
    flushBlockedStreamRequestsLoop isUnidirectional (s.blockedStreamRequests isUnidirectional) s
  let blocked := flushed.1.emitStreamsBlocked isUnidirectional
  (blocked.1, flushed.2 ++ blocked.2.toList)

end Session

end PyWebTransport

/-
PyWebTransport.Transport.Endpoint — the transport endpoint and the buffer it
lends to QUIC (`transport/endpoint.rs`).

The endpoint has one `transmit_workspace`. QUIC writes a datagram into it
when an incoming datagram calls for a stateless answer, and when a
connection has something to send; the reactor then sends the front of the
buffer. QUIC itself is outside: what it makes of a datagram, of a call to
`accept` and of a poll is given with the call. Of its writes only this is
taken for granted, and it is part of `respond`, `Outgoing` and `Incoming`:
they append to the buffer, the size reported is the buffer's length, a
stateless answer is not empty, and a poll that returns nothing has written
nothing.

Of the connections the endpoint holds only the handles are modelled; their
effects, and whether a call drained them, come with the call as well.
-/
import PyWebTransport.Lib.OrderedMap
import PyWebTransport.Common.Constants
import PyWebTransport.Protocol.Events

namespace PyWebTransport.Transport

open PyWebTransport.Lib

structure SocketAddr where
  isIpv4 : Bool
  host : Nat
  port : Nat
deriving DecidableEq

/-- A datagram in the workspace, ready to be sent. -/
structure Transmit where
  destination : SocketAddr
  size : Nat
  segmentSize : Option Nat
deriving DecidableEq

inductive TransportEvent where
  | commandFailed (requestId : RequestId) (errorCode : Option ErrorCode) (reason : String)
  | connectionEffects (handle : ConnectionHandle) (effects : List Effect)
  | connectionSpawned (handle : ConnectionHandle) (remoteAddress : SocketAddr)
      (effects : List Effect)
  | consumed
  | transmit (transmit : Transmit)
deriving DecidableEq

structure TransportEndpoint where
  hasClientConfig : Bool
  hasServerConfig : Bool
  maxConnections : Nat
  connections : OrderedMap ConnectionHandle Unit := ∅
  transmitWorkspace : Bytes := []

/-! ## What QUIC does -/

/-- A stateless answer. -/
structure Response where
  destination : SocketAddr
  bytes : Bytes
  nonempty : bytes ≠ []

/-- What a connection has to send. -/
structure Outgoing where
  destination : SocketAddr
  bytes : Bytes
  segmentSize : Option Nat

/-- How a call left a connection: its effects, and whether it drained. -/
structure Touched where
  effects : List Effect
  drained : Bool

inductive AcceptResult where
  | accepted (handle : ConnectionHandle) (remoteAddress : SocketAddr) (effects : List Effect)
  /-- QUIC may have written a datagram it wants sent all the same. -/
  | failed (written : Bytes)

/-- A connection attempt, with what refusing and accepting it would do. -/
structure Incoming where
  refusal : Response
  acceptance : AcceptResult

/-- What `Endpoint::handle` makes of a datagram. -/
inductive DatagramEvent where
  | connectionEvent (handle : ConnectionHandle) (touched : Touched)
  | newConnection (incoming : Incoming)
  | response (response : Response)
  | ignored

/-! ## The code -/

namespace TransportEndpoint

/-- QUIC appends an answer to the workspace. -/
def respond (e : TransportEndpoint) (response : Response) : TransportEvent × TransportEndpoint :=
  let workspace := e.transmitWorkspace ++ response.bytes
  (.transmit ⟨response.destination, workspace.length, none⟩,
    { e with transmitWorkspace := workspace })

def spawnConnection (e : TransportEndpoint) (handle : ConnectionHandle)
    (remoteAddress : SocketAddr) (effects : List Effect) : TransportEvent × TransportEndpoint :=
  (.connectionSpawned handle remoteAddress effects,
    { e with connections := e.connections.insert handle () })

/-- The end of a call on a connection: a drained one is removed. -/
def settleConnection (e : TransportEndpoint) (handle : ConnectionHandle) (touched : Touched) :
    TransportEvent × TransportEndpoint :=
  (.connectionEffects handle touched.effects,
    if touched.drained then { e with connections := e.connections.erase handle } else e)

def connect (e : TransportEndpoint) (requestId : RequestId)
    (created : Option (ConnectionHandle × SocketAddr × List Effect)) :
    TransportEvent × TransportEndpoint :=
  if e.hasClientConfig = false then
    (.commandFailed requestId (some errLibInternalError) "quic_endpoint validate failed", e)
  else if e.maxConnections ≤ e.connections.size then
    (.commandFailed requestId (some errLibConnectionLimitExceeded)
      "quic_connection validate exceeded", e)
  else
    match created with
    | none =>
      (.commandFailed requestId (some errLibConnectionStateError)
        "quic_connection create failed", e)
    | some (handle, remoteAddress, effects) => e.spawnConnection handle remoteAddress effects

def handleDatagram (e : TransportEndpoint) : DatagramEvent → TransportEvent × TransportEndpoint
  | .connectionEvent handle touched =>
    if e.connections.contains handle then e.settleConnection handle touched
    else (.consumed, e)
  | .newConnection incoming =>
    if e.hasServerConfig = false then e.respond incoming.refusal
    else if e.maxConnections ≤ e.connections.size then e.respond incoming.refusal
    else
      match incoming.acceptance with
      | .accepted handle remoteAddress effects => e.spawnConnection handle remoteAddress effects
      | .failed written =>
        (.consumed, { e with transmitWorkspace := e.transmitWorkspace ++ written })
  | .response response => e.respond response
  | .ignored => (.consumed, e)

def handleProtocolEvent (e : TransportEndpoint) (handle : ConnectionHandle)
    (requestId : RequestId) (touched : Touched) : TransportEvent × TransportEndpoint :=
  if e.connections.contains handle then e.settleConnection handle touched
  else
    (.commandFailed requestId (some errLibConnectionStateError)
      "quic_connection resolve failed", e)

/-- `handle_timeout` and `shutdown`: every connection is called, and the
drained ones are removed at the end. -/
def handleAll (e : TransportEndpoint) (touch : ConnectionHandle → Touched) :
    List (ConnectionHandle × List Effect) × TransportEndpoint :=
  let handles := e.connections.keys
  ((handles.map fun handle => (handle, (touch handle).effects)).filter fun entry =>
      !entry.2.isEmpty,
    { e with
      connections := (handles.filter fun handle => (touch handle).drained).foldl
        OrderedMap.erase e.connections })

/-- `poll_transmit`: the first connection, by handle, that has something. -/
def pollTransmit (e : TransportEndpoint) (poll : ConnectionHandle → Option Outgoing) :
    Option Transmit × TransportEndpoint :=
  match e.connections.keys.findSome? poll with
  | none => (none, { e with transmitWorkspace := [] })
  | some outgoing =>
    (some ⟨outgoing.destination, outgoing.bytes.length, outgoing.segmentSize⟩,
      { e with transmitWorkspace := outgoing.bytes })

/-! ## What a datagram leaves in the workspace -/

/-- The bytes QUIC writes while an incoming datagram is handled. -/
def written (e : TransportEndpoint) : DatagramEvent → Bytes
  | .connectionEvent _ _ => []
  | .newConnection incoming =>
    if e.hasServerConfig = false then incoming.refusal.bytes
    else if e.maxConnections ≤ e.connections.size then incoming.refusal.bytes
    else
      match incoming.acceptance with
      | .accepted _ _ _ => []
      | .failed bytes => bytes
  | .response response => response.bytes
  | .ignored => []

/-- A datagram that makes QUIC write nothing into the workspace: it belongs
to a connection, is ignored, or asks for a connection that is accepted or
fails without a word. -/
def Silent (e : TransportEndpoint) (event : DatagramEvent) : Prop := e.written event = []

instance (e : TransportEndpoint) (event : DatagramEvent) : Decidable (e.Silent event) :=
  inferInstanceAs (Decidable (_ = _))

end TransportEndpoint

end PyWebTransport.Transport

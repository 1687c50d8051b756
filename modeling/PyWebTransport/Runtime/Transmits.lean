/-
PyWebTransport.Runtime.Transmits — how the reactor sends what QUIC wrote
(`runtime/reactor.rs`).

The reactor's loop takes a command, a timeout or a batch of incoming
datagrams, then sends everything the connections have (`flush_transmits`).
A stateless answer to an incoming datagram is sent at once, from the front
of the endpoint's workspace. Only `poll_transmit` clears the workspace, so
between two datagrams of one batch it is not cleared: `written_stays` says
what a datagram leaves behind, `batch_own_bytes_iff` that the answers of a
batch are sent as they were written exactly if none but the last of its
datagrams makes QUIC write, and `batch_mixes_answers` shows a batch of two.

The events the reactor hands to the event loop are in `Runtime.Waker`.
-/
import PyWebTransport.Transport.Endpoint

namespace PyWebTransport.Runtime

open PyWebTransport.Transport

structure BoundSocket where
  isIpv4 : Bool
deriving DecidableEq

structure Reactor where
  endpoint : TransportEndpoint
  sockets : List BoundSocket

def udpPollDatagrams : Nat := 64

/-! ## The code -/

/-- The loop of `send_transmit` over the first `size` bytes, in segments.
`fuel` bounds its rounds; a segment of at least one byte uses at most one
round for each byte. -/
def sendLoop (data : Bytes) (size segmentSize : Nat) : Nat → Nat → List Bytes
  | 0, _ => []
  | fuel + 1, offset =>
    if offset < size then
      let chunkLen := min segmentSize (size - offset)
      (data.drop offset).take chunkLen ::
        sendLoop data size segmentSize fuel (offset + chunkLen)
    else []

namespace Reactor

variable {event : DatagramEvent}

/-- The socket a datagram leaves by: one of the address family, or the first. -/
def targetSocket (r : Reactor) (address : SocketAddr) : Option BoundSocket :=
  (r.sockets.find? fun socket => socket.isIpv4 == address.isIpv4).or r.sockets.head?

/-- `send_transmit`: the payloads that are sent, one for each segment. -/
def sendTransmit (r : Reactor) (transmit : Transmit) : List Bytes :=
  let size := transmit.size
  let workspace := r.endpoint.transmitWorkspace
  if size ≤ workspace.length then
    match r.targetSocket transmit.destination with
    | none => []
    | some _ =>
      sendLoop (workspace.take size) size (transmit.segmentSize.getD size) (size + 1) 0
  else []

/-- One incoming datagram: the workspace when the endpoint was called, what
the call returned, what QUIC wrote during the call, and what was sent. -/
structure Handled where
  entry : Bytes
  event : TransportEvent
  written : Bytes
  sent : List Bytes

/-- `handle_datagram` with the part of `process_transport_event` that sends. -/
def handleDatagram (r : Reactor) (event : DatagramEvent) : Handled × Reactor :=
  let result := r.endpoint.handleDatagram event
  let after := { r with endpoint := result.2 }
  ({ entry := r.endpoint.transmitWorkspace
     event := result.1
     written := r.endpoint.written event
     sent :=
      match result.1 with
      | .transmit transmit => after.sendTransmit transmit
      | _ => [] },
    after)

/-- The datagrams of one batch, in the order they came in. -/
def handleBatch (r : Reactor) : List DatagramEvent → List Handled × Reactor
  | [] => ([], r)
  | event :: events =>
    let head := r.handleDatagram event
    let tail := head.2.handleBatch events
    (head.1 :: tail.1, tail.2)

/-- `flush_transmits`: one poll after another, until one returns nothing.
The list says what the connections have at each poll; behind its end they
have nothing. -/
def flushTransmits (r : Reactor) : List (ConnectionHandle → Option Outgoing) →
    List (List Bytes) × Reactor
  | [] => ([], { r with endpoint := (r.endpoint.pollTransmit fun _ => none).2 })
  | poll :: polls =>
    let result := r.endpoint.pollTransmit poll
    let after := { r with endpoint := result.2 }
    match result.1 with
    | none => ([], after)
    | some transmit =>
      let rest := after.flushTransmits polls
      (after.sendTransmit transmit :: rest.1, rest.2)

/-- What the loop of `run` can be woken by. -/
inductive Work where
  | connect (requestId : RequestId)
      (created : Option (ConnectionHandle × SocketAddr × List Effect))
  | protocolEvent (handle : ConnectionHandle) (requestId : RequestId) (touched : Touched)
  | datagrams (first : DatagramEvent) (more : List DatagramEvent)
      (few : more.length < udpPollDatagrams)
  /-- A timeout, or the command to shut down. -/
  | all (touch : ConnectionHandle → Touched)

def handleWork (r : Reactor) : Work → Reactor
  | .connect requestId created => { r with endpoint := (r.endpoint.connect requestId created).2 }
  | .protocolEvent handle requestId touched =>
    { r with endpoint := (r.endpoint.handleProtocolEvent handle requestId touched).2 }
  | .datagrams first more _ => (r.handleBatch (first :: more)).2
  | .all touch => { r with endpoint := (r.endpoint.handleAll touch).2 }

/-- The states of a reactor at the head of its loop. -/
inductive Runs : Reactor → Prop
  | start (r : Reactor) (fresh : r.endpoint.transmitWorkspace = []) : Runs r
  | round {r} (work : Work) (polls : List (ConnectionHandle → Option Outgoing)) (run : Runs r) :
      Runs ((r.handleWork work).flushTransmits polls).2

variable {r : Reactor} {transmit : Transmit}

/-! ## Flushing clears the workspace -/

theorem transmitWorkspace_flushTransmits : ∀ (polls : List (ConnectionHandle → Option Outgoing))
    (r : Reactor), (r.flushTransmits polls).2.endpoint.transmitWorkspace = []
  | [], r => by
      rw [flushTransmits, TransportEndpoint.pollTransmit]
      have hnone : (r.endpoint.connections.keys.findSome? fun _ => (none : Option Outgoing)) =
          none := by simp
      rw [hnone]
  | poll :: polls, r => by
      rw [flushTransmits, TransportEndpoint.pollTransmit]
      cases r.endpoint.connections.keys.findSome? poll with
      | none => rfl
      | some outgoing => exact transmitWorkspace_flushTransmits polls _

/-- At the head of the loop the workspace is clear. -/
theorem Runs.clear (run : Runs r) : r.endpoint.transmitWorkspace = [] := by
  cases run with
  | start _ fresh => exact fresh
  | round work => exact transmitWorkspace_flushTransmits ..

/-! ## One datagram -/

/-- A datagram leaves in the workspace what was there and what QUIC wrote. -/
theorem written_stays (e : TransportEndpoint) (event : DatagramEvent) :
    (e.handleDatagram event).2.transmitWorkspace = e.transmitWorkspace ++ e.written event := by
  cases event with
  | connectionEvent handle touched =>
    simp only [TransportEndpoint.handleDatagram, TransportEndpoint.settleConnection,
      TransportEndpoint.written, List.append_nil]
    split
    · split <;> rfl
    · rfl
  | newConnection incoming =>
    simp only [TransportEndpoint.handleDatagram, TransportEndpoint.written]
    split
    · rfl
    · split
      · rfl
      · cases incoming.acceptance with
        | accepted handle remoteAddress effects => exact (List.append_nil _).symm
        | failed bytes => rfl
  | response response => rfl
  | ignored => exact (List.append_nil _).symm

/-- A call that returns a datagram to send has written it at the end of the
workspace and reports the length of the whole. -/
theorem transmit_handleDatagram {e : TransportEndpoint}
    (h : (e.handleDatagram event).1 = .transmit transmit) :
    transmit.size = (e.handleDatagram event).2.transmitWorkspace.length ∧
      transmit.segmentSize = none ∧ e.written event ≠ [] := by
  cases event with
  | connectionEvent handle touched =>
    simp only [TransportEndpoint.handleDatagram] at h
    split at h <;> cases h
  | newConnection incoming =>
    simp only [TransportEndpoint.handleDatagram, TransportEndpoint.written] at h ⊢
    split
    · rename_i hserver
      rw [if_pos hserver] at h
      cases h
      exact ⟨rfl, rfl, incoming.refusal.nonempty⟩
    · rename_i hserver
      rw [if_neg hserver] at h
      split
      · rename_i hfull
        rw [if_pos hfull] at h
        cases h
        exact ⟨rfl, rfl, incoming.refusal.nonempty⟩
      · rename_i hfull
        rw [if_neg hfull] at h
        cases hacceptance : incoming.acceptance with
        | accepted handle remoteAddress effects | failed bytes =>
          rw [hacceptance] at h
          cases h
  | response response =>
    cases h
    exact ⟨rfl, rfl, response.nonempty⟩
  | ignored => cases h

/-- A datagram that is not cut into segments is sent whole. -/
theorem sendTransmit_whole (r : Reactor) (hsockets : r.sockets ≠ [])
    (hsize : transmit.size = r.endpoint.transmitWorkspace.length)
    (hsegment : transmit.segmentSize = none) (hne : r.endpoint.transmitWorkspace ≠ []) :
    r.sendTransmit transmit = [r.endpoint.transmitWorkspace] := by
  have htarget : ∃ socket, r.targetSocket transmit.destination = some socket := by
    obtain ⟨socket, sockets, hcons⟩ := List.exists_cons_of_ne_nil hsockets
    unfold targetSocket
    cases r.sockets.find? fun socket => socket.isIpv4 == transmit.destination.isIpv4 with
    | none => exact ⟨socket, by rw [hcons]; rfl⟩
    | some found => exact ⟨found, rfl⟩
  obtain ⟨socket, htarget⟩ := htarget
  have hpos : 0 < transmit.size := by
    rw [hsize]
    exact List.length_pos_iff.mpr hne
  -- the first round takes everything, the second finds nothing left
  have hend : ∀ fuel, sendLoop (r.endpoint.transmitWorkspace.take transmit.size) transmit.size
      transmit.size fuel (0 + transmit.size) = [] := by
    intro fuel
    cases fuel with
    | zero => rfl
    | succ fuel => exact if_neg (by omega)
  simp only [sendTransmit, htarget, hsegment, Option.getD_none, sendLoop, if_pos hpos,
    Nat.sub_zero, Nat.min_self, hend, List.drop_zero]
  rw [if_pos (Nat.le_of_eq hsize), hsize, List.take_length, List.take_length]

/-- What is sent for an answer is what the workspace held, then the answer. -/
theorem sent_handleDatagram (hsockets : r.sockets ≠ [])
    (h : (r.handleDatagram event).1.event = .transmit transmit) :
    (r.handleDatagram event).1.sent =
      [r.endpoint.transmitWorkspace ++ r.endpoint.written event] := by
  have hevent : (r.endpoint.handleDatagram event).1 = .transmit transmit := h
  obtain ⟨hsize, hsegment, hne⟩ := transmit_handleDatagram hevent
  have hstays := written_stays r.endpoint event
  have hwhole := sendTransmit_whole { r with endpoint := (r.endpoint.handleDatagram event).2 }
    hsockets hsize hsegment (by
      show (r.endpoint.handleDatagram event).2.transmitWorkspace ≠ []
      rw [hstays]
      exact List.append_ne_nil_of_right_ne_nil _ hne)
  unfold handleDatagram
  dsimp only
  rw [hevent]
  exact hwhole.trans (by rw [hstays])

/-! ## A batch -/

/-- No datagram of the batch but the last makes QUIC write. -/
def Spaced (e : TransportEndpoint) : List DatagramEvent → Prop
  | [] => True
  | [_] => True
  | event :: next :: events =>
    e.Silent event ∧ Spaced (e.handleDatagram event).2 (next :: events)

/-- The workspace is empty on every entry to `handle_datagram`, and what is
sent for every answer is what the call wrote. -/
structure OwnBytes (r : Reactor) (handled : List Handled) : Prop where
  empty : ∀ h ∈ handled, h.entry = []
  exact : r.sockets ≠ [] → ∀ h ∈ handled, ∀ transmit, h.event = .transmit transmit →
    h.sent = [h.written]

theorem handleBatch_cons {events : List DatagramEvent} :
    (r.handleBatch (event :: events)).1 =
      (r.handleDatagram event).1 :: ((r.handleDatagram event).2.handleBatch events).1 :=
  rfl

/-- A clear workspace gives the first datagram its own bytes; the others need
it to be clear again behind it. -/
theorem ownBytes_cons_iff (hclear : r.endpoint.transmitWorkspace = []) (event : DatagramEvent)
    (events : List DatagramEvent) :
    OwnBytes r (r.handleBatch (event :: events)).1 ↔
      OwnBytes (r.handleDatagram event).2 ((r.handleDatagram event).2.handleBatch events).1 := by
  rw [handleBatch_cons]
  constructor
  · rintro ⟨hempty, hexact⟩
    refine ⟨fun h hmem => hempty h (List.mem_cons_of_mem _ hmem), fun hsockets h hmem => ?_⟩
    exact hexact hsockets h (List.mem_cons_of_mem _ hmem)
  · rintro ⟨hempty, hexact⟩
    refine ⟨fun h hmem => ?_, fun hsockets h hmem transmit htransmit => ?_⟩
    · rcases List.mem_cons.mp hmem with rfl | hmem
      · exact hclear
      · exact hempty h hmem
    · rcases List.mem_cons.mp hmem with rfl | hmem
      · rw [sent_handleDatagram hsockets htransmit, hclear]
        rfl
      · exact hexact hsockets h hmem transmit htransmit

theorem ownBytes_iff_spaced : ∀ (events : List DatagramEvent) (r : Reactor),
    r.endpoint.transmitWorkspace = [] →
      (OwnBytes r (r.handleBatch events).1 ↔ Spaced r.endpoint events)
  | [], r, _ => by
      refine ⟨fun _ => trivial, fun _ => ⟨?_, ?_⟩⟩
      · exact List.forall_mem_nil _
      · exact fun _ => List.forall_mem_nil _
  | [event], r, hclear => by
      rw [ownBytes_cons_iff hclear]
      refine ⟨fun _ => trivial, fun _ => ⟨?_, ?_⟩⟩
      · exact List.forall_mem_nil _
      · exact fun _ => List.forall_mem_nil _
  | event :: next :: events, r, hclear => by
      have hstays := written_stays r.endpoint event
      rw [hclear, List.nil_append] at hstays
      rw [ownBytes_cons_iff hclear]
      constructor
      · intro hown
        -- the next datagram finds what this one wrote
        have hsilent : r.endpoint.Silent event := by
          have hentry := hown.empty _ List.mem_cons_self
          exact hstays.symm.trans hentry
        exact ⟨hsilent, (ownBytes_iff_spaced (next :: events) _ (hstays.trans hsilent)).mp hown⟩
      · rintro ⟨hsilent, hspaced⟩
        exact (ownBytes_iff_spaced (next :: events) _ (hstays.trans hsilent)).mpr hspaced

/-- In every run and for every batch the reactor takes: the answers are sent
with their own bytes, from a workspace that is empty at each datagram, if and
only if no datagram of the batch but the last makes QUIC write. -/
theorem batch_own_bytes_iff {r : Reactor} (run : Runs r) (first : DatagramEvent)
    (more : List DatagramEvent) (_few : more.length < udpPollDatagrams) :
    OwnBytes r (r.handleBatch (first :: more)).1 ↔ Spaced r.endpoint (first :: more) :=
  ownBytes_iff_spaced (first :: more) r run.clear

/-- A server that has just started, with one socket. -/
def sampleReactor : Reactor where
  endpoint := { hasClientConfig := false, hasServerConfig := true, maxConnections := 1 }
  sockets := [⟨true⟩]

/-- A stateless answer of one byte. -/
def sampleAnswer (byte : UInt8) : DatagramEvent :=
  .response ⟨⟨true, 0, 0⟩, [byte], List.cons_ne_nil _ _⟩

theorem batch_own_bytes_iff_two :
    OwnBytes sampleReactor (sampleReactor.handleBatch [.ignored, sampleAnswer 1]).1 ∧
      ¬OwnBytes sampleReactor (sampleReactor.handleBatch [sampleAnswer 1, sampleAnswer 2]).1 :=
  ⟨(batch_own_bytes_iff (.start sampleReactor rfl) .ignored [sampleAnswer 1] (by decide)).mpr
      ⟨rfl, trivial⟩,
    fun hown => absurd
      ((batch_own_bytes_iff (.start sampleReactor rfl) (sampleAnswer 1) [sampleAnswer 2]
        (by decide)).mp hown).1 (by decide)⟩

/-- Two stateless answers in one batch: the second is called with the first
one's byte in the workspace and sends both. -/
theorem batch_mixes_answers :
    Runs sampleReactor ∧
      ∃ first second, (sampleReactor.handleBatch [sampleAnswer 1, sampleAnswer 2]).1 =
        [first, second] ∧ first.sent = [[1]] ∧ second.entry = [1] ∧ second.written = [2] ∧
          second.sent = [[1, 2]] :=
  ⟨.start sampleReactor rfl, _, _, rfl, rfl, rfl, rfl, rfl⟩

end Reactor

end PyWebTransport.Runtime

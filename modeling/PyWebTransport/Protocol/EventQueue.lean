/-
PyWebTransport.Protocol.EventQueue — the queue of `handle_event`.

`handleEvent` handles an event with all that it raises, to a fixed depth; the
source has a loop over a queue whose front takes what is raised. The two are
the same (`queueLoop_iff_handleEvent`): what HTTP/3 raises raises at most the
requests that wait for the connection, and these raise nothing.

The requests that wait are kept in order and replayed by the event that opens
the connection. `preconnect_transparent` says that this cannot be told from
submitting them afterwards: the effects and the engine are the same, request
by request, whatever each request leads to.
-/
import PyWebTransport.Protocol.EngineCalls

namespace PyWebTransport

open PyWebTransport.Lib

namespace WebTransportEngine

variable {Q : Qpack} {event : ProtocolEvent} {e : WebTransportEngine Q} {now : Timestamp}

/-! ## The loop -/

/-- How deep the queue can get below an event. -/
def rank (event : ProtocolEvent) : Nat :=
  if (pendingRequestId event).isSome then 0 else if event.isH3 then 1 else 2

/-- A request for a session or a stream is handled in one turn. -/
theorem step_of_request (e : WebTransportEngine Q) (h : (pendingRequestId event).isSome = true) :
    ∃ engine effects, e.step now event = some ⟨engine, effects, []⟩ := by
  have hdefer : ∀ result : Connection × List Effect,
      ∃ engine effects, e.deferUntilConnected event result = ⟨engine, effects, []⟩ := by
    intro result
    unfold deferUntilConnected
    split <;> exact ⟨_, _, rfl⟩
  cases event with
  | userCreateSession requestId authority path headers wtAvailableProtocols
  | userCreateSessionOptimistic requestId authority path headers wtAvailableProtocols
  | userCreateStream requestId sessionId isUnidirectional =>
    obtain ⟨engine, effects, heq⟩ := hdefer _
    exact ⟨engine, effects, congrArg some heq⟩
  | _ => cases h

/-- An event of HTTP/3 raises at most the requests that wait. -/
theorem raised_of_isH3 {turn : Turn Q} (hH3 : event.isH3 = true)
    (h : e.step now event = some turn) :
    ∀ raised ∈ turn.raised, raised ∈ e.pendingUserEvents := by
  intro raised hraised
  rcases (step_turns h).calm with hnone | hopens
  · rw [hnone] at hraised
    cases hraised
  · cases event with
    | h3SettingsReceived settings =>
      cases h
      unfold replayPending at hraised
      split at hraised
      · exact hraised
      · cases hraised
    | h3CapsuleReceived | h3ConnectStreamClosed | h3DatagramReceived | h3GoawayReceived
    | h3HeadersReceived | h3WebTransportStreamOpened => exact nomatch hopens _ rfl
    | _ => cases hH3

theorem rank_of_request (h : (pendingRequestId event).isSome = true) :
    rank event = 0 := if_pos h

theorem rank_raised {turn : Turn Q} (he : e.Waits) (h : e.step now event = some turn) :
    ∀ raised ∈ turn.raised, rank raised < rank event := by
  intro raised hraised
  by_cases hrequest : (pendingRequestId event).isSome = true
  · obtain ⟨engine, effects, heq⟩ := e.step_of_request hrequest
    rw [heq] at h
    cases h
    cases hraised
  by_cases hH3 : event.isH3 = true
  · have hwaiting := he raised (raised_of_isH3 hH3 h raised hraised)
    rw [rank_of_request hwaiting, rank, if_neg hrequest, if_pos hH3]
    exact Nat.one_pos
  · rw [show rank event = 2 by rw [rank, if_neg hrequest, if_neg hH3]]
    rcases (step_turns h).raises he raised hraised with hup | hwaiting
    · unfold rank
      split_ifs <;> decide
    · rw [rank_of_request hwaiting]
      decide

/-- The loop over the queue returns what `handleEvent` returns. -/
theorem queueLoop_iff_handleEvent (he : e.Waits) (r : WebTransportEngine Q × List Effect) :
    (∃ fuel, queueLoop now fuel e [event] = some r) ↔ e.handleEvent event now = some r := by
  refine @DepthFirst.loop_iff_run _ _ _ (turn now) Waits rank ?_ 3 e event he ?_ r
  · intro e' item turn he' hturn
    obtain ⟨turn, hstep, rfl⟩ := turn_eq_some hturn
    exact ⟨(step_turns hstep).waits he', rank_raised he' hstep⟩
  · unfold rank
    split_ifs <;> decide

/-! ## Requests ahead of the connection -/

/-- Events handled one after the other, at one time. -/
def handleAll (now : Timestamp) (e : WebTransportEngine Q) (events : List ProtocolEvent) :
    Option (WebTransportEngine Q × List Effect) :=
  DepthFirst.runAll (fun e event => e.handleEvent event now) e events

/-- The event opens the connection: the handshake after the settings of the
peer, or the settings after the handshake. -/
def Opens (e : WebTransportEngine Q) (now : Timestamp) (event : ProtocolEvent) : Prop :=
  match event with
  | .transportHandshakeCompleted =>
    (e.connection.handleHandshakeCompleted now).1.isConnected = true
  | .h3SettingsReceived settings => (e.connection.recvSettings settings now).1.isConnected = true
  | _ => False

theorem opens_iff (hclient : e.connection.isClient = true)
    (hpre : e.connection.isPreConnected = true) :
    e.Opens now event ↔
      (event = .transportHandshakeCompleted ∧ e.connection.peerSettingsReceived = true) ∨
      (∃ settings, event = .h3SettingsReceived settings) ∧
        e.connection.state = .connecting ∧ e.connection.handshakeCompleted = true := by
  have hstate : e.connection.state = .connecting ∨ e.connection.state = .idle := by
    simpa [Connection.isPreConnected] using hpre
  cases event with
  | transportHandshakeCompleted =>
    unfold Opens Connection.handleHandshakeCompleted
    rcases hstate with hstate | hstate <;>
      cases hsettings : e.connection.peerSettingsReceived <;>
      simp [hstate, hclient, hsettings, Connection.isConnected, Connection.open]
  | h3SettingsReceived settings =>
    unfold Opens Connection.recvSettings
    rcases hstate with hstate | hstate <;> cases hdone : e.connection.handshakeCompleted <;>
      simp [hstate, Connection.isConnected, Connection.open]
  | _ => simp [Opens]

/-- To whatever depth a request is handled, it is one turn. -/
theorem run_of_request (h : (pendingRequestId event).isSome = true) (now : Timestamp)
    (e : WebTransportEngine Q) (depth : Nat) :
    ∃ r, DepthFirst.run (turn now) (depth + 1) e event = some r ∧
      e.handleEvent event now = some r := by
  obtain ⟨engine, effects, heq⟩ := e.step_of_request h
  have hturn : turn now e event = some (engine, effects, []) := by
    rw [turn, heq]
    rfl
  exact ⟨(engine, effects), DepthFirst.run_of_calm hturn depth, DepthFirst.run_of_calm hturn 2⟩

/-- Before the connection is open, requests are kept in the order in which
they come. -/
theorem handleAll_ahead (now : Timestamp) {requests : List ProtocolEvent}
    (hrequests : ∀ event ∈ requests, (pendingRequestId event).isSome = true) :
    ∀ e : WebTransportEngine Q, e.connection.isClient = true →
      e.connection.isPreConnected = true →
      e.handleAll now requests =
        some ({ e with pendingUserEvents := e.pendingUserEvents ++ requests }, []) := by
  induction requests with
  | nil =>
    intro e _ _
    simp [handleAll, DepthFirst.runAll]
  | cons event rest ih =>
    intro e hclient hpre
    have hkept : e.handleEvent event now =
        some ({ e with pendingUserEvents := e.pendingUserEvents ++ [event] }, []) := by
      have hdefer : ∀ result, e.deferUntilConnected event result =
          ⟨{ e with pendingUserEvents := e.pendingUserEvents ++ [event] }, [], []⟩ := by
        intro result
        rw [deferUntilConnected, hclient, hpre]
        rfl
      refine DepthFirst.run_of_calm ?_ 2
      have hrequest := hrequests event List.mem_cons_self
      cases event with
      | userCreateSession | userCreateSessionOptimistic | userCreateStream =>
        simp only [turn, step, hdefer, Option.map_some]
      | _ => cases hrequest
    have hrest := ih (fun ev hev => hrequests ev (List.mem_cons_of_mem _ hev))
      { e with pendingUserEvents := e.pendingUserEvents ++ [event] } hclient hpre
    rw [handleAll] at hrest
    rw [handleAll, DepthFirst.runAll, hkept, Option.bind_some, hrest]
    simp

/-- The event that opens the connection replays the requests that wait, and
does nothing else with them. -/
theorem step_of_opens (hclient : e.connection.isClient = true) (h : e.Opens now event) :
    ∃ connection effects, ∀ waiting,
      ({ e with pendingUserEvents := waiting } : WebTransportEngine Q).step now event =
        some ⟨{ e with connection := connection, pendingUserEvents := [] }, effects, waiting⟩ := by
  have hreplay : ∀ (result : Connection × List Effect) waiting, result.1.isClient = true →
      result.1.isConnected = true →
      replayPending (({ e with pendingUserEvents := waiting } : WebTransportEngine Q).onConnection
        result) =
        ⟨{ e with connection := result.1, pendingUserEvents := [] }, result.2, waiting⟩ := by
    intro result waiting hresult hconnected
    simp [replayPending, onConnection, hresult, hconnected]
  cases event with
  | transportHandshakeCompleted =>
    refine ⟨_, _, fun waiting => congrArg some (hreplay _ waiting ?_ h)⟩
    unfold Connection.handleHandshakeCompleted
    simp only
    split_ifs <;> exact hclient
  | h3SettingsReceived settings =>
    refine ⟨_, _, fun waiting => congrArg some (hreplay _ waiting ?_ h)⟩
    unfold Connection.recvSettings
    simp only
    split_ifs <;> exact hclient
  | _ => exact absurd h id

/-- Requests are always handled, to whatever depth. -/
theorem replay_of_requests {depth : Nat} {requests : List ProtocolEvent}
    (hrequests : ∀ event ∈ requests, (pendingRequestId event).isSome = true) :
    ∀ e : WebTransportEngine Q,
      ∃ r, DepthFirst.runAll (DepthFirst.run (turn now) (depth + 1)) e requests = some r := by
  induction requests with
  | nil => exact fun e => ⟨_, rfl⟩
  | cons event rest ih =>
    intro e
    obtain ⟨first, hfirst, -⟩ := run_of_request (hrequests event List.mem_cons_self) now e depth
    obtain ⟨others, hothers⟩ := ih (fun ev hev => hrequests ev (List.mem_cons_of_mem _ hev))
      first.1
    refine ⟨(others.1, first.2 ++ others.2), ?_⟩
    simp only [DepthFirst.runAll, hfirst, hothers, Option.bind_some, Option.map_some]

/-- Requests submitted ahead of the connection and then replayed have the
effects, and leave the engine, of requests submitted once it is open. If what
waited before were requests too, the calls return. -/
theorem preconnect_transparent (e : WebTransportEngine Q) (now : Timestamp)
    (hclient : e.connection.isClient = true) (hpre : e.connection.isPreConnected = true)
    (requests : List ProtocolEvent)
    (hrequests : ∀ event ∈ requests, (pendingRequestId event).isSome = true)
    (event : ProtocolEvent) (hopens : e.Opens now event) :
    e.handleAll now (requests ++ [event]) = e.handleAll now (event :: requests) ∧
      (e.Waits → (e.handleAll now (event :: requests)).isSome = true) := by
  obtain ⟨connection, effects, hstep⟩ := step_of_opens hclient hopens
  let opened : WebTransportEngine Q := { e with connection := connection, pendingUserEvents := [] }
  let replay := DepthFirst.runAll (DepthFirst.run (turn now) 2) opened
  have hhandle : ∀ waiting,
      ({ e with pendingUserEvents := waiting } : WebTransportEngine Q).handleEvent event now =
        (replay waiting).map fun others => (others.1, effects ++ others.2) := by
    intro waiting
    simp only [handleEvent, DepthFirst.run, turn, hstep waiting, Option.map_some,
      Option.bind_some]
    rfl
  have hsame : ∀ s : WebTransportEngine Q,
      DepthFirst.runAll (DepthFirst.run (turn now) 2) s requests = s.handleAll now requests := by
    refine DepthFirst.runAll_congr requests fun request hrequest s => ?_
    obtain ⟨r, hdeep, hhandled⟩ := run_of_request (hrequests request hrequest) now s 1
    rw [hdeep, hhandled]
  have hfirst : e.handleAll now (requests ++ [event]) =
      (replay (e.pendingUserEvents ++ requests)).map fun others =>
        (others.1, effects ++ others.2) := by
    have hahead := handleAll_ahead now hrequests e hclient hpre
    rw [handleAll] at hahead
    rw [handleAll, DepthFirst.runAll_append, hahead, Option.bind_some]
    simp only [DepthFirst.runAll, hhandle, Option.map_some, List.append_nil, List.nil_append]
    cases replay (e.pendingUserEvents ++ requests) <;> rfl
  have hafter : e.handleAll now (event :: requests) =
      ((replay e.pendingUserEvents).bind fun done =>
        (done.1.handleAll now requests).map fun others => (others.1, done.2 ++ others.2)).map
          fun others => (others.1, effects ++ others.2) := by
    have hevent : e.handleEvent event now = (replay e.pendingUserEvents).map fun others =>
        (others.1, effects ++ others.2) := hhandle e.pendingUserEvents
    rw [handleAll, DepthFirst.runAll, hevent]
    cases replay e.pendingUserEvents with
    | none => rfl
    | some done =>
      simp only [Option.map_some, Option.bind_some, handleAll, Option.map_map]
      congr 1
      funext others
      simp
  constructor
  · rw [hfirst, hafter]
    simp only [replay, DepthFirst.runAll_append, hsame]
  · intro hwaits
    obtain ⟨done, hdone⟩ := replay_of_requests hwaits opened
    obtain ⟨last, hlast⟩ := replay_of_requests hrequests done.1
    have hreplayed : replay e.pendingUserEvents = some done := hdone
    rw [hafter, hreplayed, Option.bind_some, ← hsame, hlast]
    rfl

/-- A client that has the settings of its peer and waits for the handshake. -/
def sampleAhead : WebTransportEngine plainQpack :=
  let e : WebTransportEngine plainQpack := .new 0 none true sampleEngineParameters
  { e with connection := { e.connection with peerSettingsReceived := true } }

/-- Two requests, of which the second names a session that does not exist. -/
def sampleRequests : List ProtocolEvent :=
  [.userCreateSession 7 "a" "/" [] none, .userCreateStream 8 0 false]

theorem preconnect_transparent_sample :
    sampleAhead.handleAll 1 (sampleRequests ++ [.transportHandshakeCompleted]) =
        sampleAhead.handleAll 1 (.transportHandshakeCompleted :: sampleRequests) ∧
      (sampleAhead.Waits → (sampleAhead.handleAll 1
        (.transportHandshakeCompleted :: sampleRequests)).isSome = true) :=
  preconnect_transparent sampleAhead 1 rfl (by decide) sampleRequests (by decide)
    .transportHandshakeCompleted ((opens_iff rfl (by decide)).mpr (Or.inl ⟨rfl, rfl⟩))

end WebTransportEngine

end PyWebTransport

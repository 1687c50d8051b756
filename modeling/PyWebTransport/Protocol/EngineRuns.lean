/-
PyWebTransport.Protocol.EngineRuns — runs of an engine with the transport
that drives it.

A `World` is an engine together with what its transport
(`transport/connection.rs`) keeps in mind: the effects that ask for a stream
and have not been answered, the streams that exist, the requests that were
submitted, and all effects so far. `Allows` is what the transport promises
about the next event: no HTTP/3 event comes from outside, a stream that is
opened is new, data arrives on streams that exist, an answer belongs to a
question, and request ids are not reused. The answers to the questions of an
engine may come at any time and in any order.

`Step` takes a further condition on each event, so that a result about runs
that meet a condition is a result about `Relation.ReflTransGen (Step ok)`;
`run_invariant` is its induction rule. `handled_invariant` is the rule for a
single event: what its own turn establishes and the turns it raises preserve
holds when `handle_event` returns.
-/
import PyWebTransport.Protocol.Engine
import Mathlib.Logic.Relation

namespace PyWebTransport

open PyWebTransport.Lib

/-! ## Events as the transport sees them -/

namespace ProtocolEvent

/-- An event that only the HTTP/3 layer raises. -/
def isH3 : ProtocolEvent → Bool
  | .h3CapsuleReceived .. | .h3ConnectStreamClosed _ | .h3DatagramReceived .. | .h3GoawayReceived
  | .h3HeadersReceived .. | .h3SettingsReceived _ | .h3WebTransportStreamOpened .. => true
  | _ => false

/-- The stream an event brings into being. -/
def opens : ProtocolEvent → Option StreamId
  | .internalBindH3ConnectStream _ streamId => some streamId
  | .internalBindQuicStream _ streamId _ _ => some streamId
  | .transportStreamOpened streamId => some streamId
  | _ => none

/-- The direction a stream was asked for. -/
def opensDirected : ProtocolEvent → Option (StreamId × Bool)
  | .internalBindH3ConnectStream _ streamId => some (streamId, false)
  | .internalBindQuicStream _ streamId _ isUnidirectional => some (streamId, isUnidirectional)
  | _ => none

/-- The stream on which the peer sent something. -/
def arrivesOn : ProtocolEvent → Option StreamId
  | .transportStreamDataReceived streamId _ _ => some streamId
  | .transportResetStreamReceived streamId _ => some streamId
  | _ => none

/-- The CONNECT request an event answers. -/
def answersConnect : ProtocolEvent → Option RequestId
  | .internalBindH3ConnectStream requestId _ => some requestId
  | .internalDeferH3ConnectStream requestId => some requestId
  | .internalFailH3ConnectStream requestId _ _ => some requestId
  | _ => none

/-- The stream request an event answers: its session and direction. -/
def answersCreate : ProtocolEvent → Option (RequestId × SessionId × Bool)
  | .internalBindQuicStream requestId _ sessionId isUnidirectional =>
    some (requestId, sessionId, isUnidirectional)
  | .internalDeferQuicStream requestId sessionId isUnidirectional =>
    some (requestId, sessionId, isUnidirectional)
  | _ => none

/-- The request a user event submits. -/
def submits : ProtocolEvent → Option RequestId
  | .userAcceptSession requestId .. => some requestId
  | .userCloseConnection requestId .. => some requestId
  | .userCloseConnectionGracefully requestId => some requestId
  | .userCloseSession requestId .. => some requestId
  | .userCreateSession requestId .. => some requestId
  | .userCreateSessionOptimistic requestId .. => some requestId
  | .userCreateStream requestId .. => some requestId
  | .userDiagnoseConnection requestId => some requestId
  | .userDiagnoseSession requestId _ => some requestId
  | .userDiagnoseStream requestId _ => some requestId
  | .userExportKeyingMaterial requestId .. => some requestId
  | .userReadDatagram requestId _ => some requestId
  | .userReadStream requestId .. => some requestId
  | .userRejectSession requestId .. => some requestId
  | .userResetStream requestId .. => some requestId
  | .userSendDatagram requestId .. => some requestId
  | .userStopSending requestId .. => some requestId
  | .userWriteStream requestId .. => some requestId
  | _ => none

end ProtocolEvent

/-- The CONNECT requests a list of effects asks the transport to open. -/
def asksConnect (effects : List Effect) : List RequestId :=
  effects.filterMap fun
    | .createH3ConnectStream requestId _ _ _ => some requestId
    | _ => none

/-- The streams a list of effects asks the transport to open. -/
def asksCreate (effects : List Effect) : List (RequestId × SessionId × Bool) :=
  effects.filterMap fun
    | .createQuicStream requestId sessionId isUnidirectional =>
      some (requestId, sessionId, isUnidirectional)
    | _ => none

/-! ## Worlds -/

structure World (Q : Qpack) where
  engine : WebTransportEngine Q
  connects : List RequestId
  creates : List (RequestId × SessionId × Bool)
  used : List StreamId
  submitted : List RequestId
  trace : List Effect

namespace World

variable {Q : Qpack} {ok : World Q → ProtocolEvent → Timestamp → Prop} {w w' : World Q}
  {meets : World Q → ProtocolEvent → Timestamp → Bool}

def start (engine : WebTransportEngine Q) : World Q where
  engine := engine
  connects := []
  creates := []
  used := []
  submitted := engine.connection.requestId.toList
  trace := []

/-- What the transport promises about the next event. -/
structure Allows (w : World Q) (event : ProtocolEvent) : Prop where
  outside : event.isH3 = false
  fresh : ∀ streamId, event.opens = some streamId → streamId ∉ w.used
  directed : ∀ streamId uni, event.opensDirected = some (streamId, uni) →
    isUnidirectionalStream streamId = uni
  exists_stream : ∀ streamId, event.arrivesOn = some streamId → streamId ∈ w.used
  answersConnect : ∀ requestId, event.answersConnect = some requestId → requestId ∈ w.connects
  answersCreate : ∀ question, event.answersCreate = some question → question ∈ w.creates
  unused : ∀ requestId, event.submits = some requestId → requestId ∉ w.submitted

/-- The world after an event and what `handle_event` returned for it. -/
def after (w : World Q) (event : ProtocolEvent) (r : WebTransportEngine Q × List Effect) :
    World Q where
  engine := r.1
  connects := w.connects.diff event.answersConnect.toList ++ asksConnect r.2
  creates := w.creates.diff event.answersCreate.toList ++ asksCreate r.2
  used := event.opens.toList ++ w.used
  submitted := event.submits.toList ++ w.submitted
  trace := w.trace ++ r.2

/-- One step: an event, or the encoding of headers between two events, which
only moves the QPACK encoder. -/
inductive Step (ok : World Q → ProtocolEvent → Timestamp → Prop) : World Q → World Q → Prop
  | handle {w : World Q} {event : ProtocolEvent} {now : Timestamp}
      {r : WebTransportEngine Q × List Effect} (allows : w.Allows event) (meets : ok w event now)
      (handled : w.engine.handleEvent event now = some r) : Step ok w (w.after event r)
  | encode {w : World Q} (streamId : StreamId) (headers : Headers) (endStream : Bool) :
      Step ok w { w with engine := (w.engine.encodeHeaders streamId headers endStream).1 }

/-- Every run that meets the condition. -/
abbrev Run (ok : World Q → ProtocolEvent → Timestamp → Prop) : World Q → World Q → Prop :=
  Relation.ReflTransGen (Step ok)

theorem run_invariant {J : World Q → Prop}
    (hhandle : ∀ {w event now r}, J w → w.Allows event → ok w event now →
      w.engine.handleEvent event now = some r → J (w.after event r))
    (hencode : ∀ {w : World Q} streamId headers endStream, J w →
      J { w with engine := (w.engine.encodeHeaders streamId headers endStream).1 })
    (hrun : Run ok w w') (hJ : J w) : J w' := by
  induction hrun with
  | refl => exact hJ
  | tail _ hstep ih =>
    cases hstep with
    | handle allows meets handled => exact hhandle ih allows meets handled
    | encode streamId headers endStream => exact hencode streamId headers endStream ih

/-! ## Fixed runs -/

instance (w : World Q) (event : ProtocolEvent) : Decidable (w.Allows event) :=
  decidable_of_iff
    (event.isH3 = false ∧ (∀ streamId ∈ event.opens, streamId ∉ w.used) ∧
      (∀ entry ∈ event.opensDirected, isUnidirectionalStream entry.1 = entry.2) ∧
      (∀ streamId ∈ event.arrivesOn, streamId ∈ w.used) ∧
      (∀ requestId ∈ event.answersConnect, requestId ∈ w.connects) ∧
      (∀ question ∈ event.answersCreate, question ∈ w.creates) ∧
      (∀ requestId ∈ event.submits, requestId ∉ w.submitted))
    ⟨fun ⟨h₁, h₂, h₃, h₄, h₅, h₆, h₇⟩ => ⟨h₁, h₂, fun _ _ h => h₃ _ h, h₄, h₅, h₆, h₇⟩,
      fun h => ⟨h.outside, h.fresh, fun entry => h.directed entry.1 entry.2, h.exists_stream,
        h.answersConnect, h.answersCreate, h.unused⟩⟩

/-- A run that meets a condition is a run. -/
theorem Run.any (hrun : Run ok w w') : Run (fun _ _ _ => True) w w' := by
  refine Relation.ReflTransGen.mono (fun _ _ hstep => ?_) w w' hrun
  cases hstep with
  | handle allows _ handled => exact .handle allows trivial handled
  | encode streamId headers endStream => exact .encode streamId headers endStream

end World

/-! ## One event -/

namespace WebTransportEngine

variable {Q : Qpack} {now : Timestamp} {e : WebTransportEngine Q} {event : ProtocolEvent}

theorem turn_eq_some {r : WebTransportEngine Q × List Effect × List ProtocolEvent}
    (h : e.turn now event = some r) :
    ∃ turn, e.step now event = some turn ∧ r = (turn.engine, turn.effects, turn.raised) := by
  obtain ⟨turn, hstep, rfl⟩ := Option.map_eq_some_iff.mp h
  exact ⟨turn, hstep, rfl⟩

/-- If the turn of an event establishes `K` and the turns of all that is
raised preserve it, `K` holds when `handle_event` returns. -/
theorem handled_invariant {K : WebTransportEngine Q → List ProtocolEvent → List Effect → Prop}
    {r : WebTransportEngine Q × List Effect} (hr : e.handleEvent event now = some r)
    (hfirst : ∀ turn, e.step now event = some turn → K turn.engine turn.raised turn.effects)
    (hraised : ∀ {e event queue out turn}, K e (event :: queue) out →
      e.step now event = some turn → K turn.engine (turn.raised ++ queue) (out ++ turn.effects)) :
    K r.1 [] r.2 := by
  obtain ⟨first, others, hturn, hothers, rfl⟩ := DepthFirst.run_succ hr
  obtain ⟨turn, hstep, rfl⟩ := turn_eq_some hturn
  have hstart : K turn.engine (turn.raised ++ []) turn.effects := by
    rw [List.append_nil]
    exact hfirst turn hstep
  refine DepthFirst.runAll_invariant (DepthFirst.run_invariant ?_ 2) turn.raised hothers hstart
  intro s item queue out t hK ht
  obtain ⟨turn', hstep', rfl⟩ := turn_eq_some ht
  exact hraised hK hstep'

end WebTransportEngine

/-! ## A client -/

def sampleEngineParameters : EngineParameters where
  earlyEventTtl := 5
  initialMaxData := 100
  initialMaxStreamsBidi := 2
  initialMaxStreamsUni := 2
  maxCapsuleSize := 64
  maxConnectionPendingEvents := 4
  maxFieldSectionSize := 100
  maxPendingCapsules := 4
  maxPendingDatagrams := 4
  maxPendingStreams := 4
  maxSessionPendingEvents := 2
  maxSessions := 2
  maxWriteBufferSize := 64
  sessionReceiveWindow := 100

end PyWebTransport

/-
PyWebTransport.Protocol.CloseRoundTrip — closing a session over the wire.

`Session::close` puts a capsule with the code and the cut reason on the CONNECT
stream, or, for a clean close, only FIN (`close_wire`). The peer's engine reads
this in any chunks: the capsule is raised with its last byte, its session is
closed, and the stream is dropped, so what is still to come is at most FIN on a
stream nobody knows (`receiveToEnd_capsule`). Both wire forms come to one code
and one reason, the longest part of the text that fits (`close_round_trip`).
-/
import PyWebTransport.Protocol.CharBoundary
import PyWebTransport.Protocol.EngineRuns
import PyWebTransport.Protocol.H3.CapsuleArrival
import PyWebTransport.Protocol.H3.Datagrams
import PyWebTransport.Protocol.Session.Lifecycle
import PyWebTransport.Protocol.Session.TearDown

namespace PyWebTransport

open PyWebTransport.Lib

variable {effect : Effect} {effects : List Effect}

variable {errorCode : ErrorCode}

/-! ## The bytes of a close -/

/-- The bytes an effect puts on a stream behind its headers, as the engine
encodes them, and whether it ends the stream. -/
def Effect.wire (streamId : StreamId) : Effect → Except WebTransportError (Bytes × Bool)
  | .sendQuicData k data endStream => .ok (if k = streamId then (data, endStream) else ([], false))
  | .sendH3Capsule k capsuleType capsuleValue endStream =>
    if k = streamId then
      (H3.encodeCapsule streamId capsuleType capsuleValue).map fun pieces =>
        (pieces.flatten, endStream)
    else .ok ([], false)
  | _ => .ok ([], false)

def wireOf (streamId : StreamId) : List Effect → Except WebTransportError (Bytes × Bool)
  | [] => .ok ([], false)
  | effect :: rest =>
    (effect.wire streamId).bind fun first =>
      (wireOf streamId rest).map fun others => (first.1 ++ others.1, first.2 || others.2)

theorem Effect.wire_endsStreams (h : effect.endsStreams = true) (streamId : StreamId) :
    effect.wire streamId = .ok ([], false) := by
  cases effect <;> first | rfl | cases h

theorem wireOf_endsStreams {ended : List Effect} (h : Session.EndsStreams ended)
    (streamId : StreamId) (effects : List Effect) :
    wireOf streamId (ended ++ effects) = wireOf streamId effects := by
  induction ended with
  | nil => rfl
  | cons effect ended ih =>
    rw [List.cons_append, wireOf, Effect.wire_endsStreams (h effect List.mem_cons_self),
      ih fun e he => h e (List.mem_cons_of_mem effect he)]
    cases wireOf streamId effects <;> rfl

namespace Session

variable {s : Session}

variable {errorCode : ErrorCode}

variable {now : Timestamp}

/-- Whether a close is sent as FIN alone. -/
def isCleanClose (errorCode : ErrorCode) (reason : Option String) : Bool :=
  decide (errorCode = errAppNoError) && (reason.getD "").isEmpty

/-- What a close puts on the CONNECT stream. -/
theorem close_wire (hopen : s.isOpen = true) (requestId : RequestId) (errorCode : ErrorCode)
    (reason : Option String) (now : Timestamp) :
    wireOf s.id (s.close requestId errorCode reason now).2 =
      if isCleanClose errorCode reason then .ok ([], true)
      else (H3.encodeCapsules s.id
        [(wtCapsuleTypeCloseSession, closeCapsuleValue errorCode reason)]).map (·, true) := by
  have hends : EndsStreams { s with
      closeCode := some errorCode
      closeReason := reason
      closedAt := some now
      state := .closing }.tearDown.2 := tearDown_endsStreams rfl
  rw [close, if_neg (by simp [hopen])]
  simp only [wireOf_endsStreams hends]
  cases hclean : isCleanClose errorCode reason with
  | true =>
    rw [isCleanClose] at hclean
    simp [hclean, wireOf, Effect.wire, Except.bind, Except.map, closedEvent]
  | false =>
    rw [isCleanClose] at hclean
    simp only [hclean, wireOf, Effect.wire, H3.encodeCapsules, closedEvent, if_true,
      Bool.false_eq_true, if_false]
    cases H3.encodeCapsule s.id wtCapsuleTypeCloseSession (closeCapsuleValue errorCode reason) with
    | error e => rfl
    | ok pieces => simp [Except.bind, Except.map]

/-! ## What the peer's session makes of it -/

/-- The code that fits the capsule. -/
def sentCode (errorCode : ErrorCode) : ErrorCode := min errorCode (2 ^ 32 - 1)

/-- The session closed by its peer, with a code and a reason. -/
def closedByPeer (s : Session) (errorCode : ErrorCode) (reason : String) (now : Timestamp) :
    Session × List Effect :=
  { s with
    closeCode := some errorCode
    closeReason := some reason
    closedAt := some now
    state := .closed }.tearDown

theorem closedByPeer_fields (s : Session) {reason : String} :
    (s.closedByPeer errorCode reason now).1.state = .closed ∧
      (s.closedByPeer errorCode reason now).1.closeCode = some errorCode ∧
      (s.closedByPeer errorCode reason now).1.closeReason = some reason := by
  obtain ⟨_, _, _, h⟩ := tearDown_shape { s with
    closeCode := some errorCode
    closeReason := some reason
    closedAt := some now
    state := .closed }
  rw [closedByPeer, h]
  exact ⟨rfl, rfl, rfl⟩

theorem beValue_sentCode :
    beValue (beBytes 4 (if errorCode < 2 ^ 32 then errorCode else 2 ^ 32 - 1)) =
      sentCode errorCode := by
  have hsent : (if errorCode < 2 ^ 32 then errorCode else 2 ^ 32 - 1) = sentCode errorCode := by
    unfold sentCode
    split
    · rename_i h
      exact (Nat.min_eq_left (Nat.le_sub_one_of_lt h)).symm
    · rename_i h
      exact (Nat.min_eq_right (Nat.le_trans (by decide) (Nat.le_of_not_lt h))).symm
  rw [hsent]
  apply beValue_beBytes_of_lt
  exact Nat.lt_of_le_of_lt (Nat.min_le_right errorCode (2 ^ 32 - 1)) (by decide)

/-- The close capsule read back: the code that fits and the kept text. -/
theorem recvCapsule_close (hactive : s.state = .connected ∨ s.state = .draining)
    {reason : Option String} {kept : String}
    (hkept : LongestPrefix (reason.getD "") wtCloseReasonSizeLimit kept)
    (hcut : (utf8Bytes (reason.getD "")).take
      (floorCharBoundary (utf8Bytes (reason.getD "")) wtCloseReasonSizeLimit) = utf8Bytes kept) :
    s.recvCapsule wtCapsuleTypeCloseSession (closeCapsuleValue errorCode reason) now =
      ((s.closedByPeer (sentCode errorCode) kept now).1,
        (s.closedByPeer (sentCode errorCode) kept now).2 ++
          [.sendQuicData s.id [] true, s.closedEvent (some (sentCode errorCode)) (some kept)]) := by
  have hdispatch : s.recvCapsule wtCapsuleTypeCloseSession (closeCapsuleValue errorCode reason) now =
      s.recvCloseSession (closeCapsuleValue errorCode reason) now := by
    have hflow : isFlowControlCapsule wtCapsuleTypeCloseSession = false := by decide
    rcases hactive with h | h <;>
      simp only [recvCapsule, h, hflow, Bool.and_false, Bool.false_eq_true, if_false,
        dispatchCapsule, if_true]
  have hvalue : closeCapsuleValue errorCode reason =
      beBytes 4 (if errorCode < 2 ^ 32 then errorCode else 2 ^ 32 - 1) ++ utf8Bytes kept := by
    rw [closeCapsuleValue, hcut]
  have htake : (closeCapsuleValue errorCode reason).take 4 =
      beBytes 4 (if errorCode < 2 ^ 32 then errorCode else 2 ^ 32 - 1) := by
    rw [hvalue, List.take_left' (length_beBytes 4 _)]
  have hdrop : (closeCapsuleValue errorCode reason).drop 4 = utf8Bytes kept := by
    rw [hvalue, List.drop_left' (length_beBytes 4 _)]
  have hlong : ¬ (closeCapsuleValue errorCode reason).length < 4 := by
    rw [hvalue, List.length_append, length_beBytes]
    omega
  have hshort : ¬ (utf8Bytes kept).length > wtCloseReasonSizeLimit := Nat.not_lt.mpr hkept.within
  rw [hdispatch, recvCloseSession, if_neg hlong]
  simp only [hdrop, htake, if_neg hshort, utf8String?_utf8Bytes, beValue_sentCode]
  rfl

/-- FIN alone is a close without a code and without a reason. -/
theorem recvConnectClose_active (hactive : s.state = .connected ∨ s.state = .draining)
    (errorCode : ErrorCode) (reason : String) (now : Timestamp) :
    s.recvConnectClose errorCode reason now =
      ((s.closedByPeer errorCode reason now).1, (s.closedByPeer errorCode reason now).2 ++
        [s.closedEvent (some errorCode) (some reason)]) := by
  rcases hactive with h | h <;> simp only [recvConnectClose, h] <;> rfl

theorem recvConnectClose_closed (hclosed : s.state = .closed) (errorCode : ErrorCode)
    (reason : String) (now : Timestamp) : s.recvConnectClose errorCode reason now = (s, []) := by
  simp only [recvConnectClose, hclosed]

end Session

namespace WebTransportEngine

variable {Q : Qpack} {e : WebTransportEngine Q} {sessionId : SessionId} {s : Session}
  {capsuleType : Nat} {value : Bytes} {now : Timestamp} {stream : H3Stream}
  {chunks : List (Timestamp × Bytes)} {streamId : StreamId} {data rest : Bytes} {fin : Bool}
  {h' : H3 Q} {effects : List Effect} {last : Timestamp × Bytes}

/-! ## The peer's engine -/

theorem nil_of_flatten (hchunks : ∀ chunk ∈ chunks, chunk.2 ≠ [])
    (hflatten : (chunks.map Prod.snd).flatten = []) : chunks = [] := by
  cases chunks with
  | nil => rfl
  | cons chunk chunks =>
    rw [List.map_cons, List.flatten_cons] at hflatten
    exact absurd (List.append_eq_nil_iff.mp hflatten).1 (hchunks chunk List.mem_cons_self)

/-- Deliver the rest of a stream: chunks, each at its time, and the last one with FIN. -/
def receiveToEnd (streamId : StreamId) (last : Timestamp × Bytes) :
    WebTransportEngine Q → List (Timestamp × Bytes) → Option (WebTransportEngine Q × List Effect)
  | e, [] => e.handleEvent (.transportStreamDataReceived streamId last.2 true) last.1
  | e, chunk :: chunks =>
    (e.handleEvent (.transportStreamDataReceived streamId chunk.2 false) chunk.1).bind fun first =>
      (receiveToEnd streamId last first.1 chunks).map fun others =>
        (others.1, first.2 ++ others.2)

/-- The session with this id replaced. -/
def withSession (e : WebTransportEngine Q) (sessionId : SessionId) (s : Session) :
    WebTransportEngine Q :=
  { e with connection := { e.connection with
      sessions := e.connection.sessions.insert sessionId s } }

/-- A chunk of a request stream, and then what it raises. -/
theorem handleEvent_data (hbidi : isUnidirectionalStream streamId = false)
    (hno : e.connection.hasStream streamId = false) {outcome : H3.Outcome}
    (hrecv : e.h3.recvRequestData streamId data fin = some (h', .ok outcome)) (now : Timestamp) :
    e.handleEvent (.transportStreamDataReceived streamId data fin) now =
      (DepthFirst.runAll (DepthFirst.run (turn now) 2) { e with h3 := h' } outcome.1).map
        fun others => (others.1, outcome.2 ++ others.2) := by
  have hresult : e.h3.transportResult (.transportStreamDataReceived streamId data fin)
      e.connection = some (h', .ok outcome) := by
    simp only [H3.transportResult, hbidi, Bool.false_eq_true, if_false]
    exact hrecv
  have hturn : turn now e (.transportStreamDataReceived streamId data fin) =
      some ({ e with h3 := h' }, outcome.2, outcome.1) := by
    simp only [turn, step, onStreamData, hno, Bool.false_eq_true, if_false, onTransport,
      H3.handleTransportEvent, hresult, Option.map_some]
  exact DepthFirst.run_of_step hturn 2

/-- A chunk that raises nothing. -/
theorem handleEvent_quiet (hbidi : isUnidirectionalStream streamId = false)
    (hno : e.connection.hasStream streamId = false)
    (hrecv : e.h3.recvRequestData streamId data fin = some (h', .ok ([], effects)))
    (now : Timestamp) :
    e.handleEvent (.transportStreamDataReceived streamId data fin) now =
      some ({ e with h3 := h' }, effects) := by
  rw [handleEvent_data hbidi hno hrecv]
  simp [DepthFirst.runAll]

/-- A capsule that closes its session also ends the reading of its stream. -/
theorem run_closingCapsule (hget : e.connection.sessions.get? sessionId = some s)
    (hclosed : (s.recvCapsule capsuleType value now).1.state = .closed) (depth : Nat) :
    DepthFirst.run (turn now) (depth + 1) e (.h3CapsuleReceived sessionId capsuleType value) =
      some ({ e.withSession sessionId (s.recvCapsule capsuleType value now).1 with
          h3 := (e.h3.stopRequestStream sessionId).1 },
        (s.recvCapsule capsuleType value now).2 ++ (e.h3.stopRequestStream sessionId).2) := by
  have hreceived : e.connection.recvCapsule sessionId capsuleType value now =
      ((e.withSession sessionId (s.recvCapsule capsuleType value now).1).connection,
        (s.recvCapsule capsuleType value now).2) := by
    simp only [Connection.recvCapsule, Connection.onSession, hget]
    rfl
  have hover : (e.withSession sessionId
      (s.recvCapsule capsuleType value now).1).connection.isSessionClosed sessionId = true := by
    simp only [Connection.isSessionClosed, withSession, OrderedMap.get?_insert_self, Option.any_some,
      Session.isClosed, hclosed, decide_true]
  have hturn : turn now e (.h3CapsuleReceived sessionId capsuleType value) =
      some ({ e.withSession sessionId (s.recvCapsule capsuleType value now).1 with
          h3 := (e.h3.stopRequestStream sessionId).1 },
        (s.recvCapsule capsuleType value now).2 ++ (e.h3.stopRequestStream sessionId).2, []) := by
    simp only [turn, step, onCapsule, hreceived, hover, if_true, Option.map_some]
    rfl
  exact DepthFirst.run_of_calm hturn depth

theorem run_connectStreamClosed (hget : e.connection.sessions.get? sessionId = some s)
    (now : Timestamp) (depth : Nat) :
    DepthFirst.run (turn now) (depth + 1) e (.h3ConnectStreamClosed sessionId) =
      some (e.withSession sessionId (s.recvConnectClose errAppNoError "" now).1,
        (s.recvConnectClose errAppNoError "" now).2) := by
  have hturn : turn now e (.h3ConnectStreamClosed sessionId) =
      some (e.withSession sessionId (s.recvConnectClose errAppNoError "" now).1,
        (s.recvConnectClose errAppNoError "" now).2, []) := by
    simp only [turn, step, onConnection, Connection.recvConnectClose, Connection.onSession, hget,
      Option.map_some]
    rfl
  exact DepthFirst.run_of_calm hturn depth

/-- The engine when the stream is over: what the session did, and around it
only calm effects. -/
structure Ended (sessionId : SessionId) (e : WebTransportEngine Q) (effects : List Effect)
    (result : Session × List Effect) : Prop where
  session : e.connection.sessions.get? sessionId = some result.1
  around : ∃ before after, effects = before ++ result.2 ++ after ∧ AllCalm before ∧ AllCalm after

theorem Ended.before {result : Session × List Effect} (h : Ended sessionId e effects result)
    {first : List Effect} (hcalm : AllCalm first) :
    Ended sessionId e (first ++ effects) result := by
  obtain ⟨before, after, rfl, hbefore, hafter⟩ := h.around
  exact ⟨h.session, first ++ before, after, by simp only [List.append_assoc],
    hcalm.append hbefore, hafter⟩

theorem stopRequestStream_forgets {h : H3 Q} :
    (h.stopRequestStream streamId).1.streams.get? streamId = none := by
  unfold H3.stopRequestStream
  split
  · rename_i hgone
    simpa [OrderedMap.contains] using hgone
  · exact h.cleanupStream_get?_self

/-- The last bytes of a closing capsule with FIN: the session is closed by the
capsule, and the end of the stream finds it closed. -/
theorem handleEvent_capsule_fin (hQ : Q.NonBlocking)
    (hbidi : isUnidirectionalStream sessionId = false)
    (hget : e.connection.sessions.get? sessionId = some s)
    (hno : e.connection.hasStream sessionId = false) (hreads : H3.Reads sessionId e.h3 stream)
    (hexpects : H3.Expects sessionId e.h3 stream rest [.h3CapsuleReceived sessionId capsuleType value])
    (hcloses : (s.recvCapsule capsuleType value now).1.state = .closed) :
    ∃ e' effects, e.handleEvent (.transportStreamDataReceived sessionId rest true) now =
        some (e', effects) ∧ Ended sessionId e' effects (s.recvCapsule capsuleType value now) := by
  obtain ⟨h', effects, hrecv⟩ := hexpects.fin hreads
  have hcalm : AllCalm effects := H3.recvRequestData_calm hQ hreads hrecv
  have hcapsule := run_closingCapsule (e := { e with h3 := h' }) hget hcloses 1
  have hget' : (({ e with h3 := h' } : WebTransportEngine Q).withSession sessionId
      (s.recvCapsule capsuleType value now).1).connection.sessions.get? sessionId =
        some (s.recvCapsule capsuleType value now).1 := by
    simp [withSession]
  have hend := run_connectStreamClosed
    (e := { ({ e with h3 := h' } : WebTransportEngine Q).withSession sessionId
      (s.recvCapsule capsuleType value now).1 with h3 := (h'.stopRequestStream sessionId).1 })
    hget' now 1
  rw [Session.recvConnectClose_closed hcloses] at hend
  rw [handleEvent_data hbidi hno hrecv]
  simp only [List.cons_append, List.nil_append, DepthFirst.runAll, hcapsule, hend,
    Option.bind_some, Option.map_some, List.append_nil]
  refine ⟨_, _, rfl, ?_, effects, (h'.stopRequestStream sessionId).2, ?_, hcalm,
    h'.stopRequestStream_calm⟩
  · simp [withSession]
  · simp only [List.append_assoc]

/-- The last bytes of a closing capsule, and FIN behind them. -/
theorem handleEvent_capsule_then_fin (hQ : Q.NonBlocking)
    (hbidi : isUnidirectionalStream sessionId = false)
    (hget : e.connection.sessions.get? sessionId = some s)
    (hno : e.connection.hasStream sessionId = false) (hreads : H3.Reads sessionId e.h3 stream)
    (hexpects : H3.Expects sessionId e.h3 stream rest [.h3CapsuleReceived sessionId capsuleType value])
    (hcloses : (s.recvCapsule capsuleType value now).1.state = .closed) {later : Timestamp} :
    ∃ e' effects, receiveToEnd sessionId (later, []) e [(now, rest)] = some (e', effects) ∧
      Ended sessionId e' effects (s.recvCapsule capsuleType value now) := by
  obtain ⟨h', stream', effects, hrecv, -⟩ := hexpects.last hreads
  have hcalm : AllCalm effects := H3.recvRequestData_calm hQ hreads hrecv
  have hcapsule := run_closingCapsule (e := { e with h3 := h' }) hget hcloses 1
  obtain ⟨h'', effects', hforgotten, hcalm'⟩ :=
    H3.recvRequestData_forgotten stopRequestStream_forgets
  have hfin := handleEvent_quiet
    (e := { ({ e with h3 := h' } : WebTransportEngine Q).withSession sessionId
      (s.recvCapsule capsuleType value now).1 with h3 := (h'.stopRequestStream sessionId).1 })
    hbidi hno hforgotten later
  simp only [receiveToEnd, handleEvent_data hbidi hno hrecv, DepthFirst.runAll, hcapsule, hfin,
    Option.bind_some, Option.map_some, List.append_nil]
  refine ⟨_, _, rfl, ?_, effects, (h'.stopRequestStream sessionId).2 ++ effects', ?_, hcalm,
    h'.stopRequestStream_calm.append hcalm'⟩
  · simp [withSession]
  · simp only [List.append_assoc]

/-- A closing capsule in any chunks. The bytes that would make it another
capsule keep its chunks quiet up to its last byte. -/
theorem receiveToEnd_capsule (hQ : Q.NonBlocking)
    (hbidi : isUnidirectionalStream sessionId = false) {value' : Bytes} (hne : value ≠ value')
    (hcloses : ∀ now, (s.recvCapsule capsuleType value now).1.state = .closed) {x y : UInt8} :
    ∀ (chunks : List (Timestamp × Bytes)) {e : WebTransportEngine Q} {stream : H3Stream}
      {front : Bytes}, e.connection.sessions.get? sessionId = some s →
      e.connection.hasStream sessionId = false → H3.Reads sessionId e.h3 stream →
      H3.Expects sessionId e.h3 stream (front ++ [x])
        [.h3CapsuleReceived sessionId capsuleType value] →
      H3.Expects sessionId e.h3 stream (front ++ [y])
        [.h3CapsuleReceived sessionId capsuleType value'] →
      (∀ chunk ∈ chunks, chunk.2 ≠ []) →
      (chunks.map Prod.snd).flatten ++ last.2 = front ++ [x] →
      ∃ now e' effects, receiveToEnd sessionId last e chunks = some (e', effects) ∧
        Ended sessionId e' effects (s.recvCapsule capsuleType value now) := by
  intro chunks
  induction chunks with
  | nil =>
    intro e stream front hget hno hreads hexpects _ _ hcut
    have hlast : last.2 = front ++ [x] := hcut
    rw [← hlast] at hexpects
    obtain ⟨e', effects, hevent, hended⟩ :=
      handleEvent_capsule_fin hQ hbidi hget hno hreads hexpects (hcloses last.1)
    exact ⟨last.1, e', effects, hevent, hended⟩
  | cons chunk chunks ih =>
    intro e stream front hget hno hreads hexpects hother hchunks hcut
    have hrest : ∀ later ∈ chunks, later.2 ≠ [] := fun later hlater =>
      hchunks later (List.mem_cons_of_mem chunk hlater)
    rw [List.map_cons, List.flatten_cons, List.append_assoc] at hcut
    -- the chunk ends before the last byte, or is all that was left
    have hsplit : (∃ front', front = chunk.2 ++ front' ∧
          (chunks.map Prod.snd).flatten ++ last.2 = front' ++ [x]) ∨
        chunk.2 = front ++ [x] ∧ (chunks.map Prod.snd).flatten ++ last.2 = [] := by
      rcases List.append_eq_append_iff.mp hcut with ⟨front', hfront, hbehind⟩ | ⟨tail, hchunk, hx⟩
      · exact .inl ⟨front', hfront, hbehind⟩
      · rcases List.append_eq_singleton_iff.mp hx.symm with ⟨rfl, hbehind⟩ | ⟨rfl, hbehind⟩
        · refine .inl ⟨[], ?_, hbehind⟩
          rw [hchunk, List.append_nil, List.append_nil]
        · exact .inr ⟨hchunk, hbehind⟩
    rcases hsplit with ⟨front', rfl, hbehind⟩ | ⟨hchunk, hbehind⟩
    · rw [List.append_assoc] at hexpects hother
      have hdiffers : ProtocolEvent.h3CapsuleReceived sessionId capsuleType value ≠
          .h3CapsuleReceived sessionId capsuleType value' := by
        intro h
        cases h
        exact hne rfl
      obtain ⟨h', stream', effects, hrecv, hreads', hexpects', hother'⟩ :=
        H3.Expects.chunk hreads hdiffers hexpects hother
      have hcalm : AllCalm effects := H3.recvRequestData_calm hQ hreads hrecv
      obtain ⟨now, e', effects', hreceive, hended⟩ :=
        ih (e := { e with h3 := h' }) hget hno hreads' hexpects' hother' hrest hbehind
      refine ⟨now, e', effects ++ effects', ?_, hended.before hcalm⟩
      rw [receiveToEnd, handleEvent_quiet hbidi hno hrecv, Option.bind_some, hreceive]
      rfl
    · obtain ⟨hflatten, hlast⟩ := List.append_eq_nil_iff.mp hbehind
      obtain rfl := nil_of_flatten hrest hflatten
      obtain ⟨later, bytes⟩ := last
      obtain rfl : bytes = [] := hlast
      rw [← hchunk] at hexpects
      obtain ⟨e', effects, hreceive, hended⟩ := handleEvent_capsule_then_fin hQ hbidi hget hno
        hreads hexpects (hcloses chunk.1)
      exact ⟨chunk.1, e', effects, hreceive, hended⟩

/-! ## The round trip -/

/-- The peer between two capsules of a session that is up. -/
structure AwaitsClose (sessionId : SessionId) (e : WebTransportEngine Q) (s : Session)
    (stream : H3Stream) : Prop where
  session : e.connection.sessions.get? sessionId = some s
  id : s.id = sessionId
  active : s.state = .connected ∨ s.state = .draining
  notStream : e.connection.hasStream sessionId = false
  ready : H3.ReadyForCapsules sessionId e.h3 stream
  maxCapsuleSize : 1028 ≤ e.h3.maxCapsuleSize

/-- A value other than this one, of the same length, that differs in the last byte only. -/
theorem exists_last_byte (h : value ≠ []) : ∃ front x y, value = front ++ [x] ∧ x ≠ y := by
  obtain ⟨front, x, rfl⟩ := List.eq_nil_or_concat value |>.resolve_left h
  refine ⟨front, x, x + 1, by simp, fun hx => ?_⟩
  have hnat := congrArg UInt8.toNat hx
  rw [UInt8.toNat_add] at hnat
  have hone : (1 : UInt8).toNat = 1 := rfl
  have hlt := x.toNat_lt
  omega

/-- A capsule that closes the session, written by `encode_capsule` and cut into any chunks. -/
theorem AwaitsClose.receives_capsule (hQ : Q.NonBlocking)
    (hbidi : isUnidirectionalStream sessionId = false) (h : AwaitsClose sessionId e s stream)
    (hvalue : value ≠ []) (hsize : value.length ≤ 1028)
    (hcloses : ∀ now, (s.recvCapsule capsuleType value now).1.state = .closed) {wire : Bytes}
    (hwire : H3.encodeCapsules sessionId [(capsuleType, value)] = .ok wire)
    (hchunks : ∀ chunk ∈ chunks, chunk.2 ≠ [])
    (hcut : (chunks.map Prod.snd).flatten ++ last.2 = wire) :
    ∃ now e' effects, receiveToEnd sessionId last e chunks = some (e', effects) ∧
      Ended sessionId e' effects (s.recvCapsule capsuleType value now) := by
  obtain ⟨header, hheader⟩ := H3.encodeCapsules_header
  rw [hheader value rfl] at hwire
  cases header with
  | error error => cases hwire
  | ok header =>
    obtain ⟨front, x, y, rfl, hne⟩ := exists_last_byte hvalue
    have hwire : header ++ (front ++ [x]) = wire := Except.ok.inj hwire
    have hexpects : ∀ z : UInt8, H3.Expects sessionId e.h3 stream (header ++ front ++ [z])
        [.h3CapsuleReceived sessionId capsuleType (front ++ [z])] := by
      intro z
      have hlength : (front ++ [z]).length = (front ++ [x]).length := by simp
      rw [List.append_assoc]
      refine h.ready.expects (fun capsule hcapsule => ?_) (hheader _ hlength)
      rw [List.mem_singleton.mp hcapsule, hlength]
      exact Nat.le_trans hsize h.maxCapsuleSize
    have hdiffers : front ++ [x] ≠ front ++ [y] := fun heq =>
      hne (List.singleton_inj.mp (List.append_cancel_left heq))
    rw [← hwire, ← List.append_assoc] at hcut
    exact receiveToEnd_capsule hQ hbidi hdiffers hcloses chunks h.session h.notStream
      h.ready.reads (hexpects x) (hexpects y) hchunks hcut

theorem AwaitsClose.receives_fin (hQ : Q.NonBlocking)
    (hbidi : isUnidirectionalStream sessionId = false) (h : AwaitsClose sessionId e s stream) :
    ∃ e' effects, receiveToEnd sessionId (now, []) e [] = some (e', effects) ∧
      Ended sessionId e' effects (s.recvConnectClose errAppNoError "" now) := by
  obtain ⟨h', effects, hrecv⟩ :=
    (@H3.ReadyForCapsules.expects _ _ _ _ h.ready [] (fun _ h => nomatch h) [] rfl).fin
      h.ready.reads
  have hcalm : AllCalm effects := H3.recvRequestData_calm hQ h.ready.reads hrecv
  have hend := run_connectStreamClosed (e := { e with h3 := h' }) h.session now 1
  rw [receiveToEnd, handleEvent_data hbidi h.notStream hrecv]
  simp only [H3.capsuleEvents, List.map_nil, List.nil_append, DepthFirst.runAll, hend,
    Option.bind_some, Option.map_some, List.append_nil]
  refine ⟨_, _, rfl, ?_, effects, [], ?_, hcalm, .nil⟩
  · simp [withSession]
  · rw [List.append_nil]

end WebTransportEngine

/-- An effect that gives up the connection, or a stream for anything else than
the end of its session: what a malformed message is answered with. -/
def Effect.isComplaint : Effect → Bool
  | .closeQuicConnection .. => true
  | .resetQuicStream _ errorCode => errorCode ≠ errWtSessionGone
  | _ => false

/-- How a close is to arrive: the session is closed with this code and the
longest part of the reason that fits, this is what the application is told,
and nothing was malformed. -/
structure ClosedWith (sessionId : SessionId) (errorCode : ErrorCode) (reason kept : String)
    (c : Connection) (effects : List Effect) : Prop where
  cut : LongestPrefix reason wtCloseReasonSizeLimit kept
  session : ∃ s, c.sessions.get? sessionId = some s ∧ s.state = .closed ∧
    s.closeCode = some errorCode ∧ s.closeReason = some kept
  told : effects.filter (Effect.isSessionEvent .sessionClosed) =
    [.emitSessionEvent sessionId .sessionClosed
      { errorCode := some errorCode, reason := some kept }]
  wellFormed : ∀ effect ∈ effects, effect.isComplaint = false

/-- Effects that neither report the end of a session nor complain. -/
def Effect.isPlain (effect : Effect) : Bool :=
  !effect.isSessionEvent .sessionClosed && !effect.isComplaint

theorem Effect.isPlain_of_isCalm (h : effect.isCalm = true) : effect.isPlain = true := by
  cases effect <;> first | rfl | cases h

theorem Effect.isPlain_of_endsStreams (h : effect.endsStreams = true) : effect.isPlain = true := by
  cases effect <;> first | rfl | cases h | skip
  rename_i streamId errorCode
  have hcode : errorCode = errWtSessionGone := of_decide_eq_true h
  subst hcode
  rfl

theorem filter_plain (h : ∀ effect ∈ effects, effect.isPlain = true) :
    effects.filter (Effect.isSessionEvent .sessionClosed) = [] := by
  rw [List.filter_eq_nil_iff]
  intro effect heffect
  have hplain := h effect heffect
  simp only [Effect.isPlain, Bool.and_eq_true, Bool.not_eq_true'] at hplain
  rw [hplain.1]
  exact Bool.false_ne_true

/-- What the session did, with its report last, among calm effects. -/
theorem closedWith_of_ended {Q : Qpack} {sessionId : SessionId} {e : WebTransportEngine Q}
    {answer : List Effect} {s : Session} (hid : s.id = sessionId) {reason kept : String}
    (hkept : LongestPrefix reason wtCloseReasonSizeLimit kept) {now : Timestamp}
    (hanswer : AllCalm answer)
    (h : WebTransportEngine.Ended sessionId e effects ((s.closedByPeer errorCode kept now).1,
      (s.closedByPeer errorCode kept now).2 ++
        (answer ++ [s.closedEvent (some errorCode) (some kept)]))) :
    ClosedWith sessionId errorCode reason kept e.connection effects := by
  have hplain : ∀ effect ∈ (s.closedByPeer errorCode kept now).2, effect.isPlain = true :=
    fun effect heffect =>
      Effect.isPlain_of_endsStreams (Session.tearDown_endsStreams rfl effect heffect)
  have hcalm : ∀ {calm : List Effect}, AllCalm calm → ∀ effect ∈ calm, effect.isPlain = true :=
    fun h effect heffect => Effect.isPlain_of_isCalm (h effect heffect)
  obtain ⟨before, after, rfl, hbefore, hafter⟩ := h.around
  refine ⟨hkept, ⟨_, h.session, s.closedByPeer_fields⟩, ?_, ?_⟩
  · simp only [List.filter_append, filter_plain hplain, filter_plain (hcalm hbefore),
      filter_plain (hcalm hafter), filter_plain (hcalm hanswer), List.nil_append, List.append_nil,
      Session.closedEvent, hid]
    rfl
  · intro effect heffect
    have hcomplaint : ∀ {effect : Effect}, effect.isPlain = true → effect.isComplaint = false := by
      intro effect h
      simp only [Effect.isPlain, Bool.and_eq_true, Bool.not_eq_true'] at h
      exact h.2
    simp only [List.mem_append, List.mem_singleton] at heffect
    rcases heffect with (h | h | h | rfl) | h
    · exact hcomplaint (hcalm hbefore effect h)
    · exact hcomplaint (hplain effect h)
    · exact hcomplaint (hcalm hanswer effect h)
    · rfl
    · exact hcomplaint (hcalm hafter effect h)

theorem closeCapsuleValue_length {reason : Option String} :
    4 ≤ (Session.closeCapsuleValue errorCode reason).length ∧
      (Session.closeCapsuleValue errorCode reason).length ≤ 1028 := by
  have hle := floorCharBoundary_le (utf8Bytes (reason.getD "")) wtCloseReasonSizeLimit
  have hlimit : wtCloseReasonSizeLimit = 1024 := rfl
  simp only [Session.closeCapsuleValue, List.length_append, length_beBytes, List.length_take]
  omega

/-- A close arrives: whatever the code and the reason, what `close` sends can
be sent, and however it is cut into chunks the peer's session is closed with
the code that fits and the longest part of the reason that fits. -/
theorem close_round_trip {Q : Qpack} (hQ : Q.NonBlocking) {a : Session} (hopen : a.isOpen = true)
    (hid : isValidSessionId a.id = true) (requestId : RequestId) (errorCode : ErrorCode)
    (reason : Option String) (now : Timestamp) {e : WebTransportEngine Q} {s : Session}
    {stream : H3Stream} (hpeer : WebTransportEngine.AwaitsClose a.id e s stream) :
    ∃ wire, wireOf a.id (a.close requestId errorCode reason now).2 = .ok (wire, true) ∧
      ∀ (chunks : List (Timestamp × Bytes)) (last : Timestamp × Bytes),
        (∀ chunk ∈ chunks, chunk.2 ≠ []) → (chunks.map Prod.snd).flatten ++ last.2 = wire →
        ∃ e' effects kept, e.receiveToEnd a.id last chunks = some (e', effects) ∧
          ClosedWith a.id (min errorCode (2 ^ 32 - 1)) (reason.getD "") kept e'.connection
            effects := by
  have hbidi := isUnidirectionalStream_of_isValidSessionId hid
  rw [Session.close_wire hopen]
  cases hclean : Session.isCleanClose errorCode reason with
  | true =>
    simp only [Session.isCleanClose, Bool.and_eq_true, decide_eq_true_eq] at hclean
    obtain ⟨rfl, hempty⟩ := hclean
    have hreason : reason.getD "" = "" := by simpa using hempty
    have hkept : LongestPrefix (reason.getD "") wtCloseReasonSizeLimit "" := by
      rw [hreason]
      refine ⟨⟨"", rfl⟩, Nat.zero_le _, fun other rest hsplit _ => ?_⟩
      rw [hsplit, utf8Bytes_append, List.length_append]
      exact Nat.le_add_right _ _
    refine ⟨[], if_pos rfl, fun chunks last hchunks hcut => ?_⟩
    obtain ⟨hflatten, hlast⟩ := List.append_eq_nil_iff.mp hcut
    obtain rfl := WebTransportEngine.nil_of_flatten hchunks hflatten
    obtain ⟨later, bytes⟩ := last
    obtain rfl : bytes = [] := hlast
    obtain ⟨e', effects, hreceive, hended⟩ := hpeer.receives_fin hQ hbidi
    rw [Session.recvConnectClose_active hpeer.active] at hended
    exact ⟨e', effects, "", hreceive, closedWith_of_ended hpeer.id hkept .nil hended⟩
  | false =>
    obtain ⟨kept, hkept, hcut⟩ := take_floorCharBoundary (reason.getD "") wtCloseReasonSizeLimit
    obtain ⟨hlong, hshort⟩ := closeCapsuleValue_length
    have hclose : ∀ now, s.recvCapsule wtCapsuleTypeCloseSession
        (Session.closeCapsuleValue errorCode reason) now = _ := fun now =>
      Session.recvCapsule_close hpeer.active hkept hcut
    generalize Session.closeCapsuleValue errorCode reason = value at hlong hshort hclose
    have hvalue : value ≠ [] := by
      rintro rfl
      exact absurd hlong (by decide)
    have hlimits : ∀ capsule ∈ [(wtCapsuleTypeCloseSession, value)],
        capsule.1 ≤ quicVarintLimit ∧ capsule.2.length + 16 ≤ quicVarintLimit := by
      intro capsule hcapsule
      have htype : wtCapsuleTypeCloseSession ≤ quicVarintLimit := by decide
      have hlimit : 1028 + 16 ≤ quicVarintLimit := by decide
      rw [List.mem_singleton.mp hcapsule]
      exact ⟨htype, Nat.le_trans (Nat.add_le_add_right hshort 16) hlimit⟩
    have hcloses : ∀ now, (s.recvCapsule wtCapsuleTypeCloseSession value now).1.state =
        .closed := by
      intro now
      rw [hclose now]
      exact s.closedByPeer_fields.1
    obtain ⟨wire, hwire⟩ := H3.encodeCapsules_isOk hid hlimits
    refine ⟨wire, by rw [hwire]; rfl, fun chunks last hchunks hchunking => ?_⟩
    obtain ⟨later, e', effects, hreceive, hended⟩ :=
      hpeer.receives_capsule hQ hbidi hvalue hshort hcloses hwire hchunks hchunking
    rw [hclose later] at hended
    have hanswer : AllCalm [Effect.sendQuicData s.id [] true] := by
      simp [AllCalm, Effect.isCalm]
    exact ⟨e', effects, kept, hreceive, closedWith_of_ended hpeer.id hkept hanswer hended⟩

def sampleActive : Session :=
  { Session.new 0 "/" [] none true SessionRun.sampleParameters 0 with state := .connected }

/-- An engine with a session that is up on stream 0. -/
def samplePeer : WebTransportEngine plainQpack :=
  let e : WebTransportEngine plainQpack := .new 0 none true sampleEngineParameters
  { e with
    connection := { e.connection with sessions := e.connection.sessions.insert 0 sampleActive }
    h3 := { H3.establishedClient with maxCapsuleSize := 1028 } }

/-- A code that does not fit, and a reason that is not ASCII. -/
theorem close_round_trip_sample :
    ∃ wire, wireOf 0 (sampleActive.close 9 (2 ^ 40) (some "é") 5).2 = .ok (wire, true) ∧
      ∀ (chunks : List (Timestamp × Bytes)) (last : Timestamp × Bytes),
        (∀ chunk ∈ chunks, chunk.2 ≠ []) → (chunks.map Prod.snd).flatten ++ last.2 = wire →
        ∃ e' effects kept, samplePeer.receiveToEnd 0 last chunks = some (e', effects) ∧
          ClosedWith 0 (min (2 ^ 40) (2 ^ 32 - 1)) "é" kept e'.connection effects :=
  close_round_trip (a := sampleActive) (s := sampleActive) plainQpack_nonBlocking rfl rfl 9
    (2 ^ 40) (some "é") 5
    ⟨rfl, rfl, .inl rfl, rfl, ⟨rfl, rfl, rfl, rfl, rfl, rfl, ⟨rfl, rfl, rfl, rfl⟩⟩, by decide⟩

end PyWebTransport

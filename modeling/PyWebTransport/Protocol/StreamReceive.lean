/-
PyWebTransport.Protocol.StreamReceive — the receiving side of a stream
along a run: transport reads against waiting reads, and bytes against
results.

A stream drops data that comes while no read waits, so nothing is lost only
because the transport delivers data in answer to a `ReceiveQuicData` and the
stream asks exactly when a read waits. A run counts the asks that have no
answer yet and delivers data only while there is one.

`receive_path_exact` is the result about whole runs.
-/
import PyWebTransport.Protocol.StreamSend

namespace PyWebTransport

variable {s : Stream} {α : Type}

variable {l m : List Effect}

/-! ## Runs -/

/-- A call on a stream, seen from its receiving side. -/
inductive ReceiveCall where
  | read (requestId : RequestId) (maxSize : Nat)
  | recvData (data : Bytes) (endStream : Bool)
  | recvReset (errorCode : ErrorCode)
  | stop (requestId : RequestId) (errorCode : ErrorCode)
  | send (call : SendCall)
deriving DecidableEq

namespace ReceiveCall

/-- A read of no bytes, which is answered at once. -/
def isEmptyRead : ReceiveCall → Bool
  | .read _ maxSize => maxSize == 0
  | _ => false

/-- The request of a read that asks for bytes. -/
def reads : ReceiveCall → Option RequestId
  | .read requestId maxSize => if 0 < maxSize then some requestId else none
  | _ => none

/-- The end of the stream arrives. -/
def isFinish : ReceiveCall → Bool
  | .recvData _ endStream => endStream
  | _ => false

/-- The receiving side is given up. -/
def halts : ReceiveCall → Bool
  | .recvReset _ => true
  | .stop _ _ => true
  | .send (.abort _) => true
  | _ => false

end ReceiveCall

namespace Effect

/-- The request and the bytes of a read's result. -/
def readResult : Effect → Option (RequestId × Bytes)
  | .notifyRequestDone requestId (.readData data) => some (requestId, data)
  | _ => none

/-- Whether an effect asks the transport for data. -/
def isAsk : Effect → Bool
  | .receiveQuicData .. => true
  | _ => false

/-- Whether an effect concerns the receiving side. -/
def isReceiving (e : Effect) : Bool := e.isAsk || e.readResult.isSome

end Effect

/-- The bytes of the results among some effects. -/
def resultData (effects : List Effect) : Bytes :=
  (effects.filterMap Effect.readResult).flatMap Prod.snd

/-- The requests of the results among some effects. -/
def resultIds (effects : List Effect) : List RequestId :=
  (effects.filterMap Effect.readResult).map Prod.fst

/-- What a call does to a stream. -/
def Stream.receive (s : Stream) : ReceiveCall → Stream × List Effect
  | .read requestId maxSize => s.read requestId maxSize
  | .recvData data endStream => s.recvData data endStream
  | .recvReset errorCode => s.recvReset errorCode
  | .stop requestId errorCode => s.stop requestId errorCode
  | .send call => s.send call

/-- A stream with the number of asks that wait for an answer, the bytes that
arrived while it was receiving, the reads that asked for bytes, and every
call with its effects. -/
structure ReceiveRun where
  stream : Stream
  asks : Nat
  received : Bytes
  issued : List RequestId
  history : List (ReceiveCall × List Effect)

namespace ReceiveRun

def start (stream : Stream) : ReceiveRun where
  stream := stream
  asks := 0
  received := []
  issued := []
  history := []

def effects (w : ReceiveRun) : List Effect := w.history.flatMap Prod.snd

/-- Data or the end of the stream arrives in answer to an ask. -/
def Allows (w : ReceiveRun) : ReceiveCall → Prop
  | .recvData data endStream => (data ≠ [] ∨ endStream = true) ∧ 0 < w.asks
  | _ => True

/-- The asks a call answers. -/
def answers : ReceiveCall → Nat
  | .recvData _ _ => 1
  | _ => 0

/-- The bytes that arrive with a call at a stream that is receiving. -/
def arrives (s : Stream) : ReceiveCall → Bytes
  | .recvData data _ => if s.receiveState = some .receive then data else []
  | _ => []

def step (w : ReceiveRun) (call : ReceiveCall) : ReceiveRun where
  stream := (w.stream.receive call).1
  asks := w.asks - answers call + (w.stream.receive call).2.countP Effect.isAsk
  received := w.received ++ arrives w.stream call
  issued := w.issued ++ call.reads.toList
  history := w.history ++ [(call, (w.stream.receive call).2)]

/-- A step by a call that meets a condition. -/
def StepIf (ok : ReceiveCall → Prop) (w w' : ReceiveRun) : Prop :=
  ∃ call, ok call ∧ w.Allows call ∧ w' = w.step call

def Step : ReceiveRun → ReceiveRun → Prop := StepIf fun _ => True

/-- The reads that got a result, in order, but those of no bytes. -/
def answered (w : ReceiveRun) : List RequestId :=
  w.history.flatMap fun entry => if entry.1.isEmptyRead then [] else resultIds entry.2

end ReceiveRun

/-! ## Results among effects -/

@[simp] theorem resultData_append : resultData (l ++ m) = resultData l ++ resultData m := by
  simp [resultData]

@[simp] theorem resultIds_append : resultIds (l ++ m) = resultIds l ++ resultIds m := by
  simp [resultIds]

/-- No effect of a list concerns the receiving side. -/
def NoReceiving (effects : List Effect) : Prop := ∀ e ∈ effects, e.isReceiving = false

namespace NoReceiving

variable {effects : List Effect}

theorem results (h : NoReceiving effects) : effects.filterMap Effect.readResult = [] := by
  rw [List.filterMap_eq_nil_iff]
  intro e he
  have hno := h e he
  simp only [Effect.isReceiving, Bool.or_eq_false_iff, Option.isSome_eq_false_iff] at hno
  exact Option.isNone_iff_eq_none.mp hno.2

theorem asks (h : NoReceiving effects) : effects.countP Effect.isAsk = 0 := by
  rw [List.countP_eq_zero]
  intro e he
  have hno := h e he
  simp only [Effect.isReceiving, Bool.or_eq_false_iff] at hno
  simp [hno.1]

theorem append {more : List Effect} (h : NoReceiving effects) (hmore : NoReceiving more) :
    NoReceiving (effects ++ more) := by
  exact List.forall_mem_append.mpr ⟨h, hmore⟩

theorem singleton {e : Effect} (h : e.isReceiving = false) : NoReceiving [e] := by
  intro e' he'
  rw [List.mem_singleton.mp he']
  exact h

theorem nil : NoReceiving [] := by
  intro e he
  cases he

end NoReceiving

/-- The results of reads that complete with no bytes. -/
theorem resultData_empty (f : α → RequestId) {l : List α} :
    resultData (l.map fun x => Effect.notifyRequestDone (f x) (.readData [])) = [] := by
  simp [resultData, Effect.readResult, List.filterMap_map, Function.comp_def]

theorem resultIds_empty (f : α → RequestId) {l : List α} :
    resultIds (l.map fun x => Effect.notifyRequestDone (f x) (.readData [])) = l.map f := by
  simp [resultIds, Effect.readResult, List.filterMap_map, Function.comp_def]

/-! ## The receiving side and the other calls -/

namespace Stream

variable {errorCode : Option ErrorCode} {http : ErrorCode} {credit : Nat} {requestId : RequestId}

/-- What a call that leaves the receiving side alone leaves alone. -/
structure SameReceive (s s' : Stream) : Prop where
  state : s'.receiveState = s.receiveState
  reads : s'.pendingReadRequests = s.pendingReadRequests

theorem sameReceive_sendReset (s : Stream) (errorCode : Option ErrorCode) (http : ErrorCode) :
    SameReceive s (s.sendReset errorCode http).1 := by
  unfold sendReset
  split <;> exact ⟨rfl, rfl⟩

theorem noReceiving_sendReset (s : Stream) : NoReceiving (s.sendReset errorCode http).2 := by
  intro e he
  rcases s.sendReset_effects e he with rfl | ⟨r, rfl⟩ <;> rfl

theorem noReceiving_sendStop (s : Stream) : NoReceiving (s.sendStop errorCode http).2 := by
  intro e he
  rcases s.sendStop_effects errorCode http e he with rfl | ⟨r, rfl⟩ <;> rfl

theorem sameReceive_flushWrites (s : Stream) :
    SameReceive s (s.flushWrites credit).1 ∧ NoReceiving (s.flushWrites credit).2.1 := by
  rcases flushWrites_cases s credit with heq |
    ⟨entry, rest, -, -, -, ⟨-, heq⟩ | ⟨-, -, heq⟩⟩ <;> rw [heq]
  · exact ⟨⟨rfl, rfl⟩, NoReceiving.nil⟩
  · exact ⟨⟨rfl, rfl⟩, NoReceiving.singleton rfl⟩
  · exact ⟨⟨rfl, rfl⟩, NoReceiving.singleton rfl⟩

theorem sameReceive_completeWrite (s : Stream) :
    SameReceive s (s.completeWrite credit).1 ∧ NoReceiving (s.completeWrite credit).2.1 := by
  unfold completeWrite
  split
  · exact ⟨⟨rfl, rfl⟩, NoReceiving.nil⟩
  · obtain ⟨hsame, hno⟩ := sameReceive_flushWrites { s with pendingWriteRequest := none }
    refine ⟨⟨hsame.state, hsame.reads⟩, NoReceiving.append ?_ hno⟩
    split
    · exact NoReceiving.singleton rfl
    · exact NoReceiving.nil

theorem sameReceive_write (s : Stream) {data : Bytes} {endStream : Bool} :
    SameReceive s (s.write requestId data endStream credit).1 ∧
      NoReceiving (s.write requestId data endStream credit).2.1 := by
  rcases s.write_cases requestId data endStream credit with ⟨-, heq⟩ | ⟨-, effect, heq, hanswer⟩
  · rw [heq]
    obtain ⟨hsame, hno⟩ :=
      sameReceive_flushWrites (s.enqueueWrite ⟨data, requestId, endStream⟩)
    exact ⟨⟨hsame.state, hsame.reads⟩, hno⟩
  · rw [heq]
    refine ⟨⟨rfl, rfl⟩, NoReceiving.singleton ?_⟩
    rcases hanswer with rfl | ⟨reason, rfl⟩ <;> rfl

theorem sameReceive_recvStopSending (s : Stream) {errorCode : ErrorCode} :
    SameReceive s (s.recvStopSending errorCode).1 ∧
      NoReceiving (s.recvStopSending errorCode).2 := by
  unfold recvStopSending
  split
  · exact ⟨⟨rfl, rfl⟩, NoReceiving.nil⟩
  · exact ⟨s.sameReceive_sendReset _ _,
      (NoReceiving.singleton rfl).append s.noReceiving_sendReset⟩

theorem sameReceive_reset (s : Stream) {errorCode : ErrorCode} :
    SameReceive s (s.reset requestId errorCode).1 ∧
      NoReceiving (s.reset requestId errorCode).2 := by
  unfold reset
  split
  · exact ⟨⟨rfl, rfl⟩, NoReceiving.singleton rfl⟩
  · split
    · exact ⟨⟨rfl, rfl⟩, NoReceiving.singleton rfl⟩
    · exact ⟨s.sameReceive_sendReset _ _,
        s.noReceiving_sendReset.append (NoReceiving.singleton rfl)⟩

/-- A call on the sending side, but for an abort, leaves the receiving side
alone. -/
theorem sameReceive_send (s : Stream) (call : SendCall) (habort : ∀ code, call ≠ .abort code) :
    SameReceive s (s.send call).1 ∧ NoReceiving (s.send call).2 := by
  cases call with
  | write => exact s.sameReceive_write
  | flushWrites => exact s.sameReceive_flushWrites
  | completeWrite => exact s.sameReceive_completeWrite
  | reset => exact s.sameReceive_reset
  | recvStopSending => exact s.sameReceive_recvStopSending
  | abort errorCode => exact absurd rfl (habort errorCode)
  | handleDataAcknowledged =>
    refine ⟨?_, NoReceiving.nil⟩
    simp only [send, handleDataAcknowledged]
    split <;> exact ⟨rfl, rfl⟩

/-- Giving up the receiving side, unless it was over already. -/
def Halted (s s' : Stream) : Prop :=
  (s.isReceiveTerminated = true ∧ SameReceive s s') ∨
    (s'.receiveState = some .resetRead ∧ s'.pendingReadRequests = [])

theorem halted_sendStop (s : Stream) (errorCode : Option ErrorCode) (http : ErrorCode) :
    Halted s (s.sendStop errorCode http).1 := by
  unfold sendStop
  split
  · exact Or.inl ⟨by assumption, rfl, rfl⟩
  · exact Or.inr ⟨rfl, rfl⟩

theorem halted_recvReset (s : Stream) {errorCode : ErrorCode} :
    Halted s (s.recvReset errorCode).1 ∧ NoReceiving (s.recvReset errorCode).2 := by
  unfold recvReset
  split
  · exact ⟨Or.inl ⟨by assumption, rfl, rfl⟩, NoReceiving.nil⟩
  · refine ⟨Or.inr ⟨rfl, rfl⟩, (NoReceiving.singleton rfl).append ?_⟩
    intro e he
    obtain ⟨request, -, rfl⟩ := List.mem_map.mp he
    rfl

theorem halted_stop (s : Stream) {errorCode : ErrorCode} :
    Halted s (s.stop requestId errorCode).1 ∧ NoReceiving (s.stop requestId errorCode).2 := by
  unfold stop
  split
  · rename_i hnone
    exact ⟨Or.inl ⟨by simp [isReceiveTerminated, hnone], rfl, rfl⟩, NoReceiving.singleton rfl⟩
  · split
    · exact ⟨Or.inl ⟨by assumption, rfl, rfl⟩, NoReceiving.singleton rfl⟩
    · exact ⟨s.halted_sendStop _ _,
        s.noReceiving_sendStop.append (NoReceiving.singleton rfl)⟩

theorem halted_abort (s : Stream) (errorCode : ErrorCode) :
    Halted s (s.abort errorCode).1 ∧ NoReceiving (s.abort errorCode).2 := by
  have hsame := s.sameReceive_sendReset (some errorCode) errorCode
  refine ⟨?_, s.noReceiving_sendReset.append (noReceiving_sendStop _)⟩
  rcases halted_sendStop (s.sendReset (some errorCode) errorCode).1 (some errorCode) errorCode with
    ⟨hterm, hstop⟩ | hreset
  · refine Or.inl ⟨?_, hstop.state.trans hsame.state, hstop.reads.trans hsame.reads⟩
    rw [isReceiveTerminated, hsame.state] at hterm
    exact hterm
  · exact Or.inr hreset

end Stream

/-! ## The invariant of a run -/

/-- A result with no bytes goes to a read of no bytes, or the end of the
stream has arrived. -/
def EmptyAfterFinish (before : List (ReceiveCall × List Effect))
    (entry : ReceiveCall × List Effect) : Prop :=
  ∀ requestId, Effect.notifyRequestDone requestId (.readData []) ∈ entry.2 →
    entry.1.isEmptyRead = true ∨ ∃ e ∈ before ++ [entry], e.1.isFinish = true

/-- The end of the stream has arrived, and nothing was given up. -/
def Stream.HasFinished (s : Stream) : Prop :=
  s.receiveState = some .dataReceived ∨ s.receiveState = some .dataRead

theorem Stream.HasFinished.ne (h : s.HasFinished) :
    s.receiveState ≠ none ∧ s.receiveState ≠ some .receive ∧
      s.receiveState ≠ some .resetRead := by
  rcases h with h | h <;> simp [h]

/-- The end of the stream finishes a stream that is receiving. -/
theorem Stream.hasFinished_recvData (s : Stream) (data : Bytes)
    (hstate : s.receiveState = some .receive) : (s.recvData data true).1.HasFinished := by
  simp only [recvData, hstate, ne_eq, not_true_eq_false, if_false, if_true]
  unfold HasFinished finishReads deliverRead
  cases hpend : s.pendingReadRequests with
  | nil => simp [hstate, hpend]
  | cons first rest => cases rest <;> cases data <;> simp [hstate]

/-- What holds of a stream and its history between two calls. -/
structure Receiving (w : ReceiveRun) : Prop where
  asking : w.stream.receiveState = some .receive →
    w.asks = if w.stream.pendingReadRequests = [] then 0 else 1
  idle : w.stream.receiveState ≠ some .receive → w.stream.pendingReadRequests = []
  order : w.stream.receiveState ≠ none → w.stream.receiveState ≠ some .resetRead →
    w.issued = w.answered ++ w.stream.readIds
  answeredPrefix : w.answered <+: w.issued
  bytes : w.received = resultData w.effects
  finished : w.stream.HasFinished → ∃ entry ∈ w.history, entry.1.isFinish = true
  empties : AtEach EmptyAfterFinish w.history

namespace ReceiveRun

variable {w : ReceiveRun} {call : ReceiveCall}

@[simp] theorem effects_step : (w.step call).effects = w.effects ++ (w.stream.receive call).2 := by
  simp [effects, step]

@[simp] theorem answered_step :
    (w.step call).answered =
      w.answered ++ if call.isEmptyRead then [] else resultIds (w.stream.receive call).2 := by
  simp [answered, step]

end ReceiveRun

namespace Receiving

variable {w : ReceiveRun} {requestId : RequestId} {call : ReceiveCall} {maxSize : Nat}
  {data : Bytes} {first : RequestId × Nat} {rest : List (RequestId × Nat)}

/-! ### Calls without results -/

section NoResults

variable {call : ReceiveCall}
  (hno : (w.stream.receive call).2.filterMap Effect.readResult = [])

include hno

theorem answered_eq : (w.step call).answered = w.answered := by
  rw [ReceiveRun.answered_step, resultIds, hno]
  simp

theorem answered_prefix (h : Receiving w) : (w.step call).answered <+: (w.step call).issued := by
  rw [answered_eq hno]
  exact h.answeredPrefix.trans (List.prefix_append _ _)

theorem bytes_eq (h : Receiving w) (harrives : ReceiveRun.arrives w.stream call = []) :
    (w.step call).received = resultData (w.step call).effects := by
  rw [ReceiveRun.effects_step, resultData_append, ← h.bytes, resultData, hno]
  exact congrArg (w.received ++ ·) harrives

theorem empties_step (h : Receiving w) : AtEach EmptyAfterFinish (w.step call).history := by
  show AtEach EmptyAfterFinish (w.history ++ [_])
  rw [atEach_append]
  refine ⟨h.empties, atEach_of_forall ?_⟩
  intro entry hentry before requestId hin
  rw [List.mem_singleton.mp hentry] at hin
  have hresult := List.filterMap_eq_nil_iff.mp hno _ hin
  cases hresult

end NoResults

section

variable (h : Receiving w)
include h

/-- A call without effects on the receiving side that leaves it alone. A
read may be refused in this way, once the receiving side is given up. -/
theorem step_apart (hsame : Stream.SameReceive w.stream (w.stream.receive call).1)
    (hno : NoReceiving (w.stream.receive call).2)
    (hreads : w.stream.receiveState ≠ none → w.stream.receiveState ≠ some .resetRead →
      call.reads = none) (harrives : ReceiveRun.arrives w.stream call = [])
    (hanswers : w.stream.receiveState = some .receive → ReceiveRun.answers call = 0) :
    Receiving (w.step call) := by
  refine ⟨?_, ?_, ?_, h.answered_prefix hno.results, h.bytes_eq hno.results harrives, ?_,
    h.empties_step hno.results⟩
  · intro hstate
    have hold : w.stream.receiveState = some .receive := hsame.state ▸ hstate
    show w.asks - ReceiveRun.answers call + (w.stream.receive call).2.countP Effect.isAsk = _
    rw [hno.asks, hanswers hold, h.asking hold]
    show _ = if (w.stream.receive call).1.pendingReadRequests = [] then 0 else 1
    rw [hsame.reads]
    rfl
  · intro hstate
    exact hsame.reads.trans (h.idle (hsame.state ▸ hstate))
  · intro hnone hreset
    have hnone' : w.stream.receiveState ≠ none := hsame.state ▸ hnone
    have hreset' : w.stream.receiveState ≠ some .resetRead := hsame.state ▸ hreset
    rw [answered_eq hno.results]
    show w.issued ++ call.reads.toList = w.answered ++ (w.stream.receive call).1.readIds
    rw [hreads hnone' hreset', Stream.readIds, hsame.reads, h.order hnone' hreset']
    exact List.append_nil _
  · intro hfinished
    have hold : w.stream.HasFinished := by
      rw [Stream.HasFinished, ← hsame.state]
      exact hfinished
    obtain ⟨entry, hentry, hfinish⟩ := h.finished hold
    exact ⟨entry, List.mem_append_left _ hentry, hfinish⟩

/-- A call that gives up the receiving side. -/
theorem step_halt (hhalted : Stream.Halted w.stream (w.stream.receive call).1)
    (hno : NoReceiving (w.stream.receive call).2) (hreads : call.reads = none)
    (harrives : ReceiveRun.arrives w.stream call = []) (hanswers : ReceiveRun.answers call = 0) :
    Receiving (w.step call) := by
  rcases hhalted with ⟨-, hsame⟩ | ⟨hstate, hpend⟩
  · exact h.step_apart hsame hno (fun _ _ => hreads) harrives (fun _ => hanswers)
  · have hreset : (w.step call).stream.receiveState = some .resetRead := hstate
    refine ⟨?_, fun _ => hpend, fun _ hne => absurd hreset hne, h.answered_prefix hno.results,
      h.bytes_eq hno.results harrives, ?_, h.empties_step hno.results⟩
    · intro hreceive
      rw [hreset] at hreceive
      cases hreceive
    · intro hfinished
      exact absurd hreset hfinished.ne.2.2

/-- A read that waits: it asks the transport if it is the first. -/
theorem step_read_queued (hstate : w.stream.receiveState = some .receive)
    (hpos : 0 < maxSize) : Receiving (w.step (.read requestId maxSize)) := by
  have heq : w.stream.receive (.read requestId maxSize) =
      ({ w.stream with
          pendingReadRequests := w.stream.pendingReadRequests ++ [(requestId, maxSize)] },
        if w.stream.pendingReadRequests = [] then [.receiveQuicData w.stream.id maxSize]
        else []) := by
    simp [Stream.receive, Stream.read, hstate, hpos]
  have hstate' : (w.step (.read requestId maxSize)).stream.receiveState = some .receive := by
    show (w.stream.receive (.read requestId maxSize)).1.receiveState = _
    rw [heq]
    exact hstate
  have hno : (w.stream.receive (.read requestId maxSize)).2.filterMap Effect.readResult = [] := by
    rw [heq]
    dsimp only
    split <;> rfl
  refine ⟨?_, fun hne => absurd hstate' hne, ?_, h.answered_prefix hno, h.bytes_eq hno rfl, ?_,
    h.empties_step hno⟩
  · intro _
    show w.asks - 0 + (w.stream.receive (.read requestId maxSize)).2.countP Effect.isAsk =
      if (w.stream.receive (.read requestId maxSize)).1.pendingReadRequests = [] then 0 else 1
    rw [heq, h.asking hstate]
    by_cases hempty : w.stream.pendingReadRequests = [] <;> simp [hempty, Effect.isAsk]
  · intro _ _
    rw [answered_eq hno]
    show w.issued ++ (ReceiveCall.read requestId maxSize).reads.toList =
      _ ++ (w.stream.receive (.read requestId maxSize)).1.readIds
    rw [heq, h.order (by simp [hstate]) (by simp [hstate])]
    simp [ReceiveCall.reads, hpos, Stream.readIds]
  · intro hfinished
    exact absurd hstate' hfinished.ne.2.1

/-! ### Calls with results -/

/-- Behind the end of the stream no read waits, so the answers keep up with
the reads. -/
theorem all_answered (hfinished : w.stream.HasFinished) :
    w.stream.pendingReadRequests = [] ∧ w.issued = w.answered := by
  have hempty := h.idle hfinished.ne.2.1
  refine ⟨hempty, ?_⟩
  rw [h.order hfinished.ne.1 hfinished.ne.2.2, Stream.readIds, hempty]
  exact List.append_nil _

/-- The results of a call may hold no bytes if it is a read of none, or
behind the end of the stream. -/
theorem empties_of_finish (hcall : call.isEmptyRead = true ∨ call.isFinish = true ∨
      ∃ entry ∈ w.history, entry.1.isFinish = true) :
    AtEach EmptyAfterFinish (w.step call).history := by
  show AtEach EmptyAfterFinish (w.history ++ [(call, (w.stream.receive call).2)])
  rw [atEach_append]
  refine ⟨h.empties, ?_⟩
  intro before entry after hsplit r _
  have hentry : entry = (call, (w.stream.receive call).2) := by
    have hin : entry ∈ [(call, (w.stream.receive call).2)] := by simp [hsplit]
    exact List.mem_singleton.mp hin
  rcases hcall with hzero | hfin | ⟨e, he, hfin⟩
  · exact Or.inl (by rw [hentry]; exact hzero)
  · exact Or.inr ⟨entry, by simp, by rw [hentry]; exact hfin⟩
  · exact Or.inr ⟨e, by simp [he], hfin⟩

/-- A read of no bytes, answered at once. -/
theorem step_read_zero (heq : w.stream.receive (.read requestId 0) =
      (w.stream, [.notifyRequestDone requestId (.readData [])])) :
    Receiving (w.step (.read requestId 0)) := by
  have hstream : (w.step (.read requestId 0)).stream = w.stream := congrArg Prod.fst heq
  have hanswered : (w.step (.read requestId 0)).answered = w.answered := by
    rw [ReceiveRun.answered_step]
    exact List.append_nil _
  have hissued : (w.step (.read requestId 0)).issued = w.issued := List.append_nil _
  have hasks : (w.step (.read requestId 0)).asks = w.asks := by
    show w.asks - 0 + (w.stream.receive (.read requestId 0)).2.countP Effect.isAsk = _
    rw [heq]
    rfl
  refine ⟨?_, ?_, ?_, ?_, ?_, ?_, h.empties_of_finish (Or.inl rfl)⟩
  · rw [hstream, hasks]
    exact h.asking
  · rw [hstream]
    exact h.idle
  · rw [hstream, hissued, hanswered]
    exact h.order
  · rw [hissued, hanswered]
    exact h.answeredPrefix
  · rw [ReceiveRun.effects_step, heq, resultData_append, ← h.bytes]
    rfl
  · rw [hstream]
    intro hfinished
    obtain ⟨entry, hentry, hfinish⟩ := h.finished hfinished
    exact ⟨entry, List.mem_append_left _ hentry, hfinish⟩

/-- A read behind the end of the stream, answered at once. -/
theorem step_read_finished (next : Stream) (hpos : 0 < maxSize)
    (heq : w.stream.receive (.read requestId maxSize) =
      (next, [.notifyRequestDone requestId (.readData [])])) (hfinished : w.stream.HasFinished)
    (hnext : next.HasFinished) (hpend : next.pendingReadRequests = w.stream.pendingReadRequests) :
    Receiving (w.step (.read requestId maxSize)) := by
  obtain ⟨hempty, horder⟩ := h.all_answered hfinished
  have hstream : (w.step (.read requestId maxSize)).stream = next := congrArg Prod.fst heq
  have hkept : (w.step (.read requestId maxSize)).issued =
      (w.step (.read requestId maxSize)).answered := by
    rw [ReceiveRun.answered_step, heq, ← horder]
    show w.issued ++ (ReceiveCall.read requestId maxSize).reads.toList = _
    simp [ReceiveCall.isEmptyRead, ReceiveCall.reads, hpos, Nat.pos_iff_ne_zero.mp hpos, resultIds,
      Effect.readResult]
  have hfinish := h.finished hfinished
  refine ⟨?_, ?_, ?_, ?_, ?_, ?_, h.empties_of_finish (Or.inr (Or.inr hfinish))⟩
  · rw [hstream]
    intro hreceive
    exact absurd hreceive hnext.ne.2.1
  · rw [hstream]
    intro _
    exact hpend.trans hempty
  · intro _ _
    rw [hkept, hstream, Stream.readIds, hpend, hempty]
    exact (List.append_nil _).symm
  · rw [hkept]
  · rw [ReceiveRun.effects_step, heq, resultData_append, ← h.bytes]
    rfl
  · intro _
    obtain ⟨entry, hentry, hfin⟩ := hfinish
    exact ⟨entry, List.mem_append_left _ hentry, hfin⟩

/-- Data that is not the end: the first read takes it, and the stream asks
again for the next one. -/
theorem step_data (hstate : w.stream.receiveState = some .receive)
    (hpend : w.stream.pendingReadRequests = first :: rest) (hdata : data ≠ []) :
    Receiving (w.step (.recvData data false)) := by
  have heq : w.stream.receive (.recvData data false) =
      ({ w.stream with pendingReadRequests := rest },
        [.notifyRequestDone first.1 (.readData data)] ++
          rest.head?.toList.map (fun request => .receiveQuicData w.stream.id request.2)) := by
    simp [Stream.receive, Stream.recvData, Stream.deliverRead, hstate, hpend]
  have hasks : ∀ l : List (RequestId × Nat), (l.head?.toList.map fun request =>
      Effect.receiveQuicData w.stream.id request.2).filterMap Effect.readResult = [] := by
    intro l
    cases l <;> rfl
  have hresults : (w.stream.receive (.recvData data false)).2.filterMap Effect.readResult =
      [(first.1, data)] := by
    rw [heq, List.filterMap_append, hasks]
    rfl
  have hstate' : (w.step (.recvData data false)).stream.receiveState = some .receive := by
    show (w.stream.receive (.recvData data false)).1.receiveState = _
    rw [heq]
    exact hstate
  have horder : (w.step (.recvData data false)).issued =
      (w.step (.recvData data false)).answered ++
        (w.step (.recvData data false)).stream.readIds := by
    rw [ReceiveRun.answered_step, resultIds, hresults]
    show w.issued ++ [] = _ ++ (w.stream.receive (.recvData data false)).1.readIds
    rw [heq, h.order (by simp [hstate]) (by simp [hstate])]
    simp [Stream.readIds, hpend, ReceiveCall.isEmptyRead]
  refine ⟨?_, fun hne => absurd hstate' hne, fun _ _ => horder, ?_, ?_, ?_, ?_⟩
  · intro _
    show w.asks - 1 + (w.stream.receive (.recvData data false)).2.countP Effect.isAsk =
      if (w.stream.receive (.recvData data false)).1.pendingReadRequests = [] then 0 else 1
    rw [heq, h.asking hstate, hpend]
    cases rest <;> simp [Effect.isAsk]
  · rw [horder]
    exact List.prefix_append _ _
  · rw [ReceiveRun.effects_step, resultData_append, ← h.bytes, resultData, hresults]
    show w.received ++ ReceiveRun.arrives w.stream (.recvData data false) = _
    simp [ReceiveRun.arrives, hstate]
  · intro hfinished
    exact absurd hstate' hfinished.ne.2.1
  · show AtEach EmptyAfterFinish (w.history ++ [_])
    rw [atEach_append]
    refine ⟨h.empties, atEach_of_forall ?_⟩
    intro entry hentry before r hin
    rw [List.mem_singleton.mp hentry] at hin
    have hmem : (r, ([] : Bytes)) ∈
        (w.stream.receive (.recvData data false)).2.filterMap Effect.readResult :=
      List.mem_filterMap.mpr ⟨_, hin, rfl⟩
    rw [hresults, List.mem_singleton] at hmem
    exact absurd (Prod.mk.inj hmem).2.symm hdata

/-- The end of the stream: the first read takes what came with it, and the
others complete with no bytes. -/
theorem step_finish (hstate : w.stream.receiveState = some .receive)
    (hpend : w.stream.pendingReadRequests = first :: rest) :
    Receiving (w.step (.recvData data true)) := by
  obtain ⟨next, heq, hfinished, hempty⟩ : ∃ next, w.stream.receive (.recvData data true) =
      (next, [.notifyRequestDone first.1 (.readData data)] ++
        rest.map (fun request => .notifyRequestDone request.1 (.readData []))) ∧
      next.HasFinished ∧ next.pendingReadRequests = [] := by
    refine ⟨_, ?_, w.stream.hasFinished_recvData data hstate, ?_⟩
    · rw [Stream.receive]
      refine Prod.ext rfl ?_
      simp [Stream.recvData, Stream.deliverRead, Stream.finishReads, hstate, hpend]
    · simp [Stream.recvData, Stream.finishReads, hstate]
  have hstream : (w.step (.recvData data true)).stream = next := congrArg Prod.fst heq
  have hkept : (w.step (.recvData data true)).issued =
      (w.step (.recvData data true)).answered := by
    rw [ReceiveRun.answered_step, heq, resultIds_append, resultIds_empty]
    show w.issued ++ [] = _
    rw [h.order (by simp [hstate]) (by simp [hstate]), Stream.readIds, hpend]
    simp [ReceiveCall.isEmptyRead, resultIds, Effect.readResult]
  refine ⟨?_, ?_, ?_, ?_, ?_, ?_, h.empties_of_finish (Or.inr (Or.inl rfl))⟩
  · rw [hstream]
    intro hreceive
    exact absurd hreceive hfinished.ne.2.1
  · rw [hstream]
    intro _
    exact hempty
  · intro _ _
    rw [hkept, hstream, Stream.readIds, hempty]
    exact (List.append_nil _).symm
  · rw [hkept]
  · rw [ReceiveRun.effects_step, heq, resultData_append, resultData_append, resultData_empty,
      ← h.bytes]
    show w.received ++ ReceiveRun.arrives w.stream (.recvData data true) = _
    simp [ReceiveRun.arrives, hstate, resultData, Effect.readResult]
  · intro _
    exact ⟨_, List.mem_append_right _ (List.mem_singleton_self _), rfl⟩

/-! ### Steps and runs -/

/-- A read of a side that is given up, or that is none, is refused. -/
theorem step_read_refused
    (hstate : w.stream.receiveState = none ∨ w.stream.receiveState = some .resetRead) :
    Receiving (w.step (.read requestId maxSize)) := by
  obtain ⟨e, he, heq⟩ : ∃ e : Effect, e.isReceiving = false ∧
      w.stream.receive (.read requestId maxSize) = (w.stream, [e]) := by
    rcases hstate with hstate | hstate
    · exact ⟨_, rfl, by simp only [Stream.receive, Stream.read, hstate]; rfl⟩
    · exact ⟨_, rfl, by simp only [Stream.receive, Stream.read, hstate]; rfl⟩
  refine h.step_apart ?_ ?_ ?_ rfl (fun _ => rfl)
  · rw [heq]
    exact ⟨rfl, rfl⟩
  · rw [heq]
    exact NoReceiving.singleton he
  · intro hnone hreset
    exact absurd hstate (by simp [hnone, hreset])

theorem step_read : Receiving (w.step (.read requestId maxSize)) := by
  rcases hstate : w.stream.receiveState with _ | state
  · exact h.step_read_refused (Or.inl hstate)
  · by_cases hreset : state = .resetRead
    · exact h.step_read_refused (Or.inr (by rw [hstate, hreset]))
    · rcases Nat.eq_zero_or_pos maxSize with rfl | hpos
      · refine h.step_read_zero ?_
        cases state <;> simp_all [Stream.receive, Stream.read]
      · cases state with
        | resetRead => exact absurd rfl hreset
        | receive => exact h.step_read_queued hstate hpos
        | dataReceived =>
          exact h.step_read_finished { w.stream with receiveState := some .dataRead } hpos
            (by simp [Stream.receive, Stream.read, hstate, hpos]) (Or.inl hstate) (Or.inr rfl) rfl
        | dataRead =>
          exact h.step_read_finished w.stream hpos (by simp [Stream.receive, Stream.read, hstate])
            (Or.inr hstate) (Or.inr hstate) rfl

theorem step_recvData {endStream : Bool} (hallows : w.Allows (.recvData data endStream)) :
    Receiving (w.step (.recvData data endStream)) := by
  by_cases hstate : w.stream.receiveState = some .receive
  · -- data comes in answer to an ask, so a read waits for it
    obtain ⟨hdata, hasked⟩ := hallows
    rw [h.asking hstate] at hasked
    cases hpend : w.stream.pendingReadRequests with
    | nil => simp [hpend] at hasked
    | cons first rest =>
      cases endStream with
      | true => exact h.step_finish hstate hpend
      | false => exact h.step_data hstate hpend (hdata.resolve_right (by simp))
  · have heq : w.stream.receive (.recvData data endStream) = (w.stream, []) := by
      simp [Stream.receive, Stream.recvData, hstate]
    refine h.step_apart ?_ ?_ (fun _ _ => rfl) ?_ (fun hreceive => absurd hreceive hstate)
    · rw [heq]
      exact ⟨rfl, rfl⟩
    · rw [heq]
      exact NoReceiving.nil
    · simp [ReceiveRun.arrives, hstate]

/-- What one call preserves. -/
theorem step (call : ReceiveCall) (hallows : w.Allows call) : Receiving (w.step call) := by
  cases call with
  | read => exact h.step_read
  | recvData data endStream => exact h.step_recvData hallows
  | recvReset errorCode =>
    obtain ⟨hhalted, hno⟩ := w.stream.halted_recvReset
    exact h.step_halt hhalted hno rfl rfl rfl
  | stop requestId errorCode =>
    obtain ⟨hhalted, hno⟩ := w.stream.halted_stop
    exact h.step_halt hhalted hno rfl rfl rfl
  | send call =>
    by_cases habort : ∃ code, call = .abort code
    · obtain ⟨code, rfl⟩ := habort
      obtain ⟨hhalted, hno⟩ := w.stream.halted_abort code
      exact h.step_halt hhalted hno rfl rfl rfl
    · obtain ⟨hsame, hno⟩ := w.stream.sameReceive_send call (fun code hcode => habort ⟨code, hcode⟩)
      exact h.step_apart hsame hno (fun _ _ => rfl) rfl (fun _ => rfl)

end

theorem start (id : StreamId) (sessionId : SessionId) (direction : StreamDirection)
    ( isPeerInitiated : Bool) (parameters : StreamParameters) (createdAt : Timestamp) :
    Receiving (.start (.new id sessionId direction isPeerInitiated parameters createdAt)) where
  asking _ := rfl
  idle _ := rfl
  order _ _ := rfl
  answeredPrefix := List.nil_prefix
  bytes := rfl
  finished hfinished := by
    simp only [Stream.HasFinished, ReceiveRun.start, Stream.new] at hfinished
    split at hfinished <;> simp at hfinished
  empties := atEach_nil _

/-- What a whole run preserves. -/
theorem of_run {w' : ReceiveRun} (h : Receiving w)
    (hrun : Relation.ReflTransGen ReceiveRun.Step w w') : Receiving w' := by
  induction hrun with
  | refl => exact h
  | tail _ hstep ih =>
    obtain ⟨call, -, hallows, rfl⟩ := hstep
    exact ih.step call hallows

end Receiving

/-! ## Behind the end of the stream -/

/-- Once the end of the stream has arrived, only giving up the receiving
side changes that. -/
theorem Stream.HasFinished.receive (h : s.HasFinished) (call : ReceiveCall)
    (hhalts : call.halts = false) : (s.receive call).1.HasFinished := by
  cases call with
  | read requestId maxSize =>
    rcases h with hstate | hstate
    · simp only [Stream.receive, Stream.read, hstate]
      split
      · exact Or.inr rfl
      · exact Or.inl hstate
    · simp only [Stream.receive, Stream.read, hstate]
      exact Or.inr hstate
  | recvData data endStream =>
    have heq : s.recvData data endStream = (s, []) := if_pos h.ne.2.1
    rw [Stream.receive, heq]
    exact h
  | recvReset errorCode | stop requestId errorCode => cases hhalts
  | send call =>
    have hsame := (s.sameReceive_send call (by
      rintro code rfl
      cases hhalts)).1
    rw [Stream.HasFinished, Stream.receive, hsame.state]
    exact h

theorem ReceiveRun.hasFinished_of_run {w w' : ReceiveRun} (h : w.stream.HasFinished)
    (hrun : Relation.ReflTransGen (StepIf fun call => call.halts = false) w w') :
    w'.stream.HasFinished := by
  induction hrun with
  | refl => exact h
  | tail _ hstep ih =>
    obtain ⟨call, hhalts, -, rfl⟩ := hstep
    exact ih.receive call hhalts

theorem Stream.HasFinished.read (h : s.HasFinished) (requestId : RequestId) (maxSize : Nat) :
    (s.read requestId maxSize).2 = [.notifyRequestDone requestId (.readData [])] := by
  rcases h with h | h <;> simp [Stream.read, h]

namespace ReceiveRun

/-- The receiving side of a stream, along every run in which data comes in
answer to an ask: the stream has exactly one ask out while a read waits and
none otherwise; the results hold the bytes that arrived, each once and in
order; reads are answered in the order they were made, but for reads of no
bytes, which are answered at once; no read of bytes gets none before the
end of the stream; and behind the end every read is answered at once with no
bytes, until the receiving side is stopped, reset or aborted. -/
theorem receive_path_exact (id : StreamId) (sessionId : SessionId) (direction : StreamDirection)
    ( isPeerInitiated : Bool) (parameters : StreamParameters) (createdAt : Timestamp)
    (w : ReceiveRun) (hrun : Relation.ReflTransGen Step
      (.start (.new id sessionId direction isPeerInitiated parameters createdAt)) w) :
    (w.stream.receiveState = some .receive →
      w.asks = if w.stream.pendingReadRequests = [] then 0 else 1) ∧
    w.received = resultData w.effects ∧
    w.answered <+: w.issued ∧
    AtEach EmptyAfterFinish w.history ∧
    (w.stream.receiveState = some .receive → ∀ data, w.Allows (.recvData data true) →
      ∀ w', Relation.ReflTransGen (StepIf fun call => call.halts = false)
          (w.step (.recvData data true)) w' →
        ∀ requestId maxSize, 0 < maxSize → (w'.stream.read requestId maxSize).2 =
          [.notifyRequestDone requestId (.readData [])]) := by
  have h := (Receiving.start id sessionId direction isPeerInitiated parameters createdAt).of_run hrun
  refine ⟨h.asking, h.bytes, h.answeredPrefix, h.empties, ?_⟩
  intro hstate data _ w' hrun' requestId maxSize _
  exact (hasFinished_of_run (w.stream.hasFinished_recvData data hstate) hrun').read requestId maxSize

/-- Two reads, of which the second waits for the first. -/
def twoReads : ReceiveRun :=
  (start (.new 4 0 .bidirectional true ⟨10⟩ 0)).step (.read 1 8) |>.step (.read 2 8)
    |>.step (.recvData [5, 6] false) |>.step (.recvData [7] true)

theorem receive_path_exact_twoReads :
    resultData twoReads.effects = [5, 6, 7] ∧ twoReads.received = resultData twoReads.effects ∧
      twoReads.answered = [1, 2] := by
  have hrun : Relation.ReflTransGen Step (start (.new 4 0 .bidirectional true ⟨10⟩ 0)) twoReads :=
    (((Relation.ReflTransGen.single ⟨.read 1 8, trivial, trivial, rfl⟩).tail
      ⟨.read 2 8, trivial, trivial, rfl⟩).tail
        ⟨.recvData [5, 6] false, trivial, ⟨by decide, by decide⟩, rfl⟩).tail
          ⟨.recvData [7] true, trivial, ⟨by decide, by decide⟩, rfl⟩
  exact ⟨by decide, (receive_path_exact 4 0 .bidirectional true ⟨10⟩ 0 twoReads hrun).2.1,
    by decide⟩

end ReceiveRun

end PyWebTransport

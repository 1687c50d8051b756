/-
PyWebTransport.Protocol.StreamSend — the sending side of a stream along a
run: what was accepted, what was put on the wire, and what was completed.

A run is any sequence of the calls that touch the sending side, each with
whatever credit its caller has. The accepted writes are compared with the
effects so far (`Aligned`): a front part of them is on the wire whole, the
next one perhaps in part, and the rest is the write buffer. `flushWrites`
moves the border, `write` appends behind it, `completeWrite` completes the
write at it, and a reset gives up everything behind it.

`send_path_exact` is the result about whole runs.
-/
import PyWebTransport.Lib.Trace
import PyWebTransport.Protocol.StreamTheorems

namespace PyWebTransport

variable {w : SendRun}

variable {l : List WriteEntry}

variable {id : StreamId}

/-! ## Runs -/

/-- A call that touches the sending side of a stream. -/
inductive SendCall where
  | write (requestId : RequestId) (data : Bytes) (endStream : Bool) (availableCredit : Nat)
  | flushWrites (availableCredit : Nat)
  | completeWrite (availableCredit : Nat)
  | reset (requestId : RequestId) (errorCode : ErrorCode)
  | recvStopSending (errorCode : ErrorCode)
  | abort (errorCode : ErrorCode)
  | handleDataAcknowledged
deriving DecidableEq

namespace SendCall

/-- The credit a call may spend. -/
def availableCredit : SendCall → Nat
  | .write _ _ _ credit => credit
  | .flushWrites credit => credit
  | .completeWrite credit => credit
  | _ => 0

/-- The request of a write. -/
def writes : SendCall → Option RequestId
  | .write requestId _ _ _ => some requestId
  | _ => none

/-- The request of a reset, which the reset itself answers. -/
def resets : SendCall → Option RequestId
  | .reset requestId _ => some requestId
  | _ => none

end SendCall

/-- The bytes a list of effects puts on the wire. -/
def sentData (effects : List Effect) : Bytes :=
  effects.flatMap fun
    | .sendQuicData _ data _ => data
    | _ => []

/-- Whether an effect puts something on the wire. -/
def Effect.isSend : Effect → Bool
  | .sendQuicData .. => true
  | _ => false

/-- The bytes of a list of writes. -/
def entriesData (entries : List WriteEntry) : Bytes := entries.flatMap WriteEntry.data

namespace Stream

/-- What a call does to a stream. -/
def send (s : Stream) : SendCall → Stream × List Effect
  | .write requestId data endStream credit =>
    let written := s.write requestId data endStream credit
    (written.1, written.2.1)
  | .flushWrites credit =>
    let flushed := s.flushWrites credit
    (flushed.1, flushed.2.1)
  | .completeWrite credit =>
    let completed := s.completeWrite credit
    (completed.1, completed.2.1)
  | .reset requestId errorCode => s.reset requestId errorCode
  | .recvStopSending errorCode => s.recvStopSending errorCode
  | .abort errorCode => s.abort errorCode
  | .handleDataAcknowledged => (s.handleDataAcknowledged, [])

/-- Whether `write` appends to the buffer. -/
def takesWrite (s : Stream) (data : Bytes) : Bool :=
  s.sendState = some .ready && !s.isFinishPending &&
    decide (s.writeBufferSize + data.length ≤ s.maxWriteBufferSize)

/-- The write a call appends to the buffer. -/
def accepts (s : Stream) : SendCall → Option WriteEntry
  | .write requestId data endStream _ =>
    if s.takesWrite data then some ⟨data, requestId, endStream⟩ else none
  | _ => none

end Stream

/-- A stream with the writes it accepted, the ids of all writes it was
given, and every effect with the call that produced it. -/
structure SendRun where
  stream : Stream
  accepted : List WriteEntry
  written : List RequestId
  trace : List (SendCall × Effect)

namespace SendRun

def start (stream : Stream) : SendRun where
  stream := stream
  accepted := []
  written := []
  trace := []

def effects (w : SendRun) : List Effect := w.trace.map Prod.snd

/-- No write reuses the id of another. -/
def Allows (w : SendRun) (call : SendCall) : Prop :=
  ∀ requestId, call.writes = some requestId → requestId ∉ w.written

def step (w : SendRun) (call : SendCall) : SendRun where
  stream := (w.stream.send call).1
  accepted := w.accepted ++ (w.stream.accepts call).toList
  written := w.written ++ call.writes.toList
  trace := w.trace ++ (w.stream.send call).2.map fun effect => (call, effect)

def Step (w w' : SendRun) : Prop := ∃ call, w.Allows call ∧ w' = w.step call

/-- The writes completed so far, in order. A reset that was given the id of
a write answers for itself. -/
def completed (w : SendRun) : List RequestId :=
  w.trace.filterMap fun entry =>
    match entry.2 with
    | .notifyRequestDone requestId _ =>
      if entry.1.resets = some requestId ∨ entry.1.writes = some requestId then none
      else some requestId
    | _ => none

end SendRun

/-! ## Effects without bytes -/

namespace Stream

theorem sendReset_effects (s : Stream) {errorCode : Option ErrorCode} {http : ErrorCode} :
    ∀ e ∈ (s.sendReset errorCode http).2,
      e = .resetQuicStream s.id http ∨ ∃ r, e = failAborted errorCode r := by
  intro e he
  unfold sendReset at he
  split at he
  · cases he
  · simp only [List.mem_append, List.mem_singleton, List.mem_map] at he
    rcases he with (rfl | ⟨r, -, rfl⟩) | ⟨entry, -, rfl⟩
    · exact Or.inl rfl
    · exact Or.inr ⟨r, rfl⟩
    · exact Or.inr ⟨entry.requestId, rfl⟩

theorem sendStop_effects (s : Stream) (errorCode : Option ErrorCode) (http : ErrorCode) :
    ∀ e ∈ (s.sendStop errorCode http).2,
      e = .stopQuicStream s.id http ∨ ∃ r, e = failAborted errorCode r := by
  intro e he
  unfold sendStop at he
  split at he
  · cases he
  · simp only [List.mem_append, List.mem_map] at he
    rcases he with he | ⟨request, -, rfl⟩
    · split at he
      · exact Or.inl (List.mem_singleton.mp he)
      · cases he
    · exact Or.inr ⟨request.1, rfl⟩

end Stream

/-! ## Accepted writes against sent bytes -/

@[simp] theorem sentData_nil : sentData [] = [] := rfl

@[simp] theorem sentData_append {l m : List Effect} :
    sentData (l ++ m) = sentData l ++ sentData m := List.flatMap_append

@[simp] theorem sentData_send {data : Bytes} {fin : Bool} :
    sentData [.sendQuicData id data fin] = data := List.append_nil data

@[simp] theorem sentData_done {requestId : RequestId} {result : RequestResult} :
    sentData [.notifyRequestDone requestId result] = [] := rfl

@[simp] theorem entriesData_nil : entriesData [] = [] := rfl

@[simp] theorem entriesData_cons {entry : WriteEntry} :
    entriesData (entry :: l) = entry.data ++ entriesData l := rfl

@[simp] theorem entriesData_append {m : List WriteEntry} :
    entriesData (l ++ m) = entriesData l ++ entriesData m := List.flatMap_append

theorem sentData_of_no_send {effects : List Effect} (h : ∀ e ∈ effects, e.isSend = false) :
    sentData effects = [] := by
  rw [sentData, List.flatMap_eq_nil_iff]
  intro e he
  cases e <;> first | rfl | exact absurd (h _ he) (by simp [Effect.isSend])

/-- The writes in `front` are on the wire whole, the next one as far as the
buffer does not hold it any more, and the others are in the buffer. -/
def Aligned (accepted buffer front : List WriteEntry) (sent : Bytes) : Prop :=
  match buffer with
  | [] => accepted = front ∧ sent = entriesData front
  | entry :: rest => ∃ part, accepted = front ++ { entry with data := part ++ entry.data } :: rest ∧
      sent = entriesData front ++ part

namespace Aligned

variable {accepted buffer front : List WriteEntry} {sent : Bytes} {entry : WriteEntry}
  {rest : List WriteEntry}

section

variable (h : Aligned accepted buffer front sent)
include h

theorem total :
    sent ++ entriesData buffer = entriesData accepted := by
  cases buffer with
  | nil =>
    obtain ⟨rfl, rfl⟩ := h
    exact List.append_nil _
  | cons entry rest =>
    obtain ⟨part, rfl, rfl⟩ := h
    simp

theorem ids :
    accepted.map WriteEntry.requestId =
      front.map WriteEntry.requestId ++ buffer.map WriteEntry.requestId := by
  cases buffer with
  | nil => rw [h.1, List.map_nil, List.append_nil]
  | cons entry rest =>
    obtain ⟨part, rfl, -⟩ := h
    simp

theorem front_sent : entriesData front <+: sent := by
  cases buffer with
  | nil => rw [h.2]
  | cons entry rest =>
    obtain ⟨part, -, rfl⟩ := h
    exact List.prefix_append _ _

theorem front_prefix : front <+: accepted := by
  cases buffer with
  | nil => rw [h.1]
  | cons entry rest =>
    obtain ⟨part, rfl, -⟩ := h
    exact List.prefix_append _ _

theorem append (entry : WriteEntry) :
    Aligned (accepted ++ [entry]) (buffer ++ [entry]) front sent := by
  cases buffer with
  | nil =>
    obtain ⟨rfl, rfl⟩ := h
    exact ⟨[], rfl, (List.append_nil _).symm⟩
  | cons first rest =>
    obtain ⟨part, rfl, rfl⟩ := h
    exact ⟨part, by simp, rfl⟩

end

/-- The front of the buffer goes out as far as `k` bytes reach. -/
theorem advance_part (h : Aligned accepted (entry :: rest) front sent) (k : Nat) :
    Aligned accepted ({ entry with data := entry.data.drop k } :: rest) front
      (sent ++ entry.data.take k) := by
  obtain ⟨part, rfl, rfl⟩ := h
  refine ⟨part ++ entry.data.take k, ?_, by rw [List.append_assoc]⟩
  simp

/-- The front of the buffer goes out whole. -/
theorem advance (h : Aligned accepted (entry :: rest) front sent) :
    ∃ whole : WriteEntry, whole.requestId = entry.requestId ∧
      Aligned accepted rest (front ++ [whole]) (sent ++ entry.data) := by
  obtain ⟨part, rfl, rfl⟩ := h
  refine ⟨{ entry with data := part ++ entry.data }, rfl, ?_⟩
  cases rest with
  | nil => exact ⟨rfl, by simp⟩
  | cons next rest => exact ⟨[], by simp, by simp⟩

end Aligned

/-! ## The invariant of a run -/

/-- Whether nothing may be sent behind an effect. -/
def Effect.endsSending : Effect → Bool
  | .sendQuicData _ _ fin => fin
  | .resetQuicStream .. => true
  | _ => false

/-- An accepted write is completed by a later call, and only once it and
everything accepted before it is on the wire. -/
def DoneAfterSent (accepted : List WriteEntry) (before : List (SendCall × Effect))
    (entry : SendCall × Effect) : Prop :=
  ∀ requestId result, entry.2 = .notifyRequestDone requestId result →
    entry.1.resets ≠ some requestId → requestId ∈ accepted.map WriteEntry.requestId →
      entry.1.writes ≠ some requestId ∧
      ∃ earlier write later, accepted = earlier ++ write :: later ∧ write.requestId = requestId ∧
        entriesData (earlier ++ [write]) <+: sentData (before.map Prod.snd)

/-- What holds of a stream and its history between two calls. -/
structure Sending (w : SendRun) : Prop where
  size : w.stream.writeBufferSize = (entriesData w.stream.writeBuffer).length
  sizeBound : w.stream.writeBufferSize ≤ w.stream.maxWriteBufferSize
  finishLast : ∀ entry ∈ w.stream.writeBuffer.dropLast, entry.endStream = false
  nodup : (w.accepted.map WriteEntry.requestId).Nodup
  acceptedWritten : ∀ requestId ∈ w.accepted.map WriteEntry.requestId, requestId ∈ w.written
  aligned : w.stream.sendState ≠ some .resetSent →
    ∃ front, Aligned w.accepted w.stream.writeBuffer front (sentData w.effects) ∧
      front.map WriteEntry.requestId =
        w.completed ++ Stream.inFlight w.stream.pendingWriteRequest w.stream.writeBuffer
  lost : w.stream.sendState = some .resetSent →
    w.stream.writeBuffer = [] ∧ w.stream.pendingWriteRequest = none ∧
      sentData w.effects <+: entriesData w.accepted ∧
      w.completed <+: w.accepted.map WriteEntry.requestId
  unended : w.stream.sendState = some .ready → ∀ e ∈ w.effects, e.endsSending = false
  ended : w.effects.Pairwise (fun e later => e.endsSending = true → later.isSend = false)
  finished : (∃ id data, Effect.sendQuicData id data true ∈ w.effects) →
    sentData w.effects = entriesData w.accepted
  done : AtEach (DoneAfterSent w.accepted) w.trace
  doneWritten : ∀ entry ∈ w.trace, ∀ requestId result,
    entry.2 = .notifyRequestDone requestId result → entry.1.resets ≠ some requestId →
      requestId ∈ w.written

namespace SendRun

variable {call : SendCall}

/-- The run after a call moved the stream on and produced effects. -/
def emit (w : SendRun) (call : SendCall) (next : Stream × List Effect) : SendRun :=
  { w with
    stream := next.1
    trace := w.trace ++ next.2.map fun effect => (call, effect) }

theorem emit_emit (w : SendRun) (call : SendCall) (first second : Stream × List Effect) :
    (w.emit call first).emit call second = w.emit call (second.1, first.2 ++ second.2) := by
  simp [emit]

@[simp] theorem effects_emit (next : Stream × List Effect) :
    (w.emit call next).effects = w.effects ++ next.2 := by
  simp [effects, emit, Function.comp_def]

@[simp] theorem stream_emit (next : Stream × List Effect) :
    (w.emit call next).stream = next.1 := rfl

@[simp] theorem accepted_emit (next : Stream × List Effect) :
    (w.emit call next).accepted = w.accepted := rfl

/-- The completions among the effects of one call. -/
def completions (call : SendCall) (effects : List Effect) : List RequestId :=
  effects.filterMap fun
    | .notifyRequestDone requestId _ =>
      if call.resets = some requestId ∨ call.writes = some requestId then none
      else some requestId
    | _ => none

theorem completed_emit (next : Stream × List Effect) :
    (w.emit call next).completed = w.completed ++ completions call next.2 := by
  simp only [completed, emit, completions, List.filterMap_append, List.filterMap_map]
  rfl

end SendRun

/-- Effects that put nothing on the wire and complete no accepted write. -/
def Idle (w : SendRun) (call : SendCall) (effects : List Effect) : Prop :=
  ∀ e ∈ effects, e.isSend = false ∧ ∀ requestId result,
    e = .notifyRequestDone requestId result → call.resets = some requestId ∨
      (call.writes = some requestId ∧ requestId ∉ w.accepted.map WriteEntry.requestId ∧
        requestId ∈ w.written)

namespace Idle

variable {w : SendRun} {call : SendCall} {effects : List Effect}

section

variable (h : Idle w call effects)
include h

theorem sentData_eq : sentData effects = [] :=
  sentData_of_no_send fun e he => (h e he).1

theorem completions_eq : SendRun.completions call effects = [] := by
  rw [SendRun.completions, List.filterMap_eq_nil_iff]
  intro e he
  cases e with
  | notifyRequestDone requestId result =>
    rcases (h _ he).2 requestId result rfl with hown | ⟨hown, -⟩ <;> simp [hown]
  | _ => rfl

theorem done (before : List (SendCall × Effect)) :
    AtEach (fun new => DoneAfterSent w.accepted (before ++ new))
      (effects.map fun effect => (call, effect)) := by
  refine atEach_of_forall ?_
  intro entry hentry new requestId result hdone hreset hin
  obtain ⟨e, he, rfl⟩ := List.mem_map.mp hentry
  rcases (h e he).2 requestId result hdone with hown | ⟨-, hout, -⟩
  · exact absurd hown hreset
  · exact absurd hin hout

theorem doneWritten :
    ∀ entry ∈ effects.map (fun effect => (call, effect)), ∀ requestId result,
      entry.2 = .notifyRequestDone requestId result → entry.1.resets ≠ some requestId →
        requestId ∈ w.written := by
  intro entry hentry requestId result hdone hreset
  obtain ⟨e, he, rfl⟩ := List.mem_map.mp hentry
  rcases (h e he).2 requestId result hdone with hown | ⟨-, -, hin⟩
  · exact absurd hown hreset
  · exact hin

end

end Idle

namespace Sending

variable {w : SendRun} {requestId : RequestId} {call : SendCall} {next : Stream}

variable {errorCode : ErrorCode}

section

variable (h : Sending w)
include h

theorem sent_prefix : sentData w.effects <+: entriesData w.accepted := by
  by_cases hreset : w.stream.sendState = some .resetSent
  · exact (h.lost hreset).2.2.1
  · obtain ⟨front, haligned, -⟩ := h.aligned hreset
    exact ⟨_, haligned.total⟩

theorem completed_prefix : w.completed <+: w.accepted.map WriteEntry.requestId := by
  by_cases hreset : w.stream.sendState = some .resetSent
  · exact (h.lost hreset).2.2.2
  · obtain ⟨front, haligned, hids⟩ := h.aligned hreset
    rw [haligned.ids, hids, List.append_assoc]
    exact List.prefix_append _ _

/-- A call that puts nothing on the wire and completes nothing: it leaves
the queue alone, or it gives it up. -/
theorem emit_idle {effects : List Effect} (hidle : Idle w call effects)
    (hkept : next.writeBuffer = w.stream.writeBuffer ∧
        next.writeBufferSize = w.stream.writeBufferSize ∨
      next.writeBuffer = [] ∧ next.writeBufferSize = 0)
    (hmax : next.maxWriteBufferSize = w.stream.maxWriteBufferSize)
    (haligned : next.sendState ≠ some .resetSent → w.stream.sendState ≠ some .resetSent ∧
      next.writeBuffer = w.stream.writeBuffer ∧
      next.pendingWriteRequest = w.stream.pendingWriteRequest)
    (hlost : next.sendState = some .resetSent →
      next.writeBuffer = [] ∧ next.pendingWriteRequest = none)
    (hready : next.sendState = some .ready →
      w.stream.sendState = some .ready ∧ ∀ e ∈ effects, e.endsSending = false) :
    Sending (w.emit call (next, effects)) where
  size := by
    rcases hkept with ⟨hbuf, hsize⟩ | ⟨hbuf, hsize⟩
    · simpa [SendRun.emit, hbuf, hsize] using h.size
    · simp [SendRun.emit, hbuf, hsize]
  sizeBound := by
    rcases hkept with ⟨-, hsize⟩ | ⟨-, hsize⟩
    · simpa [SendRun.emit, hmax, hsize] using h.sizeBound
    · simp [SendRun.emit, hsize]
  finishLast := by
    rcases hkept with ⟨hbuf, -⟩ | ⟨hbuf, -⟩
    · simpa [SendRun.emit, hbuf] using h.finishLast
    · simp [SendRun.emit, hbuf]
  nodup := h.nodup
  acceptedWritten := h.acceptedWritten
  aligned hnext := by
    obtain ⟨hstate, hbuf, hpend⟩ := haligned hnext
    rw [SendRun.effects_emit, sentData_append, hidle.sentData_eq, List.append_nil,
      SendRun.completed_emit, hidle.completions_eq, List.append_nil]
    simp only [SendRun.emit, hbuf, hpend]
    exact h.aligned hstate
  lost hnext := by
    rw [SendRun.effects_emit, sentData_append, hidle.sentData_eq, List.append_nil,
      SendRun.completed_emit, hidle.completions_eq, List.append_nil]
    exact ⟨(hlost hnext).1, (hlost hnext).2, h.sent_prefix, h.completed_prefix⟩
  unended hnext := by
    obtain ⟨hstate, hnew⟩ := hready hnext
    intro e he
    rw [SendRun.effects_emit] at he
    rcases List.mem_append.mp he with he | he
    · exact h.unended hstate e he
    · exact hnew e he
  ended := by
    rw [SendRun.effects_emit, List.pairwise_append]
    exact ⟨h.ended, List.pairwise_of_forall_mem_list fun _ _ e he _ => (hidle e he).1,
      fun _ _ e he _ => (hidle e he).1⟩
  finished := by
    rintro ⟨id, data, hin⟩
    rw [SendRun.effects_emit] at hin ⊢
    rw [sentData_append, hidle.sentData_eq, List.append_nil]
    rcases List.mem_append.mp hin with hin | hin
    · exact h.finished ⟨id, data, hin⟩
    · exact absurd (hidle _ hin).1 (by simp [Effect.isSend])
  done := by
    simp only [SendRun.emit, atEach_append]
    exact ⟨h.done, hidle.done w.trace⟩
  doneWritten entry hentry := by
    rcases List.mem_append.mp hentry with hentry | hentry
    · exact h.doneWritten entry hentry
    · exact hidle.doneWritten entry hentry

/-- Putting the front of the buffer on the wire. -/
theorem emit_send (hready : w.stream.sendState = some .ready) {id : StreamId} {data : Bytes}
    {fin : Bool} (hsize : next.writeBufferSize = (entriesData next.writeBuffer).length)
    (hbound : next.writeBufferSize ≤ next.maxWriteBufferSize)
    (hlast : ∀ entry ∈ next.writeBuffer.dropLast, entry.endStream = false)
    (haligned : ∃ front, Aligned w.accepted next.writeBuffer front (sentData w.effects ++ data) ∧
      front.map WriteEntry.requestId =
        w.completed ++ Stream.inFlight next.pendingWriteRequest next.writeBuffer)
    (hstate : next.sendState = some (if fin then .dataSent else .ready))
    (hfin : fin = true → next.writeBuffer = []) :
    Sending (w.emit call (next, [.sendQuicData id data fin])) where
  size := hsize
  sizeBound := hbound
  finishLast := hlast
  nodup := h.nodup
  acceptedWritten := h.acceptedWritten
  aligned _ := by
    rw [SendRun.completed_emit]
    simpa [SendRun.completions] using haligned
  lost hnext := by
    have hne : next.sendState ≠ some .resetSent := by
      rw [hstate]
      cases fin <;> simp
    exact absurd hnext hne
  unended hnext := by
    have hopen : fin = false := by
      cases fin with
      | false => rfl
      | true => simp [SendRun.emit, hstate] at hnext
    intro e he
    rw [SendRun.effects_emit] at he
    rcases List.mem_append.mp he with he | he
    · exact h.unended hready e he
    · rw [List.mem_singleton.mp he]
      exact hopen
  ended := by
    rw [SendRun.effects_emit, List.pairwise_append]
    refine ⟨h.ended, List.pairwise_singleton _ _, ?_⟩
    intro e he _ _ hends
    exact absurd hends (by simp [h.unended hready e he])
  finished := by
    rintro ⟨id', data', hin⟩
    rw [SendRun.effects_emit] at hin
    rcases List.mem_append.mp hin with hin | hin
    · exact absurd (h.unended hready _ hin) (by simp [Effect.endsSending])
    · -- the buffer is empty behind a finishing write, so everything is on the wire
      obtain ⟨-, -, rfl⟩ := Effect.sendQuicData.inj (List.mem_singleton.mp hin)
      obtain ⟨front, hal, -⟩ := haligned
      have htotal := hal.total
      rw [hfin rfl, entriesData_nil, List.append_nil] at htotal
      simpa using htotal
  done := by
    simp only [SendRun.emit, atEach_append]
    refine ⟨h.done, atEach_of_forall ?_⟩
    intro entry hentry before requestId result hdone
    rw [List.mem_singleton.mp hentry] at hdone
    cases hdone
  doneWritten entry hentry := by
    rcases List.mem_append.mp hentry with hentry | hentry
    · exact h.doneWritten entry hentry
    · intro requestId result hdone
      rw [List.mem_singleton.mp hentry] at hdone
      cases hdone

theorem bufferIds_nodup (hreset : w.stream.sendState ≠ some .resetSent) :
    (w.stream.writeBuffer.map WriteEntry.requestId).Nodup := by
  obtain ⟨front, haligned, -⟩ := h.aligned hreset
  have hnodup := h.nodup
  rw [haligned.ids] at hnodup
  exact hnodup.of_append_right

theorem emit_flush (call : SendCall) (credit : Nat) :
    Sending (w.emit call
      ((w.stream.flushWrites credit).1, (w.stream.flushWrites credit).2.1)) := by
  rcases Stream.flushWrites_cases w.stream credit with heq |
    ⟨entry, rest, hpend, hready, hbuf, ⟨hfit, heq⟩ | ⟨hpos, hlong, heq⟩⟩
  · rw [heq]
    simpa [SendRun.emit] using h
  · have hne : w.stream.sendState ≠ some .resetSent := by simp [hready]
    obtain ⟨front, haligned, hids⟩ := h.aligned hne
    have hnodup := h.bufferIds_nodup hne
    have hsize := h.size
    have hlast := h.finishLast
    rw [hbuf] at haligned hnodup hsize hlast
    rw [hpend, Stream.inFlight_none, List.append_nil] at hids
    have hbound := h.sizeBound
    obtain ⟨whole, hwhole, hadvanced⟩ := haligned.advance
    rw [heq]
    refine h.emit_send hready ?_ ?_ ?_ ⟨front ++ [whole], hadvanced, ?_⟩ rfl ?_
    · simp only [entriesData_cons, List.length_append] at hsize
      show w.stream.writeBufferSize - entry.data.length = (entriesData rest).length
      omega
    · show w.stream.writeBufferSize - entry.data.length ≤ w.stream.maxWriteBufferSize
      omega
    · intro e he
      refine hlast e ?_
      cases rest with
      | nil => cases he
      | cons next rest => exact List.mem_cons_of_mem _ he
    · -- the whole write is in flight, and the next one has another id
      have hflight : Stream.inFlight (some entry.requestId) rest = [entry.requestId] := by
        cases rest with
        | nil => rfl
        | cons next rest =>
          have hnext : next.requestId ≠ entry.requestId := by
            intro hsame
            exact (List.nodup_cons.mp hnodup).1 (by simp [hsame])
          simp [Stream.inFlight_cons, hnext]
      simp [hids, hwhole, hflight]
    · intro hfin
      by_contra hrest
      have hopen := hlast entry (by
        rw [List.dropLast_cons_of_ne_nil hrest]
        exact List.mem_cons_self)
      simp [hfin] at hopen
  · have hne : w.stream.sendState ≠ some .resetSent := by simp [hready]
    obtain ⟨front, haligned, hids⟩ := h.aligned hne
    have hsize := h.size
    have hlast := h.finishLast
    rw [hbuf] at haligned hsize hlast
    rw [hpend, Stream.inFlight_none, List.append_nil] at hids
    have hbound := h.sizeBound
    rw [heq]
    refine h.emit_send hready ?_ ?_ ?_ ⟨front, haligned.advance_part credit, ?_⟩ hready
      (by simp)
    · simp only [entriesData_cons, List.length_append, List.length_drop] at hsize ⊢
      omega
    · show w.stream.writeBufferSize - credit ≤ w.stream.maxWriteBufferSize
      omega
    · intro e he
      cases rest with
      | nil => cases he
      | cons next rest =>
        rcases List.mem_cons.mp he with rfl | he
        · exact hlast entry List.mem_cons_self
        · exact hlast e (List.mem_cons_of_mem _ he)
    · simp [hids, Stream.inFlight_cons]

theorem not_lost_of_pending (hpend : w.stream.pendingWriteRequest = some requestId) :
    w.stream.sendState ≠ some .resetSent := by
  intro hreset
  rw [(h.lost hreset).2.1] at hpend
  cases hpend

/-- A write in flight that the buffer does not continue is the last one that
is on the wire whole. -/
theorem detached_front (hpend : w.stream.pendingWriteRequest = some requestId)
    (hdetached : w.stream.isWriteDetached requestId = true) :
    ∃ earlier write, Aligned w.accepted w.stream.writeBuffer (earlier ++ [write])
        (sentData w.effects) ∧
      earlier.map WriteEntry.requestId = w.completed ∧ write.requestId = requestId := by
  obtain ⟨front, haligned, hids⟩ := h.aligned (h.not_lost_of_pending hpend)
  have hflight : Stream.inFlight w.stream.pendingWriteRequest w.stream.writeBuffer =
      [requestId] := by
    rw [hpend, Stream.inFlight_some, if_pos hdetached]
  rw [hflight] at hids
  rcases List.eq_nil_or_concat' front with rfl | ⟨earlier, write, rfl⟩
  · simp at hids
  · rw [List.map_append, List.map_singleton] at hids
    obtain ⟨hearlier, hwrite⟩ := List.append_inj' hids rfl
    exact ⟨earlier, write, haligned, hearlier, List.singleton_inj.mp hwrite⟩

/-- Completing the write in flight. -/
theorem emit_done (hpend : w.stream.pendingWriteRequest = some requestId)
    (hdetached : w.stream.isWriteDetached requestId = true) (hresets : call.resets = none)
    (hwrites : call.writes = none) :
    Sending (w.emit call ({ w.stream with pendingWriteRequest := none },
      [.notifyRequestDone requestId .none])) := by
  obtain ⟨earlier, write, haligned, hearlier, hwrite⟩ := h.detached_front hpend hdetached
  obtain ⟨later, hlater⟩ := haligned.front_prefix
  have hin : requestId ∈ w.accepted.map WriteEntry.requestId := by
    rw [← hlater, ← hwrite]
    simp
  refine ⟨h.size, h.sizeBound, h.finishLast, h.nodup, h.acceptedWritten, ?_, ?_, ?_, ?_, ?_, ?_,
    ?_⟩
  · intro _
    refine ⟨earlier ++ [write], ?_, ?_⟩
    · simpa using haligned
    · rw [SendRun.completed_emit]
      simp [SendRun.completions, hresets, hwrites, SendRun.emit, hearlier, hwrite]
  · intro hreset
    exact absurd hreset (h.not_lost_of_pending hpend)
  · intro hready e he
    rw [SendRun.effects_emit] at he
    rcases List.mem_append.mp he with he | he
    · exact h.unended hready e he
    · rw [List.mem_singleton.mp he]
      rfl
  · rw [SendRun.effects_emit, List.pairwise_append]
    refine ⟨h.ended, List.pairwise_singleton _ _, ?_⟩
    intro e _ e' he' _
    rw [List.mem_singleton.mp he']
    rfl
  · rintro ⟨id, data, hfin⟩
    rw [SendRun.effects_emit] at hfin
    rcases List.mem_append.mp hfin with hfin | hfin
    · simpa using h.finished ⟨id, data, hfin⟩
    · cases List.mem_singleton.mp hfin
  · simp only [SendRun.emit, atEach_append]
    refine ⟨h.done, atEach_of_forall ?_⟩
    intro entry hentry before r result hdone _ _
    rw [List.mem_singleton.mp hentry] at hdone ⊢
    obtain ⟨rfl, -⟩ := Effect.notifyRequestDone.inj hdone
    refine ⟨by simp [hwrites], earlier, write, later, ?_, hwrite, ?_⟩
    · rw [← hlater, List.append_assoc]
      rfl
    · rw [List.map_append, sentData_append]
      exact haligned.front_sent.trans (List.prefix_append _ _)
  · intro entry hentry
    rcases List.mem_append.mp hentry with hentry | hentry
    · exact h.doneWritten entry hentry
    · intro r result hdone _
      rw [List.mem_singleton.mp hentry] at hdone
      obtain ⟨rfl, -⟩ := Effect.notifyRequestDone.inj hdone
      exact h.acceptedWritten _ hin

/-- A write sent in part goes on: it is at the front of the buffer. -/
theorem emit_continue (hpend : w.stream.pendingWriteRequest = some requestId)
    (hattached : w.stream.isWriteDetached requestId = false) :
    Sending (w.emit call ({ w.stream with pendingWriteRequest := none }, [])) := by
  have hflight : Stream.inFlight w.stream.pendingWriteRequest w.stream.writeBuffer = [] := by
    rw [hpend, Stream.inFlight_some, hattached]
    rfl
  have hne := h.not_lost_of_pending hpend
  obtain ⟨front, haligned, hids⟩ := h.aligned hne
  rw [hflight] at hids
  have hemit : w.emit call ({ w.stream with pendingWriteRequest := none }, []) =
      { w with stream := { w.stream with pendingWriteRequest := none } } := by
    simp [SendRun.emit]
  rw [hemit]
  exact { h with
    aligned := fun _ => ⟨front, haligned, hids⟩
    lost := fun hreset => absurd hreset hne }

/-- The write in flight is an accepted one. -/
theorem pending_accepted (hpend : w.stream.pendingWriteRequest = some requestId) :
    requestId ∈ w.accepted.map WriteEntry.requestId := by
  obtain ⟨front, haligned, hids⟩ := h.aligned (h.not_lost_of_pending hpend)
  rw [haligned.ids, hids, hpend]
  cases hbuf : w.stream.writeBuffer with
  | nil => simp
  | cons entry rest =>
    by_cases hsame : entry.requestId = requestId <;> simp [Stream.inFlight_cons, hsame]

/-- Appending a write with a new id. -/
theorem accept (entry : WriteEntry) (hfresh : entry.requestId ∉ w.written)
    (hready : w.stream.sendState = some .ready) (hopen : w.stream.isFinishPending = false)
    (hfits : w.stream.writeBufferSize + entry.data.length ≤ w.stream.maxWriteBufferSize) :
    Sending { w with
      stream := w.stream.enqueueWrite entry
      accepted := w.accepted ++ [entry]
      written := w.written ++ [entry.requestId] } where
  size := by simp [Stream.enqueueWrite, h.size]
  sizeBound := hfits
  finishLast e he := by
    rw [Stream.enqueueWrite, List.dropLast_concat] at he
    exact Stream.endStream_of_not_isFinishPending h.finishLast hopen he
  nodup := by
    rw [List.map_append]
    exact h.nodup.append (List.nodup_singleton _) (by
      intro r hr hr'
      rw [List.map_singleton, List.mem_singleton] at hr'
      exact hfresh (hr' ▸ h.acceptedWritten r hr))
  acceptedWritten r hr := by
    rw [List.map_append, List.mem_append] at hr
    rw [List.mem_append]
    exact hr.imp (h.acceptedWritten r) (by simp)
  aligned _ := by
    obtain ⟨front, haligned, hids⟩ := h.aligned (by simp [hready])
    refine ⟨front, haligned.append entry, ?_⟩
    have hpend : w.stream.pendingWriteRequest ≠ some entry.requestId := by
      intro hpend
      exact hfresh (h.acceptedWritten _ (h.pending_accepted hpend))
    rw [hids]
    simp only [Stream.enqueueWrite, Stream.inFlight_append hpend]
    rfl
  lost hreset := by simp [Stream.enqueueWrite, hready] at hreset
  unended _ := h.unended hready
  ended := h.ended
  finished := by
    rintro ⟨id, data, hfin⟩
    exact absurd (h.unended hready _ hfin) (by simp [Effect.endsSending])
  done := by
    -- no earlier answer is about the new id, so the earlier answers stand
    refine h.done.mono ?_
    intro before e he hdone requestId result heq hreset hin
    have hold : requestId ∈ w.accepted.map WriteEntry.requestId := by
      rw [List.map_append, List.mem_append] at hin
      refine hin.resolve_right ?_
      intro hnew
      rw [List.map_singleton, List.mem_singleton] at hnew
      exact hfresh (hnew ▸ h.doneWritten e he requestId result heq hreset)
    obtain ⟨hcall, earlier, write, later, hacc, hid, hsent⟩ := hdone requestId result heq hreset hold
    exact ⟨hcall, earlier, write, later ++ [entry], by simp [hacc], hid, hsent⟩
  doneWritten e he requestId result heq hreset :=
    List.mem_append_left _ (h.doneWritten e he requestId result heq hreset)

/-- Noting the id of a write that is refused. -/
theorem note (requestIds : List RequestId) :
    Sending { w with written := w.written ++ requestIds } :=
  { h with
    acceptedWritten := fun r hr => List.mem_append_left _ (h.acceptedWritten r hr)
    doneWritten := fun e he requestId result heq hreset =>
      List.mem_append_left _ (h.doneWritten e he requestId result heq hreset) }

/-! ### Calls -/

/-- A call that leaves the sending side alone. -/
theorem emit_apart {next : Stream × List Effect} (hidle : Idle w call next.2)
    (hends : ∀ e ∈ next.2, e.endsSending = false) (hstate : next.1.sendState = w.stream.sendState)
    (hbuf : next.1.writeBuffer = w.stream.writeBuffer)
    (hsize : next.1.writeBufferSize = w.stream.writeBufferSize)
    (hmax : next.1.maxWriteBufferSize = w.stream.maxWriteBufferSize)
    (hpend : next.1.pendingWriteRequest = w.stream.pendingWriteRequest) :
    Sending (w.emit call next) := by
  refine h.emit_idle hidle (Or.inl ⟨hbuf, hsize⟩) hmax ?_ ?_ ?_
  · intro hne
    exact ⟨hstate ▸ hne, hbuf, hpend⟩
  · intro hreset
    obtain ⟨hempty, hnone, -⟩ := h.lost (hstate ▸ hreset)
    exact ⟨hbuf.trans hempty, hpend.trans hnone⟩
  · intro hready
    exact ⟨hstate ▸ hready, hends⟩

theorem emit_sendReset (call : SendCall) (errorCode : Option ErrorCode)
    (http : ErrorCode) : Sending (w.emit call (w.stream.sendReset errorCode http)) := by
  have hidle : Idle w call (w.stream.sendReset errorCode http).2 := by
    intro e he
    rcases w.stream.sendReset_effects e he with rfl | ⟨r, rfl⟩ <;>
      exact ⟨rfl, fun _ _ heq => nomatch heq⟩
  unfold Stream.sendReset at hidle ⊢
  split at hidle
  · rw [if_pos (by assumption)]
    exact h.emit_apart hidle (by simp) rfl rfl rfl rfl rfl
  · rw [if_neg (by assumption)]
    exact h.emit_idle hidle (Or.inr ⟨rfl, rfl⟩) rfl (fun hne => absurd rfl hne)
      (fun _ => ⟨rfl, rfl⟩) (fun hready => nomatch hready)

theorem emit_sendStop (call : SendCall) (errorCode : Option ErrorCode)
    (http : ErrorCode) : Sending (w.emit call (w.stream.sendStop errorCode http)) := by
  have heach := w.stream.sendStop_effects errorCode http
  refine h.emit_apart ?_ ?_ ?_ ?_ ?_ ?_ ?_
  · intro e he
    rcases heach e he with rfl | ⟨r, rfl⟩ <;> exact ⟨rfl, fun _ _ heq => nomatch heq⟩
  · intro e he
    rcases heach e he with rfl | ⟨r, rfl⟩ <;> rfl
  all_goals
    unfold Stream.sendStop
    split <;> rfl

theorem emit_abort (call : SendCall) (errorCode : ErrorCode) :
    Sending (w.emit call (w.stream.abort errorCode)) := by
  have hstop := (h.emit_sendReset call (some errorCode) errorCode).emit_sendStop call
    (some errorCode) errorCode
  rw [SendRun.emit_emit] at hstop
  exact hstop

theorem emit_recvStopSending :
    Sending (w.emit call (w.stream.recvStopSending errorCode)) := by
  unfold Stream.recvStopSending
  split
  · exact h.emit_apart (by simp [Idle]) (by simp) rfl rfl rfl rfl rfl
  · have hevent : Sending (w.emit call (w.stream, [.emitStreamEvent w.stream.id
        .streamStopSendingReceived none none none (httpCodeToWebtransportCode errorCode)])) := by
      refine h.emit_apart ?_ ?_ rfl rfl rfl rfl rfl
      · exact List.forall_mem_singleton.mpr ⟨rfl, fun _ _ heq => nomatch heq⟩
      · exact List.forall_mem_singleton.mpr rfl
    have hreset := hevent.emit_sendReset call (httpCodeToWebtransportCode errorCode) errorCode
    rw [SendRun.emit_emit] at hreset
    exact hreset

/-- The answer of a call to its own request. -/
theorem emit_answer (call : SendCall) (effect : Effect) (hends : effect.endsSending = false)
    (hidle : Idle w call [effect]) : Sending (w.emit call (w.stream, [effect])) := by
  refine h.emit_apart hidle ?_ rfl rfl rfl rfl rfl
  exact List.forall_mem_singleton.mpr hends

theorem emit_reset :
    Sending (w.emit (.reset requestId errorCode) (w.stream.reset requestId errorCode)) := by
  have hown : ∀ w' : SendRun, Idle w' (.reset requestId errorCode)
      [.notifyRequestDone requestId .none] := by
    intro w' e he
    rw [List.mem_singleton.mp he]
    refine ⟨rfl, ?_⟩
    intro r result heq
    obtain ⟨rfl, -⟩ := Effect.notifyRequestDone.inj heq
    exact Or.inl rfl
  unfold Stream.reset
  split
  · refine h.emit_answer _ _ rfl ?_
    exact List.forall_mem_singleton.mpr ⟨rfl, fun _ _ heq => nomatch heq⟩
  · split
    · exact h.emit_answer _ _ rfl (hown w)
    · have hreset := h.emit_sendReset (.reset requestId errorCode) (some errorCode)
        (Stream.toHttpErrorCode errorCode)
      have hdone := hreset.emit_answer _ (.notifyRequestDone requestId .none) rfl (hown _)
      rw [SendRun.emit_emit] at hdone
      exact hdone

theorem emit_completeWrite (hresets : call.resets = none)
    (hwrites : call.writes = none) {credit : Nat} :
    Sending (w.emit call
      ((w.stream.completeWrite credit).1, (w.stream.completeWrite credit).2.1)) := by
  unfold Stream.completeWrite
  split
  · simpa [SendRun.emit] using h
  · rename_i requestId hpend
    have hdetach : Sending (w.emit call ({ w.stream with pendingWriteRequest := none },
        if w.stream.isWriteDetached requestId then [.notifyRequestDone requestId .none]
        else [])) := by
      cases hdetached : w.stream.isWriteDetached requestId with
      | true => exact h.emit_done hpend hdetached hresets hwrites
      | false => exact h.emit_continue hpend hdetached
    have hflush := hdetach.emit_flush call credit
    rw [SendRun.emit_emit] at hflush
    exact hflush

theorem emit_handleDataAcknowledged :
    Sending (w.emit call (w.stream.handleDataAcknowledged, [])) := by
  unfold Stream.handleDataAcknowledged
  split
  · rename_i hsent
    exact h.emit_idle (by simp [Idle]) (Or.inl ⟨rfl, rfl⟩) rfl
      (fun _ => ⟨by simp [hsent], rfl, rfl⟩) (fun hreset => nomatch hreset)
      (fun hready => nomatch hready)
  · exact h.emit_apart (by simp [Idle]) (by simp) rfl rfl rfl rfl rfl

end

end Sending

/-- A write is appended and the buffer flushed, or it is refused. -/
theorem Stream.write_cases (s : Stream) (requestId : RequestId) (data : Bytes) (endStream : Bool)
    (credit : Nat) :
    (s.takesWrite data = true ∧ s.write requestId data endStream credit =
      (s.enqueueWrite ⟨data, requestId, endStream⟩).flushWrites credit) ∨
    (s.takesWrite data = false ∧ ∃ effect, s.write requestId data endStream credit =
      (s, [effect], 0) ∧
        (effect = .notifyRequestDone requestId .none ∨
          ∃ reason, effect = failInvalid requestId reason)) := by
  cases htakes : s.takesWrite data with
  | true =>
    simp only [takesWrite, Bool.and_eq_true, decide_eq_true_eq, Bool.not_eq_true'] at htakes
    obtain ⟨⟨hready, hopen⟩, hfits⟩ := htakes
    refine Or.inl ⟨rfl, ?_⟩
    simp only [write, hready, hopen]
    rw [if_neg (by simp), if_neg (by simp), if_neg (by omega)]
  | false =>
    refine Or.inr ⟨rfl, ?_⟩
    unfold write
    split
    · exact ⟨_, rfl, Or.inr ⟨_, rfl⟩⟩
    · split
      · split
        · exact ⟨_, rfl, Or.inl rfl⟩
        · exact ⟨_, rfl, Or.inr ⟨_, rfl⟩⟩
      · split
        · exact ⟨_, rfl, Or.inr ⟨_, rfl⟩⟩
        · rename_i hready hfits
          simp only [Bool.or_eq_true, decide_eq_true_eq, not_or, not_not,
            Bool.not_eq_true] at hready
          simp [takesWrite, hready.1, hready.2] at htakes
          omega

/-- A call that is no write only moves the stream on. -/
theorem SendRun.step_eq_emit {call : SendCall} (hwrites : call.writes = none) :
    w.step call = w.emit call (w.stream.send call) := by
  have haccepts : w.stream.accepts call = none := by
    cases call <;> first | rfl | cases hwrites
  simp [step, emit, hwrites, haccepts]

theorem Sending.step_write (h : Sending w) (requestId : RequestId) (data : Bytes)
    (endStream : Bool) (credit : Nat) (hfresh : requestId ∉ w.written) :
    Sending (w.step (.write requestId data endStream credit)) := by
  rcases w.stream.write_cases requestId data endStream credit with
    ⟨htakes, heq⟩ | ⟨htakes, effect, heq, hanswer⟩
  · have hopen := htakes
    simp only [Stream.takesWrite, Bool.and_eq_true, decide_eq_true_eq, Bool.not_eq_true'] at hopen
    obtain ⟨⟨hready, hopen⟩, hfits⟩ := hopen
    have hflush := (h.accept ⟨data, requestId, endStream⟩ hfresh hready hopen hfits).emit_flush
      (.write requestId data endStream credit) credit
    simpa [SendRun.step, Stream.send, Stream.accepts, htakes, heq, SendRun.emit, SendCall.writes]
      using hflush
  · have hrefused := (h.note [requestId]).emit_answer (.write requestId data endStream credit)
      effect (by rcases hanswer with rfl | ⟨reason, rfl⟩ <;> rfl) (by
        intro e he
        rw [List.mem_singleton.mp he]
        rcases hanswer with rfl | ⟨reason, rfl⟩
        · refine ⟨rfl, ?_⟩
          intro r result hdone
          obtain ⟨rfl, -⟩ := Effect.notifyRequestDone.inj hdone
          exact Or.inr ⟨rfl, fun hin => hfresh (h.acceptedWritten _ hin), by simp⟩
        · exact ⟨rfl, fun _ _ hdone => nomatch hdone⟩)
    simpa [SendRun.step, Stream.send, Stream.accepts, htakes, heq, SendRun.emit, SendCall.writes]
      using hrefused

/-- What one call preserves. -/
theorem Sending.step {w : SendRun} (h : Sending w) (call : SendCall) (hallows : w.Allows call) :
    Sending (w.step call) := by
  cases call with
  | write requestId data endStream credit =>
    exact h.step_write requestId data endStream credit (hallows requestId rfl)
  | flushWrites credit =>
    rw [SendRun.step_eq_emit rfl]
    exact h.emit_flush _ credit
  | completeWrite credit =>
    rw [SendRun.step_eq_emit rfl]
    exact h.emit_completeWrite rfl rfl
  | reset requestId errorCode =>
    rw [SendRun.step_eq_emit rfl]
    exact h.emit_reset
  | recvStopSending errorCode =>
    rw [SendRun.step_eq_emit rfl]
    exact h.emit_recvStopSending
  | abort errorCode =>
    rw [SendRun.step_eq_emit rfl]
    exact h.emit_abort _ errorCode
  | handleDataAcknowledged =>
    rw [SendRun.step_eq_emit rfl]
    exact h.emit_handleDataAcknowledged

theorem sending_start {sessionId : SessionId} {direction : StreamDirection}
    {isPeerInitiated : Bool} {parameters : StreamParameters} {createdAt : Timestamp} :
    Sending (.start (.new id sessionId direction isPeerInitiated parameters createdAt)) where
  size := rfl
  sizeBound := Nat.zero_le _
  finishLast := by simp [SendRun.start, Stream.new]
  nodup := List.nodup_nil
  acceptedWritten := by simp [SendRun.start]
  aligned _ := ⟨[], ⟨rfl, rfl⟩, rfl⟩
  lost hreset := by
    simp only [SendRun.start, Stream.new] at hreset
    split at hreset <;> cases hreset
  unended := by simp [SendRun.start, SendRun.effects]
  ended := List.Pairwise.nil
  finished := by simp [SendRun.start, SendRun.effects]
  done := atEach_nil _
  doneWritten := by simp [SendRun.start]

/-- What a whole run preserves. -/
theorem Sending.of_run {w' : SendRun} (h : Sending w)
    (hrun : Relation.ReflTransGen SendRun.Step w w') : Sending w' := by
  induction hrun with
  | refl => exact h
  | tail _ hstep ih =>
    obtain ⟨call, hallows, rfl⟩ := hstep
    exact ih.step call hallows

/-! ## Credit and the size of the buffer -/

namespace Stream

variable {errorCode : ErrorCode}

theorem flushWrites_sentData (s : Stream) (credit : Nat) :
    (sentData (s.flushWrites credit).2.1).length = (s.flushWrites credit).2.2 ∧
      (s.flushWrites credit).2.2 ≤ credit := by
  rcases flushWrites_cases s credit with heq |
    ⟨entry, rest, -, -, -, ⟨hfit, heq⟩ | ⟨hpos, hlong, heq⟩⟩ <;> rw [heq]
  · exact ⟨rfl, Nat.zero_le _⟩
  · exact ⟨by simp, hfit⟩
  · refine ⟨?_, Nat.le_refl _⟩
    rw [sentData_send, List.length_take]
    exact Nat.min_eq_left (Nat.le_of_lt hlong)

/-- What a flush takes from the size of the buffer was counted in it. -/
theorem flushWrites_sent_le {s : Stream}
    (hsize : s.writeBufferSize = (entriesData s.writeBuffer).length) (credit : Nat) :
    (s.flushWrites credit).2.2 ≤ s.writeBufferSize := by
  rcases flushWrites_cases s credit with heq |
    ⟨entry, rest, -, -, hbuf, ⟨hfit, heq⟩ | ⟨hpos, hlong, heq⟩⟩ <;> rw [heq]
  · exact Nat.zero_le _
  all_goals
    rw [hbuf, entriesData_cons, List.length_append] at hsize
    dsimp only
    omega

theorem sendReset_no_send (s : Stream) {errorCode : Option ErrorCode} {http : ErrorCode} :
    ∀ e ∈ (s.sendReset errorCode http).2, e.isSend = false := by
  intro e he
  rcases s.sendReset_effects e he with rfl | ⟨r, rfl⟩ <;> rfl

theorem abort_no_send (s : Stream) : ∀ e ∈ (s.abort errorCode).2, e.isSend = false := by
  refine List.forall_mem_append.mpr ⟨s.sendReset_no_send, fun e he => ?_⟩
  rcases sendStop_effects _ _ _ e he with rfl | ⟨r, rfl⟩ <;> rfl

theorem reset_no_send (s : Stream) {requestId : RequestId} :
    ∀ e ∈ (s.reset requestId errorCode).2, e.isSend = false := by
  unfold reset
  split
  · exact List.forall_mem_singleton.mpr rfl
  · split
    · exact List.forall_mem_singleton.mpr rfl
    · exact List.forall_mem_append.mpr
        ⟨s.sendReset_no_send, List.forall_mem_singleton.mpr rfl⟩

theorem recvStopSending_no_send (s : Stream) :
    ∀ e ∈ (s.recvStopSending errorCode).2, e.isSend = false := by
  unfold recvStopSending
  split
  · exact List.forall_mem_nil _
  · exact List.forall_mem_append.mpr
      ⟨List.forall_mem_singleton.mpr rfl, s.sendReset_no_send⟩

/-- No call sends more than its credit. -/
theorem send_le_credit (s : Stream) (call : SendCall) :
    (sentData (s.send call).2).length ≤ call.availableCredit := by
  cases call with
  | write requestId data endStream credit =>
    rcases s.write_cases requestId data endStream credit with ⟨-, heq⟩ | ⟨-, effect, heq, hanswer⟩
    · have hflush := flushWrites_sentData (s.enqueueWrite ⟨data, requestId, endStream⟩) credit
      simp only [send, heq]
      exact hflush.1 ▸ hflush.2
    · simp only [send, heq]
      rcases hanswer with rfl | ⟨reason, rfl⟩ <;> exact Nat.zero_le _
  | flushWrites credit =>
    have hflush := flushWrites_sentData s credit
    exact hflush.1.trans_le hflush.2
  | completeWrite credit =>
    simp only [send, completeWrite]
    split
    · exact Nat.zero_le _
    · have hflush := flushWrites_sentData { s with pendingWriteRequest := none } credit
      rw [sentData_append, List.length_append]
      have hdone : ∀ c : Prop, [Decidable c] → ∀ r,
          (sentData (if c then [Effect.notifyRequestDone r .none] else [])).length = 0 := by
        intro c _ r
        split <;> rfl
      rw [hdone, Nat.zero_add]
      exact hflush.1.trans_le hflush.2
  | reset requestId errorCode =>
    rw [send, sentData_of_no_send s.reset_no_send]
    exact Nat.zero_le _
  | recvStopSending errorCode =>
    rw [send, sentData_of_no_send s.recvStopSending_no_send]
    exact Nat.zero_le _
  | abort errorCode =>
    rw [send, sentData_of_no_send s.abort_no_send]
    exact Nat.zero_le _
  | handleDataAcknowledged => exact Nat.zero_le _

end Stream

/-! ## Whole runs -/

namespace SendRun

theorem writeBufferSize_eq_sum {entries : List WriteEntry} :
    (entriesData entries).length = (entries.map fun entry => entry.data.length).sum := by
  induction entries with
  | nil => rfl
  | cons entry rest ih => rw [entriesData_cons, List.length_append, ih, List.map_cons, List.sum_cons]

/-- The sending side of a stream, along every run: the bytes on the wire are
a prefix of the accepted ones; no call exceeds its credit; the end of the
stream is sent with or behind the last accepted byte, and nothing is sent
behind it or behind a reset; accepted writes are completed in order, each
behind its last byte; and the size of the buffer is what it says it is, so
that taking from it never underflows. -/
theorem send_path_exact (id : StreamId) (sessionId : SessionId) (direction : StreamDirection)
    ( isPeerInitiated : Bool) (parameters : StreamParameters) (createdAt : Timestamp) (w : SendRun)
    (hrun : Relation.ReflTransGen Step
      (.start (.new id sessionId direction isPeerInitiated parameters createdAt)) w) :
    sentData w.effects <+: entriesData w.accepted ∧
    (∀ call, (sentData (w.stream.send call).2).length ≤ call.availableCredit) ∧
    (∀ before streamId data after,
      w.effects = before ++ .sendQuicData streamId data true :: after →
        sentData before ++ data = entriesData w.accepted ∧ ∀ e ∈ after, e.isSend = false) ∧
    (∀ before streamId errorCode after,
      w.effects = before ++ .resetQuicStream streamId errorCode :: after →
        ∀ e ∈ after, e.isSend = false) ∧
    AtEach (DoneAfterSent w.accepted) w.trace ∧
    w.completed <+: w.accepted.map WriteEntry.requestId ∧
    w.stream.writeBufferSize = (w.stream.writeBuffer.map fun entry => entry.data.length).sum ∧
    w.stream.writeBufferSize ≤ w.stream.maxWriteBufferSize ∧
    (∀ credit entry,
      (w.stream.flushWrites credit).2.2 ≤ w.stream.writeBufferSize ∧
      ({ w.stream with pendingWriteRequest := none }.flushWrites credit).2.2 ≤
        w.stream.writeBufferSize ∧
      ((w.stream.enqueueWrite entry).flushWrites credit).2.2 ≤
        (w.stream.enqueueWrite entry).writeBufferSize) := by
  have h := sending_start.of_run hrun
  refine ⟨h.sent_prefix, w.stream.send_le_credit, ?_, ?_, h.done, h.completed_prefix,
    h.size.trans writeBufferSize_eq_sum, h.sizeBound, ?_⟩
  · intro before streamId data after hsplit
    have hafter : ∀ e ∈ after, e.isSend = false := by
      have hended := h.ended
      rw [hsplit, List.pairwise_append] at hended
      intro e he
      exact (List.pairwise_cons.mp hended.2.1).1 e he rfl
    have hall := h.finished ⟨streamId, data, by simp [hsplit]⟩
    rw [hsplit, ← List.singleton_append, sentData_append, sentData_append, sentData_send,
      sentData_of_no_send hafter, List.append_nil] at hall
    exact ⟨hall, hafter⟩
  · intro before streamId errorCode after hsplit e he
    have hended := h.ended
    rw [hsplit, List.pairwise_append] at hended
    exact (List.pairwise_cons.mp hended.2.1).1 e he rfl
  · intro credit entry
    refine ⟨Stream.flushWrites_sent_le h.size credit,
      Stream.flushWrites_sent_le (s := { w.stream with pendingWriteRequest := none }) h.size credit,
      Stream.flushWrites_sent_le ?_ credit⟩
    simp [Stream.enqueueWrite, h.size]

/-- Three bytes with the end of the stream, sent in two pieces. -/
def splitWrite : SendRun :=
  ((start (.new 4 0 .bidirectional false ⟨10⟩ 0)).step (.write 1 [7, 8, 9] true 2)).step
    (.completeWrite 5) |>.step (.completeWrite 0)

theorem send_path_exact_splitWrite :
    splitWrite.effects = [.sendQuicData 4 [7, 8] false, .sendQuicData 4 [9] true,
      .notifyRequestDone 1 .none] ∧
    splitWrite.completed <+: splitWrite.accepted.map WriteEntry.requestId := by
  refine ⟨by decide, ?_⟩
  have hrun : Relation.ReflTransGen Step (start (.new 4 0 .bidirectional false ⟨10⟩ 0))
      splitWrite :=
    ((Relation.ReflTransGen.single ⟨.write 1 [7, 8, 9] true 2, by simp [Allows, start], rfl⟩).tail
      ⟨.completeWrite 5, by simp [Allows, SendCall.writes], rfl⟩).tail
        ⟨.completeWrite 0, by simp [Allows, SendCall.writes], rfl⟩
  exact (send_path_exact 4 0 .bidirectional false ⟨10⟩ 0 splitWrite hrun).2.2.2.2.2.1

end SendRun

end PyWebTransport

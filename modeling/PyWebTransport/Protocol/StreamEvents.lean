/-
PyWebTransport.Protocol.StreamEvents — what the methods of a stream say to
the outside: every effect is about the stream itself or about a request, and
a stream reports a reset or a stop of the peer once, when it ends the side
it is about.
-/
import PyWebTransport.Protocol.StreamReceive

namespace PyWebTransport

namespace Effect

/-- Whether an effect is an event of a stream. -/
def isStreamEvent : Effect → Bool
  | .emitStreamEvent .. => true
  | _ => false

/-- Whether an effect of a stream's method is about the stream with this id
or about a request. -/
def isOwn (streamId : StreamId) : Effect → Bool
  | .notifyRequestDone .. | .notifyRequestFailed .. => true
  | .receiveQuicData k _ | .stopQuicStream k _ | .resetQuicStream k _ => k = streamId
  | .sendQuicData k _ _ => k = streamId
  | .emitStreamEvent k eventType _ _ _ _ => k = streamId &&
      (eventType = .streamResetReceived || eventType = .streamStopSendingReceived)
  | _ => false

end Effect

/-- Effects of the stream with this id that are no events of it. -/
def Eventless (streamId : StreamId) (effects : List Effect) : Prop :=
  ∀ e ∈ effects, e.isOwn streamId = true ∧ e.isStreamEvent = false

namespace Eventless

variable {streamId : StreamId} {effects more : List Effect}

theorem nil : Eventless streamId [] := by
  intro e he
  cases he

theorem singleton {e : Effect} (hown : e.isOwn streamId = true) (hevent : e.isStreamEvent = false) :
    Eventless streamId [e] := by
  intro e' he'
  rw [List.mem_singleton.mp he']
  exact ⟨hown, hevent⟩

theorem append (h : Eventless streamId effects) (hmore : Eventless streamId more) :
    Eventless streamId (effects ++ more) := by
  exact List.forall_mem_append.mpr ⟨h, hmore⟩

theorem map {α : Type} {f : α → Effect} {l : List α}
    (h : ∀ x, (f x).isOwn streamId = true ∧ (f x).isStreamEvent = false) :
    Eventless streamId (l.map f) := by
  intro e he
  obtain ⟨x, -, rfl⟩ := List.mem_map.mp he
  exact h x

theorem ite {c : Prop} [Decidable c] (h : Eventless streamId effects) (hmore : Eventless streamId more) :
    Eventless streamId (if c then effects else more) := by
  split
  · exact h
  · exact hmore

end Eventless

namespace Stream

variable {errorCode : Option ErrorCode} {http : ErrorCode} {credit : Nat} {requestId : RequestId}
  {data : Bytes} {endStream : Bool}

/-! ## The sending side -/

theorem silent_sendReset (s : Stream) : Eventless s.id (s.sendReset errorCode http).2 := by
  intro e he
  rcases s.sendReset_effects e he with rfl | ⟨r, rfl⟩ <;>
    simp [Effect.isOwn, Effect.isStreamEvent, failAborted]

theorem silent_sendStop (s : Stream) : Eventless s.id (s.sendStop errorCode http).2 := by
  intro e he
  rcases s.sendStop_effects errorCode http e he with rfl | ⟨r, rfl⟩ <;>
    simp [Effect.isOwn, Effect.isStreamEvent, failAborted]

theorem silent_flushWrites (s : Stream) (credit : Nat) :
    Eventless s.id (s.flushWrites credit).2.1 := by
  rcases flushWrites_cases s credit with heq |
    ⟨entry, rest, -, -, -, ⟨-, heq⟩ | ⟨-, -, heq⟩⟩ <;> rw [heq]
  · exact Eventless.nil
  · exact Eventless.singleton (by simp [Effect.isOwn]) rfl
  · exact Eventless.singleton (by simp [Effect.isOwn]) rfl

theorem silent_completeWrite (s : Stream) : Eventless s.id (s.completeWrite credit).2.1 := by
  unfold completeWrite
  split
  · exact Eventless.nil
  · exact Eventless.append (Eventless.ite (Eventless.singleton rfl rfl) Eventless.nil)
      (silent_flushWrites { s with pendingWriteRequest := none } credit)

theorem silent_write (s : Stream) :
    Eventless s.id (s.write requestId data endStream credit).2.1 := by
  rcases s.write_cases requestId data endStream credit with ⟨-, heq⟩ | ⟨-, effect, heq, hanswer⟩ <;>
    rw [heq]
  · exact silent_flushWrites (s.enqueueWrite ⟨data, requestId, endStream⟩) credit
  · rcases hanswer with rfl | ⟨reason, rfl⟩ <;> exact Eventless.singleton rfl rfl

theorem id_sendReset (s : Stream) : (s.sendReset errorCode http).1.id = s.id := by
  unfold sendReset
  split <;> rfl

theorem silent_abort (s : Stream) {errorCode : ErrorCode} :
    Eventless s.id (s.abort errorCode).2 := by
  refine Eventless.append s.silent_sendReset ?_
  rw [← s.id_sendReset]
  exact silent_sendStop _

theorem silent_reset (s : Stream) (requestId : RequestId) (errorCode : ErrorCode) :
    Eventless s.id (s.reset requestId errorCode).2 := by
  unfold reset
  split
  · exact Eventless.singleton rfl rfl
  · split
    · exact Eventless.singleton rfl rfl
    · exact s.silent_sendReset.append (Eventless.singleton rfl rfl)

/-! ## The receiving side -/

theorem silent_read (s : Stream) (requestId : RequestId) (maxSize : Nat) :
    Eventless s.id (s.read requestId maxSize).2 := by
  unfold read
  split
  · exact Eventless.singleton rfl rfl
  · split
    · exact Eventless.ite (Eventless.singleton (by simp [Effect.isOwn]) rfl) Eventless.nil
    · exact Eventless.singleton rfl rfl
  · exact Eventless.singleton rfl rfl
  · exact Eventless.singleton rfl rfl
  · exact Eventless.singleton rfl rfl

theorem silent_recvData (s : Stream) : Eventless s.id (s.recvData data endStream).2 := by
  have hdeliver : Eventless s.id (s.deliverRead data endStream).2 := by
    unfold deliverRead
    split
    · exact Eventless.nil
    · exact Eventless.singleton rfl rfl
  unfold recvData
  split
  · exact Eventless.nil
  · dsimp only
    split
    · exact hdeliver.append (Eventless.map fun _ => ⟨rfl, rfl⟩)
    · exact hdeliver.append (Eventless.map fun _ => ⟨by simp [Effect.isOwn], rfl⟩)

theorem silent_stop (s : Stream) (requestId : RequestId) (errorCode : ErrorCode) :
    Eventless s.id (s.stop requestId errorCode).2 := by
  unfold stop
  split
  · exact Eventless.singleton rfl rfl
  · split
    · exact Eventless.singleton rfl rfl
    · exact s.silent_sendStop.append (Eventless.singleton rfl rfl)

/-- A reset of the peer is reported when it ends the receiving side. -/
theorem recvReset_cases (s : Stream) {errorCode : ErrorCode} :
    s.recvReset errorCode = (s, []) ∨
      s.isReceiveTerminated = false ∧ (s.recvReset errorCode).1.isReceiveTerminated = true ∧
      ∃ rest, (s.recvReset errorCode).2 =
          .emitStreamEvent s.id .streamResetReceived none none none
            (httpCodeToWebtransportCode errorCode) :: rest ∧ Eventless s.id rest := by
  unfold recvReset
  split
  · exact Or.inl rfl
  · rename_i hterm
    exact Or.inr ⟨by simpa using hterm, rfl, _, rfl, Eventless.map fun _ => ⟨rfl, rfl⟩⟩

/-- A stop of the peer is reported when it ends the sending side. -/
theorem recvStopSending_cases (s : Stream) {errorCode : ErrorCode} :
    s.recvStopSending errorCode = (s, []) ∨
      s.isSendTerminated = false ∧ (s.recvStopSending errorCode).1.isSendTerminated = true ∧
      ∃ rest, (s.recvStopSending errorCode).2 =
          .emitStreamEvent s.id .streamStopSendingReceived none none none
            (httpCodeToWebtransportCode errorCode) :: rest ∧ Eventless s.id rest := by
  unfold recvStopSending
  split
  · exact Or.inl rfl
  · rename_i hterm
    exact Or.inr ⟨by simpa using hterm, s.isSendTerminated_sendReset, _, rfl,
      s.silent_sendReset⟩

/-! ## All calls -/

/-- What a call says: nothing about the stream, or that the peer has reset
or stopped it, which ends the side it is about. -/
theorem receive_cases (s : Stream) {call : ReceiveCall} :
    Eventless s.id (s.receive call).2 ∨
      (∃ code rest, (s.receive call).2 =
          .emitStreamEvent s.id .streamResetReceived none none none code :: rest ∧
        Eventless s.id rest ∧ s.isReceiveTerminated = false ∧
        (s.receive call).1.isReceiveTerminated = true) ∨
      (∃ code rest, (s.receive call).2 =
          .emitStreamEvent s.id .streamStopSendingReceived none none none code :: rest ∧
        Eventless s.id rest ∧ s.isSendTerminated = false ∧
        (s.receive call).1.isSendTerminated = true) := by
  cases call with
  | read requestId maxSize => exact Or.inl (s.silent_read requestId maxSize)
  | recvData data endStream => exact Or.inl s.silent_recvData
  | recvReset errorCode =>
    rcases s.recvReset_cases with heq | ⟨hbefore, hafter, rest, heq, hrest⟩
    · exact Or.inl (by rw [receive, heq]; exact Eventless.nil)
    · exact Or.inr (Or.inl ⟨_, rest, heq, hrest, hbefore, hafter⟩)
  | stop requestId errorCode => exact Or.inl (s.silent_stop requestId errorCode)
  | send call =>
    cases call with
    | write requestId data endStream credit =>
      exact Or.inl s.silent_write
    | flushWrites credit => exact Or.inl (s.silent_flushWrites credit)
    | completeWrite credit => exact Or.inl s.silent_completeWrite
    | reset requestId errorCode => exact Or.inl (s.silent_reset requestId errorCode)
    | recvStopSending errorCode =>
      rcases s.recvStopSending_cases with heq | ⟨hbefore, hafter, rest, heq, hrest⟩
      · exact Or.inl (by rw [receive, send, heq]; exact Eventless.nil)
      · exact Or.inr (Or.inr ⟨_, rest, heq, hrest, hbefore, hafter⟩)
    | abort errorCode => exact Or.inl s.silent_abort
    | handleDataAcknowledged => exact Or.inl Eventless.nil

/-- Every effect of a call is about the stream or about a request. -/
theorem receive_own (s : Stream) {call : ReceiveCall} :
    ∀ e ∈ (s.receive call).2, e.isOwn s.id = true := by
  rcases s.receive_cases with hsilent | ⟨code, rest, heq, hrest, -⟩ | ⟨code, rest, heq, hrest, -⟩
  · exact fun e he => (hsilent e he).1
  all_goals
    intro e he
    rw [heq] at he
    rcases List.mem_cons.mp he with rfl | he
    · simp [Effect.isOwn]
    · exact (hrest e he).1

/-! ## Sides that are over -/

/-- What no method undoes: the id, and that a side is over. -/
structure Continues (s s' : Stream) : Prop where
  id : s'.id = s.id
  receive : s.isReceiveTerminated = true → s'.isReceiveTerminated = true
  send : s.isSendTerminated = true → s'.isSendTerminated = true

theorem Continues.refl (s : Stream) : Continues s s := ⟨rfl, fun h => h, fun h => h⟩

theorem Continues.trans {s t u : Stream} (h₁ : Continues s t) (h₂ : Continues t u) :
    Continues s u :=
  ⟨h₂.id.trans h₁.id, fun h => h₂.receive (h₁.receive h), fun h => h₂.send (h₁.send h)⟩

theorem continues_sendReset (s : Stream) : Continues s (s.sendReset errorCode http).1 := by
  unfold sendReset
  split
  · exact Continues.refl s
  · exact ⟨rfl, fun h => h, fun _ => rfl⟩

theorem continues_sendStop (s : Stream) : Continues s (s.sendStop errorCode http).1 := by
  unfold sendStop
  split
  · exact Continues.refl s
  · exact ⟨rfl, fun _ => rfl, fun h => h⟩

theorem continues_flushWrites (s : Stream) (credit : Nat) :
    Continues s (s.flushWrites credit).1 := by
  rcases flushWrites_cases s credit with heq |
    ⟨entry, rest, -, hready, -, ⟨-, heq⟩ | ⟨-, -, heq⟩⟩ <;> rw [heq]
  · exact Continues.refl s
  all_goals exact ⟨rfl, fun h => h, fun h => by simp [isSendTerminated, hready] at h⟩

theorem continues_completeWrite (s : Stream) : Continues s (s.completeWrite credit).1 := by
  unfold completeWrite
  split
  · exact Continues.refl s
  · have hflush := continues_flushWrites { s with pendingWriteRequest := none } credit
    exact ⟨hflush.id, hflush.receive, hflush.send⟩

theorem continues_write (s : Stream) : Continues s (s.write requestId data endStream credit).1 := by
  rcases s.write_cases requestId data endStream credit with ⟨-, heq⟩ | ⟨-, effect, heq, -⟩ <;> rw [heq]
  · have hflush := continues_flushWrites (s.enqueueWrite ⟨data, requestId, endStream⟩) credit
    exact ⟨hflush.id, hflush.receive, hflush.send⟩
  · exact Continues.refl s

theorem continues_read (s : Stream) {maxSize : Nat} : Continues s (s.read requestId maxSize).1 := by
  unfold read
  split
  · exact Continues.refl s
  · split
    · exact ⟨rfl, fun h => h, fun h => h⟩
    · exact Continues.refl s
  · split
    · exact ⟨rfl, fun _ => rfl, fun h => h⟩
    · exact Continues.refl s
  · exact Continues.refl s
  · exact Continues.refl s

theorem continues_recvData (s : Stream) : Continues s (s.recvData data endStream).1 := by
  unfold recvData
  split
  · exact Continues.refl s
  · rename_i hstate
    have hreceiving : s.isReceiveTerminated = false := by
      simp only [ne_eq, not_not] at hstate
      simp [isReceiveTerminated, hstate]
    have hid : (s.deliverRead data endStream).1.id = s.id ∧
        (s.deliverRead data endStream).1.sendState = s.sendState := by
      unfold deliverRead
      split <;> exact ⟨rfl, rfl⟩
    have hsend : (s.deliverRead data endStream).1.isSendTerminated = s.isSendTerminated := by
      simp only [isSendTerminated, hid.2]
    dsimp only
    split
    · exact ⟨hid.1, fun h => by simp [hreceiving] at h, fun h => hsend.trans h⟩
    · exact ⟨hid.1, fun h => by simp [hreceiving] at h, fun h => hsend.trans h⟩

/-- Every call continues the stream it is made on. -/
theorem continues_receive (s : Stream) (call : ReceiveCall) : Continues s (s.receive call).1 := by
  cases call with
  | read => exact s.continues_read
  | recvData => exact s.continues_recvData
  | recvReset errorCode =>
    simp only [receive, recvReset]
    split
    · exact Continues.refl s
    · exact ⟨rfl, fun _ => rfl, fun h => h⟩
  | stop requestId errorCode =>
    simp only [receive, stop]
    split
    · exact Continues.refl s
    · split
      · exact Continues.refl s
      · exact s.continues_sendStop
  | send call =>
    cases call with
    | write => exact s.continues_write
    | flushWrites => exact s.continues_flushWrites ..
    | completeWrite => exact s.continues_completeWrite
    | reset requestId errorCode =>
      simp only [receive, send, reset]
      split
      · exact Continues.refl s
      · split
        · exact Continues.refl s
        · exact s.continues_sendReset
    | recvStopSending errorCode =>
      simp only [receive, send, recvStopSending]
      split
      · exact Continues.refl s
      · exact s.continues_sendReset
    | abort errorCode =>
      exact s.continues_sendReset.trans (continues_sendStop _)
    | handleDataAcknowledged =>
      simp only [receive, send, handleDataAcknowledged]
      split
      · exact ⟨rfl, fun h => h, fun _ => rfl⟩
      · exact Continues.refl s

end Stream

end PyWebTransport

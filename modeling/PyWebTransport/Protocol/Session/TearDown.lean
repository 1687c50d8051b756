/-
PyWebTransport.Protocol.Session.TearDown — what the end of a session does to
its streams.

Every closing path sets the state first and tears the streams down after it,
so no credit is advertised any more: a torn-down session resets and stops its
streams with `WT_SESSION_GONE`, answers the requests that wait, and says
nothing on the CONNECT stream (`tearDown_endsStreams`).
-/
import PyWebTransport.Protocol.Session.Frame

namespace PyWebTransport

/-- What a stream that ends with its session comes to. -/
def Effect.endsStreams : Effect → Bool
  | .resetQuicStream _ errorCode | .stopQuicStream _ errorCode => errorCode = errWtSessionGone
  | .notifyRequestFailed .. | .emitStreamEvent .. => true
  | _ => false

namespace Session

variable {s : Session}

variable {stream : Stream}

variable {streamId : StreamId}

def EndsStreams (effects : List Effect) : Prop := ∀ effect ∈ effects, effect.endsStreams = true

theorem EndsStreams.nil : EndsStreams [] := fun _ h => nomatch h

theorem EndsStreams.append {a b : List Effect} (ha : EndsStreams a) (hb : EndsStreams b) :
    EndsStreams (a ++ b) := by
  exact List.forall_mem_append.mpr ⟨ha, hb⟩

theorem EndsStreams.map {α : Type} {answer : α → Effect} (h : ∀ a, (answer a).endsStreams = true)
    (requests : List α) : EndsStreams (requests.map answer) := by
  intro effect heffect
  obtain ⟨a, -, rfl⟩ := List.mem_map.mp heffect
  exact h a

theorem EndsStreams.suppress {effects : List Effect} (h : EndsStreams effects) (s : Session)
    (streamId : StreamId) : EndsStreams (s.suppressPendingStreamEvents streamId effects) := by
  unfold suppressPendingStreamEvents
  split
  · exact fun effect heffect => h effect (List.mem_filter.mp heffect).1
  · exact h

theorem endsStreams_sendReset :
    EndsStreams (stream.sendReset (some errWtSessionGone) errWtSessionGone).2 := by
  unfold Stream.sendReset
  split
  · exact .nil
  · refine (EndsStreams.append ?_ ?_).append ?_
    · simp [EndsStreams, Effect.endsStreams]
    · exact .map (fun _ => rfl) _
    · exact .map (fun _ => rfl) _

theorem endsStreams_sendStop :
    EndsStreams (stream.sendStop (some errWtSessionGone) errWtSessionGone).2 := by
  unfold Stream.sendStop
  split
  · exact .nil
  · refine EndsStreams.append ?_ ?_
    · split
      · simp [EndsStreams, Effect.endsStreams]
      · exact .nil
    · exact .map (fun _ => rfl) _

theorem endsStreams_abortStream : EndsStreams (s.abortStream streamId).2 := by
  unfold abortStream
  split
  · exact .nil
  · exact (endsStreams_sendReset.append endsStreams_sendStop).suppress s streamId

/-- Once the state says that the session is over, no credit is granted. -/
theorem closePeerStream_over (hover : s.mayReplenish = false) (uni : Bool) :
    (s.closePeerStream uni).2 = [] := by
  obtain ⟨_, _, h⟩ := s.setPeerStreamsClosed_shape uni (s.peerStreamsClosed uni + 1)
  have hcounted : (s.setPeerStreamsClosed uni (s.peerStreamsClosed uni + 1)).mayReplenish =
      false := by
    rw [h]
    exact hover
  simp only [closePeerStream, replenishStreamsCredit, hcounted, Bool.not_false, Bool.or_true,
    if_true, Option.toList_none]

theorem endsStreams_handleClosed (hover : s.mayReplenish = false) :
    EndsStreams (s.handleClosed streamId).2 := by
  have hevent : ∀ t : Session, EndsStreams (t.suppressPendingStreamEvents streamId
      [.emitStreamEvent streamId .streamClosed none none none none]) := fun t =>
    EndsStreams.suppress (by simp [EndsStreams, Effect.endsStreams]) t streamId
  simp only [handleClosed]
  split
  · exact .nil
  · split
    · rw [closePeerStream_over (by exact hover), List.append_nil]
      exact hevent _
    · exact hevent _

theorem endsStreams_abortStreamsLoop : ∀ (ids : List StreamId) {s : Session},
    s.mayReplenish = false → EndsStreams (abortStreamsLoop ids s).2
  | [], _, _ => .nil
  | streamId :: rest, s, hover => by
      obtain ⟨_, haborted⟩ := s.abortStream_shape
      have hover' : (s.abortStream streamId).1.mayReplenish = false := by
        rw [haborted]
        exact hover
      obtain ⟨_, _, _, _, hclosed⟩ := (s.abortStream streamId).1.handleClosed_shape streamId
      have hover'' : ((s.abortStream streamId).1.handleClosed streamId).1.mayReplenish = false := by
        rw [hclosed]
        exact hover'
      exact (endsStreams_abortStream.append
        (endsStreams_handleClosed hover')).append
          (endsStreams_abortStreamsLoop rest hover'')

/-- Tearing down a session that is over only ends its streams and requests. -/
theorem tearDown_endsStreams (hover : s.mayReplenish = false) : EndsStreams s.tearDown.2 := by
  have hloop := endsStreams_abortStreamsLoop s.streams.keys
    (s := { s with pendingCapsules := [], pendingDatagrams := [] }) hover
  have hfailed : ∀ requests : List RequestId, EndsStreams (requests.map failAborted) :=
    .map fun _ => rfl
  exact ((hloop.append (hfailed _)).append (hfailed _)).append (hfailed _)

end Session

end PyWebTransport

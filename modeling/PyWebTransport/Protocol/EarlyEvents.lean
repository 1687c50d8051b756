/-
PyWebTransport.Protocol.EarlyEvents — streams and datagrams ahead of their
session.

The buffer of early events is in order after every history
(`Connection.Accounted`), and every stream that arrived is accounted for:
it waits in the buffer, or it was refused once, or it was handed once to its
session. A stream that is refused is stopped, and reset if it has a side of
ours. The book-keeping is `Balanced`, which each move of the ledger keeps by
moving an entry from one column to another.
-/
import PyWebTransport.Protocol.ConnectionRuns
import Mathlib.Data.List.Perm.Basic

namespace PyWebTransport

open PyWebTransport.Lib

namespace Connection

variable {events : List (Timestamp × ProtocolEvent)} {l l' : Ledger} {effects : List Effect}
  {streamId : StreamId}

/-! ## Streams in the buffer -/

theorem earlyStreamsOf_perm {events' : List (Timestamp × ProtocolEvent)} (h : events.Perm events') :
    (earlyStreamsOf events).Perm (earlyStreamsOf events') :=
  h.flatMap_right _

theorem earlyStreamsOf_append (events events' : List (Timestamp × ProtocolEvent)) :
    earlyStreamsOf (events ++ events') = earlyStreamsOf events ++ earlyStreamsOf events' :=
  List.flatMap_append

theorem SameEarly.earlyStreams {c c' : Connection} (h : SameEarly c c') :
    c'.earlyStreams = c.earlyStreams := by
  rw [Connection.earlyStreams, Connection.earlyStreams, h.earlyEvents]

theorem earlyStreams_store (c : Connection) (sessionId : SessionId) (event : ProtocolEvent)
    (now : Timestamp) :
    (earlyStreams { c with
      earlyEventBuffer := c.earlyEventBuffer.insert sessionId
        ((c.earlyEventBuffer.get? sessionId).getD [] ++ [(now, event)])
      earlyEventCount := c.earlyEventCount + 1 }).Perm (c.earlyStreams ++ event.earlyStream) := by
  have h := earlyStreamsOf_perm (c.earlyEventBuffer.flatten_values_insert sessionId [(now, event)])
  rwa [earlyStreamsOf_append, earlyStreamsOf_cons, earlyStreamsOf_nil, List.append_nil] at h

theorem earlyStreams_touch (c : Connection) (sessionId : SessionId) :
    (earlyStreams { c with
      earlyEventBuffer := c.earlyEventBuffer.insert sessionId
        ((c.earlyEventBuffer.get? sessionId).getD []) }).Perm c.earlyStreams := by
  have h := earlyStreamsOf_perm (c.earlyEventBuffer.flatten_values_insert sessionId [])
  rwa [List.append_nil, List.append_nil] at h

theorem earlyStreams_take {c : Connection} {sessionId : SessionId}
    (hget : c.earlyEventBuffer.get? sessionId = some events) :
    c.earlyStreams.Perm (earlyStreamsOf events ++ earlyStreams { c with
      earlyEventBuffer := c.earlyEventBuffer.erase sessionId
      earlyEventCount := c.earlyEventCount - events.length }) := by
  have h := earlyStreamsOf_perm (c.earlyEventBuffer.flatten_values_erase hget)
  rwa [earlyStreamsOf_append] at h

theorem earlyStreams_expire (c : Connection) (now : Timestamp) :
    c.earlyStreams.Perm
      ((c.pruneEarlyEvents now).1.earlyStreams ++ earlyStreamsOf (c.expiredEvents now)) := by
  have h := (List.filter_append_perm
    (fun entry => decide (now - entry.1 < c.earlyEventTtl)) c.earlyEvents).symm
  rw [← earlyEvents_pruneEarlyEvents] at h
  have hstreams := earlyStreamsOf_perm h
  rwa [earlyStreamsOf_append] at hstreams

/-! ## The books -/

/-- Every stream that arrived is in one column of the ledger. -/
def Balanced (l : Ledger) : Prop :=
  l.arrived.Perm (l.connection.earlyStreams ++ (l.hand ++ (l.refused ++ l.handed)))

theorem balanced_iff :
    Balanced l ↔ ∀ entry, l.arrived.count entry = l.connection.earlyStreams.count entry +
      (l.hand.count entry + (l.refused.count entry + l.handed.count entry)) := by
  rw [Balanced, List.perm_iff_count]
  simp only [List.count_append]

theorem Balanced.move (hl : Balanced l) (h : Move l effects l') : Balanced l' := by
  -- moves that touch neither the buffer nor the columns
  have hsame : ∀ {c : Connection}, SameEarly l.connection c →
      Balanced { l with connection := c } := by
    intro c hc
    unfold Balanced at hl ⊢
    rwa [hc.earlyStreams]
  cases h with
  | settle _ same => exact hsame same.early
  | call call _ => exact hsame (sameEarly_perform _ call)
  | bind => exact hsame (sameEarly_perform _ _)
  | submit | opened | accepted | prune => exact hsame ⟨rfl, rfl, rfl, rfl⟩
  | arrive sessionId streamId =>
    exact (hl.cons _).trans List.perm_middle.symm
  | @handOver sessionId streamId rest now _ inHand =>
    rw [balanced_iff] at hl ⊢
    intro entry
    have hentry := hl entry
    have hearly := (sameEarly_perform l.connection
      (.adopt sessionId streamId (.handleStreamOpened streamId now))).earlyStreams
    simp only [inHand, hearly, List.count_cons] at hentry ⊢
    omega
  | refuse _ inHand =>
    rw [balanced_iff] at hl ⊢
    intro entry
    have hentry := hl entry
    simp only [inHand, List.count_cons] at hentry ⊢
    omega
  | @store sessionId rest event now _ inHand =>
    rw [balanced_iff] at hl ⊢
    intro entry
    have hentry := hl entry
    have hcount := (earlyStreams_store l.connection sessionId event now).count_eq entry
    simp only [inHand, List.count_append] at hentry hcount ⊢
    omega
  | touch sessionId =>
    exact hl.trans ((earlyStreams_touch l.connection sessionId).symm.append_right _)
  | expire now =>
    rw [balanced_iff] at hl ⊢
    intro entry
    have hentry := hl entry
    have hcount := (earlyStreams_expire l.connection now).count_eq entry
    simp only [List.count_append] at hentry hcount ⊢
    omega
  | take stored =>
    rw [balanced_iff] at hl ⊢
    intro entry
    have hentry := hl entry
    have hcount := (earlyStreams_take stored).count_eq entry
    simp only [List.count_append] at hentry hcount ⊢
    omega

/-- The effects a stream that is refused must have had. -/
def RefusalEmitted (effects : List Effect) (streamId : StreamId) : Prop :=
  .stopQuicStream streamId errWtBufferedStreamRejected ∈ effects ∧
    (isUnidirectionalStream streamId = false →
      .resetQuicStream streamId errWtBufferedStreamRejected ∈ effects)

theorem RefusalEmitted.mono {more : List Effect} (h : RefusalEmitted effects streamId)
    (hsub : effects ⊆ more) : RefusalEmitted more streamId :=
  ⟨hsub h.1, fun hbidi => hsub (h.2 hbidi)⟩

end Connection

end PyWebTransport

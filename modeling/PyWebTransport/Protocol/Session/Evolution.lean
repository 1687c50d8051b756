/-
PyWebTransport.Protocol.Session.Evolution — how a session may change over
its life.

A session keeps its identity and its configuration, its state only moves
forward (Connecting, Connected, Draining, Closing, Closed), the queue of
streams to announce only loses entries, apart from a stream just opened, and
once the session is over nothing is left in it. `Evolves` is that relation;
it is reflexive and transitive, and `Session.OperationsAccounting` shows that
every operation stays within it.
-/
import PyWebTransport.Protocol.Session.Accounting

namespace PyWebTransport

open PyWebTransport.Lib

/-- The position of a state in the life of a session. -/
def SessionState.rank : SessionState → Nat
  | .connecting => 0
  | .connected => 1
  | .draining => 2
  | .closing => 3
  | .closed => 4

namespace Session

variable {s t : Session} {u : Session} {opened : List StreamId}

/-- A session that is no longer open holds nothing. -/
def Settled (s : Session) : Prop := s.isOpen = false → s.Emptied

theorem Settled.of_open (h : s.isOpen = true) : s.Settled := by
  intro hclosed
  rw [h] at hclosed
  cases hclosed

theorem isOpen_congr (h : t.state = s.state) : t.isOpen = s.isOpen := by
  simp only [isOpen, h]

/-- Only an open session has a stream. -/
theorem Settled.isOpen_of_stream (hs : s.Settled) {streamId : StreamId} {stream : Stream}
    (hget : s.streams.get? streamId = some stream) : s.isOpen = true := by
  cases hopen : s.isOpen with
  | true => rfl
  | false =>
    rw [(hs hopen).streams streamId] at hget
    cases hget

theorem rank_le_closed {state : SessionState} : state.rank ≤ SessionState.closed.rank := by
  cases state <;> decide

/-- The fields fixed when the session is made. -/
structure SameConstants (s t : Session) : Prop where
  id : t.id = s.id
  isClient : t.isClient = s.isClient
  flowControlNegotiated : t.flowControlNegotiated = s.flowControlNegotiated
  initialMaxStreamsBidi : t.initialMaxStreamsBidi = s.initialMaxStreamsBidi
  initialMaxStreamsUni : t.initialMaxStreamsUni = s.initialMaxStreamsUni
  receiveWindow : t.receiveWindow = s.receiveWindow

theorem SameConstants.refl (s : Session) : SameConstants s s := ⟨rfl, rfl, rfl, rfl, rfl, rfl⟩

theorem SameConstants.trans (h₁ : SameConstants s t) (h₂ : SameConstants t u) : SameConstants s u :=
  ⟨h₂.id.trans h₁.id, h₂.isClient.trans h₁.isClient,
    h₂.flowControlNegotiated.trans h₁.flowControlNegotiated,
    h₂.initialMaxStreamsBidi.trans h₁.initialMaxStreamsBidi,
    h₂.initialMaxStreamsUni.trans h₁.initialMaxStreamsUni,
    h₂.receiveWindow.trans h₁.receiveWindow⟩

/-- From `s` to `t` in a step that may open the streams `opened`. -/
structure Evolves (opened : List StreamId) (s t : Session) : Prop where
  constants : SameConstants s t
  rank : s.state.rank ≤ t.state.rank
  pending : t.pendingStreams.Sublist (s.pendingStreams ++ opened)
  settled : s.Settled → t.Settled

theorem Evolves.refl (opened : List StreamId) (s : Session) : Evolves opened s s :=
  ⟨SameConstants.refl s, Nat.le_refl _, List.sublist_append_left _ _, fun h => h⟩

theorem Evolves.trans (h₁ : Evolves [] s t) (h₂ : Evolves opened t u) : Evolves opened s u where
  constants := h₁.constants.trans h₂.constants
  rank := h₁.rank.trans h₂.rank
  pending := h₂.pending.trans (List.Sublist.append_right (by simpa using h₁.pending) opened)
  settled h := h₂.settled (h₁.settled h)

theorem Evolves.widen (h : Evolves [] s t) (opened : List StreamId) : Evolves opened s t :=
  h.trans (Evolves.refl opened t)

/-- An open session may change anything but its constants, its state and the
streams it has yet to announce. -/
theorem Evolves.of_state (hopen : s.Settled → s.isOpen = true) (hc : SameConstants s t)
    (h : t.state = s.state) (hp : t.pendingStreams = s.pendingStreams) : Evolves opened s t where
  constants := hc
  rank := by rw [h]
  pending := by rw [hp]; exact List.sublist_append_left _ _
  settled hs := Settled.of_open (by rw [isOpen_congr h, hopen hs])

/-- An open session may move forward to another open state. -/
theorem Evolves.of_open (hc : SameConstants s t) (hrank : s.state.rank ≤ t.state.rank)
    (hopen : t.isOpen = true) (hp : t.pendingStreams = s.pendingStreams) : Evolves [] s t where
  constants := hc
  rank := hrank
  pending := by rw [hp]; exact List.sublist_append_left _ _
  settled _ := Settled.of_open hopen

theorem evolves_tearDown (hc : SameConstants s t) (hrank : s.state.rank ≤ t.state.rank) :
    Evolves [] s t.tearDown.1 := by
  obtain ⟨_, _, _, h⟩ := t.tearDown_shape
  refine ⟨hc.trans ?_, ?_, ?_, fun _ _ => emptied_tearDown⟩
  · rw [h]
    exact ⟨rfl, rfl, rfl, rfl, rfl, rfl⟩
  · rw [h]
    exact hrank
  · rw [h]
    exact List.nil_sublist _

/-- Taking an element off a queue of capsules or datagrams. -/
theorem evolves_dequeue (s : Session) (capsules : List (Nat × Bytes)) (datagrams : List Bytes) :
    Evolves [] s { s with pendingCapsules := capsules, pendingDatagrams := datagrams } :=
  ⟨⟨rfl, rfl, rfl, rfl, rfl, rfl⟩, Nat.le_refl _, List.sublist_append_left _ _,
    fun hs hclosed =>
      let h := hs hclosed
      ⟨h.streams, h.bidi, h.uni, h.datagrams⟩⟩

end Session

end PyWebTransport

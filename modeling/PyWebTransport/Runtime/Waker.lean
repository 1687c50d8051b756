/-
PyWebTransport.Runtime.Waker — waking the event loop.

The reactor thread puts runtime events into a queue and wakes the Python
event loop through a socket pair. The flag `signaled` keeps it from writing
a byte for every round: a wake swaps the flag and writes only if it was
down; the loop takes it down again when it has read the socket empty and is
about to empty the queue (`ffi/waker.rs`, `runtime/reactor.rs`,
`ffi/endpoint.rs`, `_controller/controller.py`).

Both threads are cut at every access to what they share, finer than the
calls they make: a wake is the swap and then the write, a drain is one
`recv` after another, a poll one `pop` after another. Every interleaving of
whole calls is one of these.

Two facts carry the argument. A raised flag has a byte behind it or a loop
that is on its way to take the flag down; events that no wake is owed for
have a byte behind them or a loop on its way to the queue
(`Waking.Covered`).
-/
import Mathlib.Data.List.Basic

namespace PyWebTransport.Runtime

/-- Where the reactor thread is with respect to its waker. -/
inductive ReactorPhase where
  | quiet
  /-- Something was pushed and `events_emitted` is set. -/
  | emitted
  /-- The swap found the flag down; the byte is still to be written. -/
  | writing
deriving DecidableEq

/-- Where `_run_waker_loop` is. -/
inductive LoopPhase where
  /-- In `sock_recv`. -/
  | waiting
  /-- Reading the socket empty. -/
  | draining
  /-- Before `waker.clear()`. -/
  | clearing
  /-- In `poll_runtime_events`. -/
  | polling
deriving DecidableEq

/-- What the two threads share, and where each of them is. -/
structure Waking (α : Type) where
  queue : List α := []
  signaled : Bool := false
  /-- Bytes in the read end of the socket pair. -/
  socket : Nat := 0
  reactor : ReactorPhase := .quiet
  loop : LoopPhase := .waiting
deriving DecidableEq

def wakerDrainBufferSize : Nat := 8192

inductive WakeAction (α : Type) where
  | push (event : α)
  | swap
  | write
  | receive
  | drain
  | clear
  | pop

namespace Waking

variable {α : Type}

/-- One access of one of the threads; `none` where that thread is elsewhere
or has to wait. -/
def step (s : Waking α) : WakeAction α → Option (Waking α)
  | .push event =>
    if s.reactor = .writing then none
    else some { s with queue := s.queue ++ [event], reactor := .emitted }
  | .swap =>
    -- at shutdown the reactor wakes whether or not its push succeeded
    if s.reactor = .writing then none
    else if s.signaled then some { s with reactor := .quiet }
    else some { s with signaled := true, reactor := .writing }
  | .write =>
    if s.reactor = .writing then some { s with socket := s.socket + 1, reactor := .quiet }
    else none
  | .receive =>
    if s.loop = .waiting ∧ 0 < s.socket then
      some { s with socket := s.socket - min s.socket wakerDrainBufferSize, loop := .draining }
    else none
  | .drain =>
    if s.loop = .draining then
      -- `BlockingIOError` ends the loop
      if s.socket = 0 then some { s with loop := .clearing }
      else some { s with socket := s.socket - min s.socket wakerDrainBufferSize }
    else none
  | .clear =>
    if s.loop = .clearing then some { s with signaled := false, loop := .polling } else none
  | .pop =>
    if s.loop = .polling then
      match s.queue with
      | [] => some { s with loop := .waiting }
      | _ :: rest => some { s with queue := rest }
    else none

/-- The states the two threads can bring about together. -/
inductive Reachable : Waking α → Prop
  | start : Reachable {}
  | step {s t} (action : WakeAction α) (run : Reachable s) (taken : s.step action = some t) :
      Reachable t

/-- The reactor is between a push and the end of the wake that follows. -/
def Owes (s : Waking α) : Prop := s.reactor ≠ .quiet

instance (s : Waking α) : Decidable s.Owes := inferInstanceAs (Decidable (_ ≠ _))

/-- The loop is between its receive and the end of its poll. -/
def Serving (s : Waking α) : Prop := s.loop ≠ .waiting

instance (s : Waking α) : Decidable s.Serving := inferInstanceAs (Decidable (_ ≠ _))

/-- What is behind a raised flag, and behind events that no wake is owed for. -/
structure Covered (s : Waking α) : Prop where
  flag : s.signaled = true →
    0 < s.socket ∨ s.loop = .draining ∨ s.loop = .clearing ∨ s.reactor = .writing
  events : s.queue ≠ [] → s.reactor = .quiet → 0 < s.socket ∨ s.loop ≠ .waiting

/-! ## The reactor thread -/

variable {s t : Waking α}

theorem Covered.push (h : Covered s) {event : α} (htaken : s.step (.push event) = some t) :
    Covered t := by
  simp only [step] at htaken
  split at htaken
  · cases htaken
  · rename_i hnot
    cases htaken
    refine ⟨fun hflag => ?_, fun _ hquiet => nomatch hquiet⟩
    rcases h.flag hflag with hbyte | hdrain | hclear | hwriting
    · exact .inl hbyte
    · exact .inr (.inl hdrain)
    · exact .inr (.inr (.inl hclear))
    · exact absurd hwriting hnot

theorem Covered.swap (h : Covered s) (htaken : s.step .swap = some t) : Covered t := by
  simp only [step] at htaken
  split at htaken
  · cases htaken
  · rename_i hnot
    split at htaken
    · -- the flag was up: whatever is behind it also serves the new events
      rename_i hup
      cases htaken
      have hbehind : 0 < s.socket ∨ s.loop = .draining ∨ s.loop = .clearing := by
        rcases h.flag hup with hbyte | hdrain | hclear | hwriting
        · exact .inl hbyte
        · exact .inr (.inl hdrain)
        · exact .inr (.inr hclear)
        · exact absurd hwriting hnot
      refine ⟨fun _ => ?_, fun _ _ => ?_⟩
      · rcases hbehind with hbyte | hdrain | hclear
        · exact .inl hbyte
        · exact .inr (.inl hdrain)
        · exact .inr (.inr (.inl hclear))
      · rcases hbehind with hbyte | hdrain | hclear
        · exact .inl hbyte
        · exact .inr (by rw [hdrain]; decide)
        · exact .inr (by rw [hclear]; decide)
    · cases htaken
      exact ⟨fun _ => .inr (.inr (.inr rfl)), fun _ hquiet => nomatch hquiet⟩

theorem Covered.write (htaken : s.step .write = some t) : Covered t := by
  simp only [step] at htaken
  split at htaken
  · cases htaken
    exact ⟨fun _ => .inl (Nat.succ_pos _), fun _ _ => .inl (Nat.succ_pos _)⟩
  · cases htaken

/-! ## The event loop -/

theorem Covered.receive (htaken : s.step .receive = some t) : Covered t := by
  simp only [step] at htaken
  split at htaken
  · cases htaken
    exact ⟨fun _ => .inr (.inl rfl), fun _ _ => .inr nofun⟩
  · cases htaken

theorem Covered.drain (htaken : s.step .drain = some t) : Covered t := by
  simp only [step] at htaken
  split at htaken
  · rename_i hdraining
    split at htaken
    · cases htaken
      exact ⟨fun _ => .inr (.inr (.inl rfl)), fun _ _ => .inr nofun⟩
    · cases htaken
      exact ⟨fun _ => .inr (.inl hdraining), fun _ _ => .inr (by rw [hdraining]; decide)⟩
  · cases htaken

theorem Covered.clear (htaken : s.step .clear = some t) : Covered t := by
  simp only [step] at htaken
  split at htaken
  · cases htaken
    exact ⟨nofun, fun _ _ => .inr nofun⟩
  · cases htaken

theorem Covered.pop (h : Covered s) (htaken : s.step .pop = some t) : Covered t := by
  simp only [step] at htaken
  split at htaken
  · rename_i hpolling
    -- a loop that polls is behind its `clear`: a flag raised since has its byte
    have hflag : s.signaled = true → 0 < s.socket ∨ s.reactor = .writing := by
      intro hup
      rcases h.flag hup with hbyte | hdrain | hclear | hwriting
      · exact .inl hbyte
      · rw [hpolling] at hdrain
        cases hdrain
      · rw [hpolling] at hclear
        cases hclear
      · exact .inr hwriting
    split at htaken
    · rename_i hempty
      cases htaken
      refine ⟨fun hup => ?_, fun hqueue => absurd hempty hqueue⟩
      rcases hflag hup with hbyte | hwriting
      · exact .inl hbyte
      · exact .inr (.inr (.inr hwriting))
    · cases htaken
      refine ⟨h.flag, fun _ _ => .inr ?_⟩
      rw [hpolling]
      decide
  · cases htaken

/-! ## Every interleaving -/

theorem Covered.step (h : Covered s) (action : WakeAction α) (htaken : s.step action = some t) :
    Covered t := by
  cases action with
  | push event => exact h.push htaken
  | swap => exact h.swap htaken
  | write => exact Covered.write htaken
  | receive => exact Covered.receive htaken
  | drain => exact Covered.drain htaken
  | clear => exact Covered.clear htaken
  | pop => exact h.pop htaken

theorem Reachable.covered (run : Reachable s) : Covered s := by
  induction run with
  | start => exact ⟨nofun, fun hqueue => absurd rfl hqueue⟩
  | step action _ htaken ih => exact ih.step action htaken

/-- No wake-up is lost. In every state the two threads can reach, events in
the queue that no wake is owed for have a byte in the socket or a loop that
is between its receive and its poll; so nothing is queued while the loop
waits on an empty socket, unless the reactor is about to wake it. -/
theorem no_lost_wakeup (run : Reachable s) :
    (s.queue ≠ [] → ¬s.Owes → 0 < s.socket ∨ s.Serving) ∧
    (¬s.Serving → s.socket = 0 → s.queue ≠ [] → s.Owes) := by
  have hcovered : s.queue ≠ [] → ¬s.Owes → 0 < s.socket ∨ s.Serving := fun hqueue howes =>
    run.covered.events hqueue (not_not.mp howes)
  refine ⟨hcovered, fun hwaiting hempty hqueue => ?_⟩
  by_contra howes
  rcases hcovered hqueue howes with hbyte | hserving
  · rw [hempty] at hbyte
    exact Nat.lt_irrefl 0 hbyte
  · exact hwaiting hserving

/-- A second event whose wake finds the flag up: the loop has its byte but
not yet the queue. -/
theorem no_lost_wakeup_flag_up :
    ∃ s : Waking Nat, Reachable s ∧ s.queue = [1, 2] ∧ ¬s.Owes ∧ s.socket = 0 ∧
      (0 < s.socket ∨ s.Serving) :=
  have run : Reachable { queue := [1, 2], signaled := true, loop := .draining } :=
    .step .swap (.step (.push 2) (.step .receive (.step .write (.step .swap
      (.step (.push 1) .start rfl) rfl) rfl) rfl) rfl) rfl
  ⟨_, run, rfl, by decide, rfl, (no_lost_wakeup run).1 (by decide) (by decide)⟩

end Waking

end PyWebTransport.Runtime

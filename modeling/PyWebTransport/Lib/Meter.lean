/-
PyWebTransport.Lib.Meter — a limit on how many things are open at once that
is advertised as a total.

The one who accepts counts what was opened and what was closed in all, and
advertises how many may ever be opened. The total is raised as things close,
never by more than the initial limit beyond them. So the number of things
that are open at once stays within the initial limit (`Sound.live_le`),
although it is never compared with it.
-/
import Mathlib.Data.Nat.Basic

namespace PyWebTransport

structure Meter where
  opened : Nat
  closed : Nat
  limit : Nat
  initial : Nat
  live : Nat
deriving DecidableEq

namespace Meter

variable {limited : Bool} {m m' : Meter}

/-- What may happen to a meter. Only a limited one looks at its limit. -/
inductive Step (limited : Bool) : Meter → Meter → Prop where
  | same (m : Meter) : Step limited m m
  | grant (m : Meter) (limit : Nat) (more : m.limit < limit)
      (room : limit ≤ m.closed + m.initial) : Step limited m { m with limit := limit }
  | accept (m : Meter) (within : limited = true → m.opened < m.limit) :
      Step limited m { m with opened := m.opened + 1, live := m.live + 1 }
  | refuse (m : Meter) (within : limited = true → m.opened < m.limit) :
      Step limited m { m with opened := m.opened + 1, closed := m.closed + 1 }
  | drop (m : Meter) (live : Nat) (left : m.live = live + 1) :
      Step limited m { m with closed := m.closed + 1, live := live }

structure Sound (limited : Bool) (m : Meter) : Prop where
  live : m.opened = m.closed + m.live
  within : limited = true → m.opened ≤ m.limit
  bounded : m.limit ≤ m.closed + m.initial

theorem Sound.step (h : Sound limited m) (hstep : Step limited m m') : Sound limited m' := by
  have hlive := h.live
  have hbounded := h.bounded
  cases hstep with
  | same => exact h
  | grant limit more room =>
    exact ⟨hlive, fun hl => Nat.le_trans (h.within hl) (Nat.le_of_lt more), room⟩
  | accept within =>
    refine ⟨?_, fun hl => within hl, hbounded⟩
    show m.opened + 1 = m.closed + (m.live + 1)
    omega
  | refuse within =>
    refine ⟨?_, fun hl => within hl, ?_⟩
    · show m.opened + 1 = m.closed + 1 + m.live
      omega
    · show m.limit ≤ m.closed + 1 + m.initial
      omega
  | drop live left =>
    refine ⟨?_, h.within, ?_⟩
    · show m.opened = m.closed + 1 + live
      omega
    · show m.limit ≤ m.closed + 1 + m.initial
      omega

/-- A limit is never taken back. -/
theorem Step.limit_le (h : Step limited m m') : m.limit ≤ m'.limit := by
  cases h with
  | grant limit more => exact Nat.le_of_lt more
  | _ => exact Nat.le_refl _

theorem Sound.closed_le (h : Sound limited m) : m.closed ≤ m.opened := by
  rw [h.live]
  exact Nat.le_add_right _ _

theorem Sound.live_eq (h : Sound limited m) : m.live = m.opened - m.closed := by
  rw [h.live, Nat.add_sub_cancel_left]

/-- Never more are open at once than the initial limit allows. -/
theorem Sound.live_le (h : Sound true m) : m.live ≤ m.initial := by
  have hlive := h.live
  have hwithin := h.within rfl
  have hbounded := h.bounded
  omega

end Meter

end PyWebTransport

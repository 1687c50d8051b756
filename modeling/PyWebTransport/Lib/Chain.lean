/-
PyWebTransport.Lib.Chain — an operation as a chain of moves, each with the
effects it has.

`Chain Move s effects t` says that moves lead from `s` to `t` and that
`effects` is what they did, one after the other. An operation that is proved
to be a chain needs no further look: `Chain.carries` takes a property of the
state and the history through it as soon as every move keeps it.
-/
import Mathlib.Data.List.Basic

namespace PyWebTransport

variable {σ ε : Type}

inductive Chain (Move : σ → List ε → σ → Prop) : σ → List ε → σ → Prop where
  | refl (s : σ) : Chain Move s [] s
  | head {s t u : σ} {first rest : List ε} (move : Move s first t) (moves : Chain Move t rest u) :
      Chain Move s (first ++ rest) u

namespace Chain

variable {Move : σ → List ε → σ → Prop} {s t u : σ} {first second effects : List ε}

theorem single (h : Move s effects t) : Chain Move s effects t := by
  simpa using head h (refl t)

theorem trans (h₁ : Chain Move s first t) (h₂ : Chain Move t second u) :
    Chain Move s (first ++ second) u := by
  induction h₁ with
  | refl s => simpa using h₂
  | head move _ ih =>
    rw [List.append_assoc]
    exact head move (ih h₂)

/-- What every move keeps, of the state and what was done so far, a chain
keeps. -/
theorem carries {P : σ → List ε → Prop}
    (hmove : ∀ s effects t history, Move s effects t → P s history → P t (history ++ effects))
    (h : Chain Move s effects t) (history : List ε) (hs : P s history) :
    P t (history ++ effects) := by
  induction h generalizing history with
  | refl s => simpa using hs
  | head move _ ih =>
    rw [← List.append_assoc]
    exact ih _ (hmove _ _ _ _ move hs)

/-- The same for a property of the state alone. -/
theorem keeps {P : σ → Prop} (hmove : ∀ s effects t, Move s effects t → P s → P t)
    (h : Chain Move s effects t) (hs : P s) : P t := by
  induction h with
  | refl s => exact hs
  | head move _ ih => exact ih (hmove _ _ _ move hs)

end Chain

end PyWebTransport

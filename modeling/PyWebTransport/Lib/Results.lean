/-
PyWebTransport.Lib.Results — taking a successful computation apart.

A computation in `Except` that goes through `map` or `bind` succeeds only if
its first part does.
-/
import Mathlib.Tactic.Common

namespace PyWebTransport.Lib

variable {ε α β : Type*} {x : Except ε α} {b : β}

theorem exists_of_map_eq_ok {f : α → β} (h : x.map f = .ok b) : ∃ a, x = .ok a ∧ f a = b := by
  cases x with
  | error e => cases h
  | ok a => exact ⟨a, rfl, Except.ok.inj h⟩

theorem exists_of_bind_eq_ok {f : α → Except ε β} (h : x.bind f = .ok b) :
    ∃ a, x = .ok a ∧ f a = .ok b := by
  cases x with
  | error e => cases h
  | ok a => exact ⟨a, rfl, h⟩

end PyWebTransport.Lib

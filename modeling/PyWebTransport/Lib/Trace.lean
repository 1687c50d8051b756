/-
PyWebTransport.Lib.Trace — properties of a trace that look at what came
before.

`AtEach P trace` says that every element of a trace stands in relation `P`
to the part of the trace before it. A trace grows at its end, so the rule
that matters is `atEach_append`: the old part keeps its property, and each
new element is judged against the old trace followed by the new elements
before it.
-/
import Mathlib.Data.List.Basic

namespace PyWebTransport

variable {α : Type} {P : List α → α → Prop} {trace : List α}

/-- Every element is related to the elements before it. -/
def AtEach (P : List α → α → Prop) (trace : List α) : Prop :=
  ∀ before x after, trace = before ++ x :: after → P before x

@[simp] theorem atEach_nil (P : List α → α → Prop) : AtEach P [] := by
  intro before x after h
  cases before <;> cases h

theorem atEach_cons (P : List α → α → Prop) (x : α) (trace : List α) :
    AtEach P (x :: trace) ↔ P [] x ∧ AtEach (fun before => P (x :: before)) trace := by
  constructor
  · intro h
    refine ⟨h [] x trace rfl, ?_⟩
    intro before y after hsplit
    exact h (x :: before) y after (by rw [hsplit]; rfl)
  · rintro ⟨hx, htrace⟩ before y after hsplit
    cases before with
    | nil =>
      obtain ⟨rfl, -⟩ := List.cons.inj hsplit
      exact hx
    | cons z before =>
      obtain ⟨rfl, hrest⟩ := List.cons.inj hsplit
      exact htrace before y after hrest

theorem atEach_append (P : List α → α → Prop) (old new : List α) :
    AtEach P (old ++ new) ↔ AtEach P old ∧ AtEach (fun before => P (old ++ before)) new := by
  induction old generalizing P with
  | nil => simp
  | cons x old ih =>
    rw [List.cons_append, atEach_cons, atEach_cons, ih, and_assoc]
    rfl

theorem AtEach.mono {Q : List α → α → Prop} (h : AtEach P trace)
    (hPQ : ∀ before, ∀ x ∈ trace, P before x → Q before x) : AtEach Q trace := by
  intro before x after hsplit
  exact hPQ before x (by simp [hsplit]) (h before x after hsplit)

/-- Elements that are related to any trace at all need no history. -/
theorem atEach_of_forall (h : ∀ x ∈ trace, ∀ before, P before x) : AtEach P trace := by
  intro before x after hsplit
  exact h x (by simp [hsplit]) before

end PyWebTransport

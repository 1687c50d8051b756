/-
PyWebTransport.Lib.Climb — values that are reported in rising order.

Who reports a value only if it is above a mark, and then raises the mark to
it, never repeats itself: `Climbs low values high` says that the values were
reported while the mark rose from `low` to `high`, and `Climbs.append` that
two such stretches make one.
-/
import Mathlib.Order.WithBot

namespace PyWebTransport

variable {α : Type} [Preorder α] {low mid high : WithBot α} {first second values : List α} {v : α}

structure Climbs (low : WithBot α) (values : List α) (high : WithBot α) : Prop where
  rises : low ≤ high
  sorted : values.Pairwise (· < ·)
  above : ∀ v ∈ values, low < v
  below : ∀ v ∈ values, ↑v ≤ high

namespace Climbs

/-- The mark may rise without a report. -/
theorem silent (h : low ≤ high) : Climbs low ([] : List α) high where
  rises := h
  sorted := .nil
  above _ hv := nomatch hv
  below _ hv := nomatch hv

theorem report (h : low < v) : Climbs low [v] v where
  rises := h.le
  sorted := List.pairwise_singleton _ _
  above u hu := by rwa [List.mem_singleton.mp hu]
  below u hu := by rw [List.mem_singleton.mp hu]

theorem append (h₁ : Climbs low first mid) (h₂ : Climbs mid second high) :
    Climbs low (first ++ second) high where
  rises := h₁.rises.trans h₂.rises
  sorted := by
    refine List.pairwise_append.mpr ⟨h₁.sorted, h₂.sorted, fun u hu v hv => ?_⟩
    exact WithBot.coe_lt_coe.mp ((h₁.below u hu).trans_lt (h₂.above v hv))
  above v hv := by
    rcases List.mem_append.mp hv with hv | hv
    · exact h₁.above v hv
    · exact h₁.rises.trans_lt (h₂.above v hv)
  below v hv := by
    rcases List.mem_append.mp hv with hv | hv
    · exact (h₁.below v hv).trans h₂.rises
    · exact h₂.below v hv

end Climbs

end PyWebTransport

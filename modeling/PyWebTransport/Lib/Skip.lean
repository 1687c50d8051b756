/-
PyWebTransport.Lib.Skip — a numbering that leaves out one value in `m + 1`.

`skip m` counts through the numbers that are not `m` modulo `m + 1`: it adds
one for every `m` numbers before. `unskip m` takes the left-out values off
again. Both are read from the quotient and remainder by `m`
(`skip_eq`), and they are inverse to each other on the numbers that are
counted.
-/
import Mathlib.Data.Nat.ModEq
import Mathlib.Tactic.Ring

namespace PyWebTransport.Lib

variable {m : Nat}

def skip (m n : Nat) : Nat := n + n / m

def unskip (m k : Nat) : Nat := k - k / (m + 1)

/-- The quotient by `m` becomes the quotient by `m + 1`, the remainder stays. -/
theorem skip_eq (m n : Nat) : skip m n = (m + 1) * (n / m) + n % m := by
  have hsplit := Nat.div_add_mod n m
  rw [skip, Nat.add_mul, Nat.one_mul]
  omega

theorem skip_div (hm : 0 < m) (n : Nat) : skip m n / (m + 1) = n / m := by
  have hrest : n % m < m + 1 := Nat.lt_succ_of_lt (Nat.mod_lt n hm)
  rw [skip_eq, Nat.mul_add_div (Nat.succ_pos m), Nat.div_eq_of_lt hrest, Nat.add_zero]

theorem skip_mod (hm : 0 < m) (n : Nat) : skip m n % (m + 1) = n % m := by
  have hrest : n % m < m + 1 := Nat.lt_succ_of_lt (Nat.mod_lt n hm)
  rw [skip_eq, Nat.mul_add_mod, Nat.mod_eq_of_lt hrest]

/-- No number is counted as a left-out one. -/
theorem skip_mod_ne (hm : 0 < m) (n : Nat) : skip m n % (m + 1) ≠ m := by
  rw [skip_mod hm]
  exact (Nat.mod_lt n hm).ne

theorem skip_lt_skip (m : Nat) {n n' : Nat} (h : n < n') : skip m n < skip m n' := by
  have hdiv : n / m ≤ n' / m := Nat.div_le_div_right h.le
  unfold skip
  omega

theorem unskip_skip (hm : 0 < m) (n : Nat) : unskip m (skip m n) = n := by
  rw [unskip, skip_div hm, skip]
  omega

theorem unskip_eq (m k : Nat) : unskip m k = m * (k / (m + 1)) + k % (m + 1) := by
  have hsplit := Nat.div_add_mod k (m + 1)
  rw [Nat.add_mul, Nat.one_mul] at hsplit
  rw [unskip]
  omega

/-- Every number that is not left out is counted. -/
theorem skip_unskip {k : Nat} (hm : 0 < m) (hk : k % (m + 1) ≠ m) : skip m (unskip m k) = k := by
  have hrest : k % (m + 1) < m := by
    have hlt : k % (m + 1) < m + 1 := Nat.mod_lt k (Nat.succ_pos m)
    omega
  have hdiv : unskip m k / m = k / (m + 1) := by
    rw [unskip_eq, Nat.mul_add_div hm, Nat.div_eq_of_lt hrest, Nat.add_zero]
  have hmod : unskip m k % m = k % (m + 1) := by
    rw [unskip_eq, Nat.mul_add_mod, Nat.mod_eq_of_lt hrest]
  rw [skip_eq, hdiv, hmod, Nat.div_add_mod]

end PyWebTransport.Lib

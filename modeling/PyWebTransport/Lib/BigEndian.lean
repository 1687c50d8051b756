/-
PyWebTransport.Lib.BigEndian — fixed-width big-endian integers.

A number format on its own: `beBytes n v` writes the low `n` bytes of `v`,
most significant byte first, and `beValue` reads a byte list back. The two
are inverse at every width (`beValue_beBytes`, `beBytes_beValue`), so a byte
string behind its length can be told apart from what follows it
(`lengthPrefixed_append_inj`). The last section has the bit facts a
prefix-tagged format needs: a tag placed above a payload is an addition, and
masking with `2^k - 1` is a remainder.
-/
import Mathlib.Tactic.Ring
import Mathlib.Data.Nat.ModEq
import Mathlib.Data.Nat.Bitwise

namespace PyWebTransport.Lib

variable {n v : Nat}

/-- The number a byte list spells, most significant byte first. -/
def beValue : List UInt8 → Nat
  | [] => 0
  | b :: rest => b.toNat * 256 ^ rest.length + beValue rest

/-- The low `n` bytes of `v`, most significant byte first. -/
def beBytes : Nat → Nat → List UInt8
  | 0, _ => []
  | n + 1, v => UInt8.ofNat (v / 256 ^ n) :: beBytes n v

@[simp] theorem length_beBytes : ∀ n v : Nat, (beBytes n v).length = n
  | 0, _ => rfl
  | n + 1, v => by simp [beBytes, length_beBytes n v]

theorem beValue_lt : ∀ bs : List UInt8, beValue bs < 256 ^ bs.length
  | [] => by simp [beValue]
  | b :: rest => by
      have hb : b.toNat + 1 ≤ 256 := b.toNat_lt
      have hr := beValue_lt rest
      have hmul : (b.toNat + 1) * 256 ^ rest.length ≤ 256 * 256 ^ rest.length :=
        Nat.mul_le_mul_right _ hb
      simp only [beValue, List.length_cons, pow_succ]
      rw [Nat.add_mul, Nat.one_mul] at hmul
      omega

/-- Reading back what was written gives the number, cut to the width. -/
theorem beValue_beBytes : ∀ n v : Nat, beValue (beBytes n v) = v % 256 ^ n
  | 0, v => by simp [beBytes, beValue, Nat.mod_one]
  | n + 1, v => by
      simp only [beBytes, beValue, length_beBytes, beValue_beBytes n v, UInt8.toNat_ofNat']
      have hsplit : v % (256 ^ n * 256) = v % 256 ^ n + 256 ^ n * (v / 256 ^ n % 256) :=
        Nat.mod_mul
      rw [pow_succ 256 n, hsplit, Nat.mul_comm, Nat.add_comm]

theorem beValue_beBytes_of_lt (h : v < 256 ^ n) : beValue (beBytes n v) = v := by
  rw [beValue_beBytes, Nat.mod_eq_of_lt h]

/-- Adding a multiple of the width does not change the bytes written. -/
theorem beBytes_mul_add (n c v : Nat) : beBytes n (c * 256 ^ n + v) = beBytes n v := by
  have key : ∀ m k : Nat, beBytes m (k * 256 ^ m + v) = beBytes m v := by
    intro m
    induction m with
    | zero => intro k; rfl
    | succ m ih =>
      intro k
      have hdiv : (k * 256 ^ (m + 1) + v) / 256 ^ m = k * 256 + v / 256 ^ m := by
        have hpow : k * 256 ^ (m + 1) = (k * 256) * 256 ^ m := by ring
        rw [hpow, Nat.add_comm, Nat.add_mul_div_right _ _ (Nat.pos_of_ne_zero (by simp)),
          Nat.add_comm]
      have hbyte : UInt8.ofNat (k * 256 + v / 256 ^ m) = UInt8.ofNat (v / 256 ^ m) := by
        apply UInt8.toNat_inj.mp
        simp [UInt8.toNat_ofNat']
      have hrest : beBytes m (k * 256 ^ (m + 1) + v) = beBytes m v := by
        have hpow : k * 256 ^ (m + 1) = (k * 256) * 256 ^ m := by ring
        rw [hpow]
        exact ih (k * 256)
      simp only [beBytes, hdiv, hbyte, hrest]
  exact key n c

/-- Writing back what was read gives the bytes. -/
theorem beBytes_beValue : ∀ bs : List UInt8, beBytes bs.length (beValue bs) = bs
  | [] => rfl
  | b :: rest => by
      have hr := beValue_lt rest
      have hdiv : (b.toNat * 256 ^ rest.length + beValue rest) / 256 ^ rest.length = b.toNat := by
        rw [Nat.add_comm, Nat.add_mul_div_right _ _ (Nat.pos_of_ne_zero (by simp)),
          Nat.div_eq_of_lt hr, Nat.zero_add]
      simp only [List.length_cons, beBytes, beValue, hdiv, beBytes_mul_add,
        beBytes_beValue rest, UInt8.ofNat_toNat]

theorem beBytes_inj {w : Nat} (hv : v < 256 ^ n) (hw : w < 256 ^ n)
    (h : beBytes n v = beBytes n w) : v = w := by
  rw [← beValue_beBytes_of_lt hv, h, beValue_beBytes_of_lt hw]

/-! ## Length prefixes -/

/-- A byte string behind its length in `n` bytes. -/
def lengthPrefixed (n : Nat) (bytes : List UInt8) : List UInt8 := beBytes n bytes.length ++ bytes

/-- A string whose length fits into its field is told apart from what
follows it. -/
theorem lengthPrefixed_append_inj {bytes bytes' rest rest' : List UInt8}
    (hfits : bytes.length < 256 ^ n) (hfits' : bytes'.length < 256 ^ n)
    (h : lengthPrefixed n bytes ++ rest = lengthPrefixed n bytes' ++ rest') :
    bytes = bytes' ∧ rest = rest' := by
  simp only [lengthPrefixed, List.append_assoc] at h
  obtain ⟨hfield, hbody⟩ := List.append_inj h (by rw [length_beBytes, length_beBytes])
  exact List.append_inj hbody (beBytes_inj hfits hfits' hfield)

/-! ## Tags and masks -/

/-- A tag set above a payload that stays below it is an addition. -/
theorem or_tag_eq_add {k : Nat} (h : v < 2 ^ k) (c : Nat) : v ||| 2 ^ k * c = 2 ^ k * c + v := by
  rw [Nat.or_comm, Nat.two_pow_add_eq_or_of_lt h]

theorem and_mask_eq_mod (v k : Nat) : v &&& (2 ^ k - 1) = v % 2 ^ k :=
  Nat.and_two_pow_sub_one_eq_mod v k

end PyWebTransport.Lib

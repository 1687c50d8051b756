/-
PyWebTransport.Protocol.UtilsTheorems — facts about the variable-length
integer codec of `protocol/utils.rs`.

Three facts carry every parser of the development:

* `readVarint_ok_iff` — what is read is an encoding of the value, minimal or
  not, and what follows it; so reading back what was written gives the value
  (`readVarint_writeVarint`);
* `readVarint_append` — a value that can be read stays the same when more
  bytes arrive, so an incremental parser may commit to it;
* `readVarint_split` — a successful read consumes at least one byte.
-/
import PyWebTransport.Protocol.Utils
import Mathlib.Tactic

namespace PyWebTransport

open PyWebTransport.Lib

variable {buffer rest : Bytes} {value : Nat} {bytes : Bytes}

variable {more : Bytes}

/-! ## Reading -/

/-- The width the first byte announces. -/
def varintWidth (first : UInt8) : Nat := 2 ^ (first.toNat >>> 6)

theorem varintWidth_pos (first : UInt8) : 0 < varintWidth first :=
  Nat.pos_of_ne_zero (by simp [varintWidth])

theorem varintWidth_le (first : UInt8) : varintWidth first ≤ 8 := by
  have hlt : first.toNat >>> 6 ≤ 3 := by
    have hbyte := first.toNat_lt
    rw [Nat.shiftRight_eq_div_pow]
    omega
  exact Nat.pow_le_pow_right (by omega) hlt

theorem readVarint_cons (first : UInt8) (rest : Bytes) :
    readVarint (first :: rest) =
      if (first :: rest).length < varintWidth first then .error errH3FrameError
      else .ok (beValue ((first :: rest).take (varintWidth first)) %
          2 ^ (8 * varintWidth first - 2), (first :: rest).drop (varintWidth first)) := by
  simp only [readVarint, varintWidth, and_mask_eq_mod]
  rfl

section

variable (h : readVarint buffer = .ok (value, rest))
include h

/-- A successful read splits the buffer at the announced width. -/
theorem readVarint_ok :
    ∃ first tail, buffer = first :: tail ∧ varintWidth first ≤ buffer.length ∧
      value = beValue (buffer.take (varintWidth first)) % 2 ^ (8 * varintWidth first - 2) ∧
      rest = buffer.drop (varintWidth first) := by
  cases buffer with
  | nil => simp [readVarint] at h
  | cons first tail =>
    rw [readVarint_cons] at h
    split at h
    · cases h
    · rename_i hlen
      simp only [Except.ok.injEq, Prod.mk.injEq] at h
      exact ⟨first, tail, rfl, Nat.le_of_not_lt hlen, h.1.symm, h.2.symm⟩

/-- A value that can be read is not changed by bytes that arrive later. -/
theorem readVarint_append :
    readVarint (buffer ++ more) = .ok (value, rest ++ more) := by
  obtain ⟨first, tail, rfl, hlen, rfl, rfl⟩ := readVarint_ok h
  rw [List.cons_append, readVarint_cons, ← List.cons_append]
  have hge : ¬((first :: tail) ++ more).length < varintWidth first := by
    rw [List.length_append]
    omega
  rw [if_neg hge, List.take_append_of_le_length hlen, List.drop_append_of_le_length hlen]

/-- A successful read consumes a non-empty prefix. -/
theorem readVarint_split :
    ∃ used, used ≠ [] ∧ buffer = used ++ rest := by
  obtain ⟨first, tail, hbuf, hlen, -, rfl⟩ := readVarint_ok h
  refine ⟨buffer.take (varintWidth first), ?_, (List.take_append_drop _ _).symm⟩
  intro hnil
  have := congrArg List.length hnil
  rw [List.length_take, List.length_nil] at this
  have hpos := varintWidth_pos first
  omega

end

theorem readVarint_length (h : readVarint buffer = .ok (value, rest)) :
    rest.length < buffer.length := by
  obtain ⟨used, hne, rfl⟩ := readVarint_split h
  rw [List.length_append]
  have := List.length_pos_iff.mpr hne
  omega

/-- An integer that is not there whole is shorter than the longest one. -/
theorem length_of_readVarint_error {e : ErrorCode} (h : readVarint buffer = .error e) :
    buffer.length < 8 := by
  cases buffer with
  | nil => simp
  | cons first rest =>
    rw [readVarint_cons] at h
    have hwidth := varintWidth_le first
    split at h
    · omega
    · cases h

theorem length_le_of_readVarint (h : readVarint buffer = .ok (value, rest)) :
    buffer.length ≤ rest.length + 8 := by
  obtain ⟨first, tail, -, -, -, rfl⟩ := readVarint_ok h
  have hwidth := varintWidth_le first
  rw [List.length_drop]
  omega

/-! ## Writing -/

/-- The bytes a value is written as, by its size. -/
theorem writeVarint_ok (h : writeVarint value = .ok bytes) :
    ∃ k, k ≤ 3 ∧ value < 2 ^ (8 * 2 ^ k - 2) ∧
      bytes = beBytes (2 ^ k) (k * 2 ^ (8 * 2 ^ k - 2) + value) := by
  unfold writeVarint at h
  split at h
  · cases h
    exact ⟨0, by omega, by norm_num; omega, by simp⟩
  · split at h
    · cases h
      refine ⟨1, by omega, by norm_num; omega, ?_⟩
      have htag := or_tag_eq_add (k := 14) (v := value) (by norm_num; omega) 1
      norm_num at htag ⊢
      rw [htag]
    · split at h
      · cases h
        refine ⟨2, by omega, by norm_num; omega, ?_⟩
        have htag := or_tag_eq_add (k := 30) (v := value) (by norm_num; omega) 2
        norm_num at htag ⊢
        rw [htag]
      · split at h
        · cases h
          refine ⟨3, by omega, by norm_num; omega, ?_⟩
          have htag := or_tag_eq_add (k := 62) (v := value) (by norm_num; omega) 3
          norm_num at htag ⊢
          rw [htag]
        · cases h

theorem writeVarint_isOk_iff :
    (∃ bytes, writeVarint value = .ok bytes) ↔ value ≤ quicVarintLimit := by
  unfold writeVarint quicVarintLimit
  constructor
  · rintro ⟨bytes, h⟩
    by_contra hgt
    rw [if_neg (by omega), if_neg (by omega), if_neg (by omega), if_neg (by omega)] at h
    cases h
  · intro hle
    split
    · exact ⟨_, rfl⟩
    · split
      · exact ⟨_, rfl⟩
      · split
        · exact ⟨_, rfl⟩
        · rw [if_pos (by omega)]
          exact ⟨_, rfl⟩

/-- The tag of the first byte is the exponent of the width. -/
theorem tag_of_first {k : Nat} (hk : k ≤ 3) (hv : value < 2 ^ (8 * 2 ^ k - 2)) :
    ((k * 2 ^ (8 * 2 ^ k - 2) + value) / 256 ^ (2 ^ k - 1) % 256) >>> 6 = k := by
  interval_cases k <;> simp only [Nat.shiftRight_eq_div_pow] <;> norm_num at hv ⊢ <;> omega

/-- The encodings of a value: two bits that give the width, and the value in
the rest. A value has one for each width it fits into. -/
def IsVarint (bytes : Bytes) (value : Nat) : Prop :=
  ∃ k, k ≤ 3 ∧ value < 2 ^ (8 * 2 ^ k - 2) ∧
    bytes = beBytes (2 ^ k) (k * 2 ^ (8 * 2 ^ k - 2) + value)

theorem isVarint_of_writeVarint (h : writeVarint value = .ok bytes) : IsVarint bytes value :=
  writeVarint_ok h

section

variable (h : IsVarint bytes value)
include h

theorem IsVarint.lt : value < 2 ^ 62 := by
  obtain ⟨k, hk, hv, -⟩ := h
  refine lt_of_lt_of_le hv (Nat.pow_le_pow_right (by omega) ?_)
  interval_cases k <;> norm_num

theorem IsVarint.ne_nil : bytes ≠ [] := by
  obtain ⟨k, -, -, rfl⟩ := h
  exact List.ne_nil_of_length_pos (by rw [length_beBytes]; exact Nat.two_pow_pos k)

/-- The first byte of an encoding announces its length. -/
theorem IsVarint.width :
    ∃ first tail, bytes = first :: tail ∧ varintWidth first = bytes.length := by
  obtain ⟨k, hk, hv, rfl⟩ := h
  obtain ⟨m, hm⟩ : ∃ m, 2 ^ k = m + 1 := ⟨2 ^ k - 1, by have := Nat.one_le_two_pow (n := k); omega⟩
  have htag := tag_of_first hk hv
  generalize k * 2 ^ (8 * 2 ^ k - 2) + value = tagged at htag ⊢
  rw [hm, Nat.add_sub_cancel] at htag
  refine ⟨UInt8.ofNat (tagged / 256 ^ m), beBytes m tagged, by rw [hm]; rfl, ?_⟩
  rw [length_beBytes, varintWidth, UInt8.toNat_ofNat', htag]

/-- An encoding is read as its value, and what followed it is left. -/
theorem IsVarint.read (rest : Bytes) : readVarint (bytes ++ rest) = .ok (value, rest) := by
  obtain ⟨first, tail, hcons, hwidth⟩ := h.width
  obtain ⟨k, hk, hv, hbytes⟩ := h
  have hlen : bytes.length = 2 ^ k := by rw [hbytes, length_beBytes]
  have hfits : k * 2 ^ (8 * 2 ^ k - 2) + value < 256 ^ 2 ^ k := by
    interval_cases k <;> norm_num at hv ⊢ <;> omega
  have hmod : (k * 2 ^ (8 * 2 ^ k - 2) + value) % 2 ^ (8 * 2 ^ k - 2) = value := by
    rw [Nat.mul_add_mod_self_right, Nat.mod_eq_of_lt hv]
  rw [hcons, List.cons_append, readVarint_cons, hwidth, ← List.cons_append, ← hcons]
  rw [if_neg (by rw [List.length_append]; omega), List.take_left' rfl, List.drop_left' rfl, hlen,
    hbytes, beValue_beBytes_of_lt hfits, hmod]

end

/-- What is read is an encoding and what follows it. -/
theorem readVarint_ok_iff :
    readVarint buffer = .ok (value, rest) ↔
      ∃ bytes, IsVarint bytes value ∧ buffer = bytes ++ rest := by
  constructor
  · intro h
    obtain ⟨first, tail, hbuf, hlen, hvalue, hrest⟩ := readVarint_ok h
    refine ⟨buffer.take (varintWidth first), ?_, ?_⟩
    · have htag : first.toNat >>> 6 ≤ 3 := by
        have hbyte := first.toNat_lt
        rw [Nat.shiftRight_eq_div_pow]
        omega
      refine ⟨first.toNat >>> 6, htag, ?_, ?_⟩
      · rw [hvalue]
        exact Nat.mod_lt _ (Nat.two_pow_pos _)
      · have htake : (buffer.take (varintWidth first)).length = varintWidth first :=
          List.length_take_of_le hlen
        have hback := beBytes_beValue (buffer.take (varintWidth first))
        rw [htake] at hback
        -- the tag is what the value does not hold of the number the bytes spell
        have hdiv : beValue (buffer.take (varintWidth first)) / 2 ^ (8 * varintWidth first - 2) =
            first.toNat >>> 6 := by
          obtain ⟨m, hm⟩ : ∃ m, varintWidth first = m + 1 :=
            ⟨varintWidth first - 1, by have := varintWidth_pos first; omega⟩
          have hpow : 2 ^ (8 * (m + 1) - 2) = 256 ^ m * 64 := by
            rw [show (256 : Nat) = 2 ^ 8 from rfl, ← pow_mul, show (64 : Nat) = 2 ^ 6 from rfl,
              ← pow_add]
            congr 1
          have hlast := beValue_lt (tail.take m)
          rw [hm] at hlen
          have hshort : (tail.take m).length = m := by
            rw [List.length_take]
            rw [hbuf, List.length_cons] at hlen
            omega
          rw [hshort] at hlast
          rw [hm, hpow, hbuf, List.take_succ_cons, beValue, hshort, ← Nat.div_div_eq_div_mul,
            Nat.mul_comm, Nat.mul_add_div (Nat.pos_of_ne_zero (by simp)), Nat.div_eq_of_lt hlast,
            Nat.add_zero, Nat.shiftRight_eq_div_pow]
        have hsplit := Nat.div_add_mod' (beValue (buffer.take (varintWidth first)))
          (2 ^ (8 * varintWidth first - 2))
        rw [hdiv, ← hvalue] at hsplit
        rw [← varintWidth, hsplit, hback]
    · rw [hrest, List.take_append_drop]
  · rintro ⟨bytes, hbytes, rfl⟩
    exact hbytes.read rest

/-- Before its last byte is there, an encoding cannot be read. -/
theorem IsVarint.incomplete (h : IsVarint bytes value) {n : Nat} (hn : n < bytes.length) :
    readVarint (bytes.take n) = .error errH3FrameError := by
  obtain ⟨first, tail, hcons, hwidth⟩ := h.width
  cases n with
  | zero => rfl
  | succ n =>
    have hshort : (bytes.take (n + 1)).length < varintWidth first := by
      rw [List.length_take, hwidth]
      omega
    rw [hcons, List.take_succ_cons] at hshort ⊢
    rw [readVarint_cons, if_pos hshort]

section

variable (h : writeVarint value = .ok bytes)
include h

/-- Reading back what was written gives the value and what followed it. -/
theorem readVarint_writeVarint (rest : Bytes) : readVarint (bytes ++ rest) = .ok (value, rest) :=
  (isVarint_of_writeVarint h).read rest

/-- A value is written in the size `varint_size` gives. -/
theorem length_writeVarint :
    bytes.length = varintSize value := by
  unfold writeVarint at h
  unfold varintSize
  split at h
  · cases h
    rw [if_pos (by assumption), length_beBytes]
  · rw [if_neg (by assumption)]
    split at h
    · cases h
      rw [if_pos (by assumption), length_beBytes]
    · rw [if_neg (by assumption)]
      split at h
      · cases h
        rw [if_pos (by assumption), length_beBytes]
      · rw [if_neg (by assumption)]
        split at h
        · cases h
          rw [length_beBytes]
        · cases h

theorem length_writeVarint_pos : 0 < bytes.length := by
  obtain ⟨k, -, -, rfl⟩ := writeVarint_ok h
  rw [length_beBytes]
  exact Nat.two_pow_pos k

theorem length_writeVarint_le : bytes.length ≤ 8 := by
  obtain ⟨k, hk, -, rfl⟩ := writeVarint_ok h
  rw [length_beBytes]
  exact Nat.pow_le_pow_right (by omega) hk

end

end PyWebTransport

/-
PyWebTransport.Protocol.CharBoundary — where a text may be cut.

`floorCharBoundary` walks back from a byte limit to a byte that is not a
continuation byte. A character's encoding is one starting byte and continuation
bytes after it, so the positions the walk accepts are exactly the ends of the
text's prefixes of whole characters, and the cut is the longest such prefix
within the limit. A cut text is read back as UTF-8.
-/
import Mathlib.Tactic
import PyWebTransport.Protocol.Utils

namespace PyWebTransport

variable {index : Nat}

variable {chars : List Char} {text : String} {bytes : Bytes}

variable {c : Char}

/-! ## The encoding of one character -/

/-- The test `floorCharBoundary` makes on a byte. -/
def startsChar (byte : UInt8) : Bool := byte < 0x80 || 0xC0 ≤ byte

theorem startsChar_iff {byte : UInt8} :
    startsChar byte = true ↔ byte.toNat < 0x80 ∨ 0xC0 ≤ byte.toNat := by
  simp only [startsChar, Bool.or_eq_true, decide_eq_true_eq, UInt8.lt_iff_toNat_lt,
    UInt8.le_iff_toNat_le]
  rfl

theorem startsChar_continuation {n : Nat} : startsChar (UInt8.ofNat (n % 64 + 128)) = false := by
  rw [Bool.eq_false_iff, Ne, startsChar_iff, UInt8.toNat_ofNat']
  omega

/-- A character is one starting byte and continuation bytes after it. -/
theorem utf8EncodeChar_shape :
    ∃ first rest, String.utf8EncodeChar c = first :: rest ∧ startsChar first = true ∧
      ∀ byte ∈ rest, startsChar byte = false := by
  have hval : c.val.toNat < 0x110000 := by
    rcases c.valid with h | h
    · have : c.val.toNat < 0xD800 := h
      omega
    · exact h.2
  rw [String.utf8EncodeChar]
  split_ifs
  · refine ⟨_, [], rfl, ?_, fun _ h => (nomatch h)⟩
    rw [startsChar_iff, UInt8.toNat_ofNat']
    omega
  · refine ⟨_, _, rfl, ?_, ?_⟩
    · rw [startsChar_iff, UInt8.toNat_ofNat']
      omega
    · simp only [List.mem_cons, List.not_mem_nil, or_false, forall_eq]
      exact startsChar_continuation
  · refine ⟨_, _, rfl, ?_, ?_⟩
    · rw [startsChar_iff, UInt8.toNat_ofNat']
      omega
    · simp only [List.mem_cons, List.not_mem_nil, or_false, forall_eq_or_imp, forall_eq]
      exact ⟨startsChar_continuation, startsChar_continuation⟩
  · refine ⟨_, _, rfl, ?_, ?_⟩
    · rw [startsChar_iff, UInt8.toNat_ofNat']
      omega
    · simp only [List.mem_cons, List.not_mem_nil, or_false, forall_eq_or_imp, forall_eq]
      exact ⟨startsChar_continuation, startsChar_continuation, startsChar_continuation⟩

/-! ## The positions between characters -/

/-- The bytes of a sequence of characters. -/
def charBytes (chars : List Char) : Bytes := chars.flatMap String.utf8EncodeChar

@[simp] theorem charBytes_nil : charBytes [] = [] := rfl

@[simp] theorem charBytes_cons :
    charBytes (c :: chars) = String.utf8EncodeChar c ++ charBytes chars := rfl

theorem charBytes_append {more : List Char} :
    charBytes (chars ++ more) = charBytes chars ++ charBytes more :=
  List.flatMap_append

theorem utf8Bytes_eq_charBytes : utf8Bytes text = charBytes text.toList := by
  have h : text.toByteArray = (charBytes text.toList).toByteArray := by
    conv_lhs => rw [← String.ofList_toList (s := text)]
    rfl
  rw [utf8Bytes, String.toUTF8, h]
  simp

theorem utf8Bytes_append {a b : String} : utf8Bytes (a ++ b) = utf8Bytes a ++ utf8Bytes b := by
  simp only [utf8Bytes_eq_charBytes, String.toList_append, charBytes_append]

/-- Characters end where the text ends or another one starts. -/
theorem charBytes_boundary (chars more : List Char) :
    more = [] ∨ ((charBytes (chars ++ more))[(charBytes chars).length]?).any startsChar = true := by
  cases more with
  | nil => exact .inl rfl
  | cons c more =>
    obtain ⟨first, rest, hc, hfirst, -⟩ := utf8EncodeChar_shape
    right
    rw [charBytes_append, List.getElem?_append_right (Nat.le_refl _), Nat.sub_self,
      charBytes_cons, hc]
    exact hfirst

/-- A byte that starts a character stands where the characters before it end. -/
theorem exists_chars_of_startsChar (h : ((charBytes chars)[index]?).any startsChar = true) :
    ∃ kept rest, chars = kept ++ rest ∧ (charBytes kept).length = index := by
  induction chars generalizing index with
  | nil => simp at h
  | cons c chars ih =>
    obtain ⟨first, tail, hc, -, htail⟩ := utf8EncodeChar_shape
    rw [charBytes_cons, hc] at h
    cases index with
    | zero => exact ⟨[], c :: chars, rfl, rfl⟩
    | succ index =>
      rw [List.cons_append, List.getElem?_cons_succ] at h
      by_cases hin : index < tail.length
      · rw [List.getElem?_append_left hin, List.getElem?_eq_getElem hin, Option.any_some,
          htail _ (List.getElem_mem hin)] at h
        cases h
      · rw [List.getElem?_append_right (by omega)] at h
        obtain ⟨kept, rest, hsplit, hlength⟩ := ih h
        refine ⟨c :: kept, rest, congrArg (c :: ·) hsplit, ?_⟩
        rw [charBytes_cons, hc, List.length_append, hlength, List.length_cons]
        omega

/-! ## The cut -/

/-- A position `floorCharBoundary` may stop at. -/
def IsBoundary (bytes : Bytes) (index : Nat) : Prop :=
  index = 0 ∨ index = bytes.length ∨ (bytes[index]?).any startsChar = true

theorem floorCharBoundary_succ :
    floorCharBoundary bytes (index + 1) =
      if bytes.length ≤ index + 1 then bytes.length
      else if (bytes[index + 1]?).any startsChar then index + 1
      else floorCharBoundary bytes index := rfl

theorem floorCharBoundary_le (bytes : Bytes) (limit : Nat) :
    floorCharBoundary bytes limit ≤ limit := by
  induction limit with
  | zero => exact Nat.le_refl 0
  | succ limit ih =>
    rw [floorCharBoundary_succ]
    split_ifs <;> omega

theorem isBoundary_floorCharBoundary (bytes : Bytes) (limit : Nat) :
    IsBoundary bytes (floorCharBoundary bytes limit) := by
  induction limit with
  | zero => exact .inl rfl
  | succ limit ih =>
    rw [floorCharBoundary_succ]
    split_ifs with hend hstart
    · exact .inr (.inl rfl)
    · exact .inr (.inr hstart)
    · exact ih

theorem le_floorCharBoundary {limit : Nat} (hin : index ≤ bytes.length)
    (hindex : IsBoundary bytes index) (hle : index ≤ limit) :
    index ≤ floorCharBoundary bytes limit := by
  induction limit with
  | zero => exact hle
  | succ limit ih =>
    rw [floorCharBoundary_succ]
    split_ifs with hend hstart
    · exact hin
    · exact hle
    · refine ih (Nat.le_of_lt_succ (Nat.lt_of_le_of_ne hle ?_))
      rintro rfl
      rcases hindex with h | h | h
      · cases h
      · omega
      · exact hstart h

/-- The part of a text `floorCharBoundary` keeps: whole characters, within the
limit, and no longer part of the text of whole characters is within it. -/
structure LongestPrefix (text : String) (limit : Nat) (kept : String) : Prop where
  starts : ∃ rest, text = kept ++ rest
  within : (utf8Bytes kept).length ≤ limit
  longest : ∀ other rest, text = other ++ rest → (utf8Bytes other).length ≤ limit →
    (utf8Bytes other).length ≤ (utf8Bytes kept).length

theorem exists_chars_of_isBoundary (h : IsBoundary (charBytes chars) index) :
    ∃ kept rest, chars = kept ++ rest ∧ (charBytes kept).length = index := by
  rcases h with rfl | rfl | h
  · exact ⟨[], chars, rfl, rfl⟩
  · exact ⟨chars, [], (List.append_nil chars).symm, rfl⟩
  · exact exists_chars_of_startsChar h

theorem isBoundary_of_append {kept rest : String} :
    IsBoundary (utf8Bytes (kept ++ rest)) (utf8Bytes kept).length := by
  simp only [utf8Bytes_eq_charBytes, String.toList_append]
  rcases charBytes_boundary kept.toList rest.toList with h | h
  · right; left
    rw [h, List.append_nil]
  · exact .inr (.inr h)

/-- The cut text is the longest prefix of whole characters within the limit. -/
theorem take_floorCharBoundary (text : String) (limit : Nat) :
    ∃ kept, LongestPrefix text limit kept ∧
      (utf8Bytes text).take (floorCharBoundary (utf8Bytes text) limit) = utf8Bytes kept := by
  have hboundary := isBoundary_floorCharBoundary (utf8Bytes text) limit
  have hle := floorCharBoundary_le (utf8Bytes text) limit
  rw [utf8Bytes_eq_charBytes] at hboundary
  obtain ⟨kept, rest, hsplit, hlength⟩ := exists_chars_of_isBoundary hboundary
  have htext : text = String.ofList kept ++ String.ofList rest := by
    rw [← String.ofList_append, ← hsplit, String.ofList_toList]
  have hkept : utf8Bytes (String.ofList kept) = charBytes kept := by
    rw [utf8Bytes_eq_charBytes, String.toList_ofList]
  rw [← utf8Bytes_eq_charBytes] at hlength
  refine ⟨String.ofList kept, ⟨⟨_, htext⟩, ?_, ?_⟩, ?_⟩
  · rw [hkept, hlength]
    exact hle
  · rintro other more rfl hother
    rw [hkept, hlength]
    refine le_floorCharBoundary ?_ isBoundary_of_append hother
    rw [utf8Bytes_append, List.length_append]
    omega
  · rw [hkept, ← hlength, utf8Bytes_eq_charBytes, hsplit, charBytes_append, List.take_left]

/-! ## Reading a text back -/

theorem utf8String?_utf8Bytes : utf8String? (utf8Bytes text) = some text := by
  have harray : (⟨(utf8Bytes text).toArray⟩ : ByteArray) = text.toByteArray := by
    simp [utf8Bytes]
  rw [utf8String?, harray, String.fromUTF8?, dif_pos text.isValidUTF8]
  rfl

end PyWebTransport

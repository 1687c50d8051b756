/-
PyWebTransport.Protocol.H3.CapsuleParser — the capsule parser as an
incremental parser.

A capsule is two integers, type and length, and as many bytes. The loop of
`parse_capsules` takes one capsule per move and never pauses, so what it
makes of a buffer does not depend on how the buffer was filled
(`drainCapsules_append`), and what it leaves in the buffer holds no complete
capsule (`drainCapsules_idle`).
-/
import PyWebTransport.Protocol.H3.Transport
import PyWebTransport.Lib.Incremental

namespace PyWebTransport

open PyWebTransport.Lib

namespace H3

variable {buffer payload : Bytes} {frameType frameSize : Nat} {rest typeBytes : Bytes}
  {maxCapsuleSize : Nat} {streamId : StreamId}

/-! ## Two integers at the front of a buffer -/

theorem readFrameHeader_ok (h : readFrameHeader buffer = some (frameType, frameSize, payload)) :
    ∃ rest, readVarint buffer = .ok (frameType, rest) ∧
      readVarint rest = .ok (frameSize, payload) := by
  unfold readFrameHeader at h
  cases hfirst : readVarint buffer with
  | error e =>
    rw [hfirst] at h
    cases h
  | ok first =>
    rw [hfirst] at h
    cases hsecond : readVarint first.2 with
    | error e =>
      simp only [hsecond] at h
      cases h
    | ok second =>
      simp only [hsecond] at h
      cases h
      exact ⟨first.2, rfl, hsecond⟩

theorem readFrameHeader_of_ok (hfirst : readVarint buffer = .ok (frameType, rest))
    (hsecond : readVarint rest = .ok (frameSize, payload)) :
    readFrameHeader buffer = some (frameType, frameSize, payload) := by
  simp only [readFrameHeader, hfirst, hsecond]

theorem readFrameHeader_append (h : readFrameHeader buffer = some (frameType, frameSize, payload))
    (more : Bytes) :
    readFrameHeader (buffer ++ more) = some (frameType, frameSize, payload ++ more) := by
  obtain ⟨rest, hfirst, hsecond⟩ := readFrameHeader_ok h
  exact readFrameHeader_of_ok (readVarint_append hfirst) (readVarint_append hsecond)

theorem length_readFrameHeader (h : readFrameHeader buffer = some (frameType, frameSize, payload)) :
    payload.length < buffer.length := by
  obtain ⟨rest, hfirst, hsecond⟩ := readFrameHeader_ok h
  exact (readVarint_length hsecond).trans (readVarint_length hfirst)

@[simp] theorem readFrameHeader_nil : readFrameHeader [] = none := rfl

/-- A buffer written as two integers and a rest. -/
theorem readFrameHeader_encoded {sizeBytes : Bytes} (htype : writeVarint frameType = .ok typeBytes)
    (hsize : writeVarint frameSize = .ok sizeBytes) (payload : Bytes) :
    readFrameHeader (typeBytes ++ sizeBytes ++ payload) = some (frameType, frameSize, payload) := by
  rw [List.append_assoc]
  exact readFrameHeader_of_ok (readVarint_writeVarint htype _) (readVarint_writeVarint hsize _)

/-! ## The parser -/

def capsuleTooLarge (streamId : StreamId) : WebTransportError :=
  .stream streamId (some errH3MessageError) "wt_capsule validate exceeded"

/-- One capsule off the front of the buffer. -/
def capsuleStep (maxCapsuleSize : Nat) (streamId : StreamId) (buffer : Bytes) :
    Option (Except WebTransportError (Move Unit UInt8 ProtocolEvent)) :=
  match readFrameHeader buffer with
  | none => none
  | some (capsuleType, capsuleLength, payload) =>
    if capsuleLength > maxCapsuleSize then some (.error (capsuleTooLarge streamId))
    else if payload.length < capsuleLength then none
    else some (.ok ⟨(), payload.drop capsuleLength,
      [.h3CapsuleReceived streamId capsuleType (payload.take capsuleLength)], false⟩)

def capsuleParser (maxCapsuleSize : Nat) (streamId : StreamId) :
    Incremental Unit UInt8 ProtocolEvent WebTransportError where
  step _ buffer := capsuleStep maxCapsuleSize streamId buffer
  idle_nil _ := rfl
  consumes {_ b m} h := by
    unfold capsuleStep at h
    split at h
    · cases h
    · rename_i hheader
      have := length_readFrameHeader hheader
      split at h
      · cases h
      · split at h
        · cases h
        · cases h
          simp only [List.length_drop]
          omega
  extend_ok {_ b m} h y := by
    unfold capsuleStep at h
    split at h
    · cases h
    · rename_i capsuleType capsuleLength payload hheader
      split at h
      · cases h
      · rename_i hsize
        split at h
        · cases h
        · rename_i hlen
          cases h
          have hlen' : ¬(payload ++ y).length < capsuleLength := by
            rw [List.length_append]
            omega
          simp only [capsuleStep, readFrameHeader_append hheader, if_neg hsize, if_neg hlen']
          rw [List.drop_append_of_le_length (by omega), List.take_append_of_le_length (by omega)]
  extend_error {_ b e} h y := by
    unfold capsuleStep at h
    split at h
    · cases h
    · rename_i hheader
      split at h
      · rename_i hsize
        cases h
        simp only [capsuleStep, readFrameHeader_append hheader, if_pos hsize]
      · split at h
        · cases h
        · cases h

theorem capsuleStep_pauses {m : Move Unit UInt8 ProtocolEvent}
    (h : capsuleStep maxCapsuleSize streamId buffer = some (.ok m)) : m.pauses = false := by
  unfold capsuleStep at h
  split at h
  · cases h
  · split at h
    · cases h
    · split at h
      · cases h
      · cases h
        rfl

/-- The capsules in a buffer, and what is left of it. -/
def drainCapsules (maxCapsuleSize : Nat) (streamId : StreamId) (buffer : Bytes) :
    Except WebTransportError (Bytes × List ProtocolEvent) :=
  parseCapsulesLoop maxCapsuleSize streamId buffer.length buffer

/-- One round of the loop is one move. -/
theorem parseCapsulesLoop_succ {fuel : Nat} :
    parseCapsulesLoop maxCapsuleSize streamId (fuel + 1) buffer =
      match capsuleStep maxCapsuleSize streamId buffer with
      | none => .ok (buffer, [])
      | some (.error e) => .error e
      | some (.ok m) => (parseCapsulesLoop maxCapsuleSize streamId fuel m.rest).map
          fun p => (p.1, m.out ++ p.2) := by
  cases hfirst : readVarint buffer with
  | error e => simp only [parseCapsulesLoop, capsuleStep, readFrameHeader, hfirst]
  | ok first =>
    cases hsecond : readVarint first.2 with
    | error e => simp only [parseCapsulesLoop, capsuleStep, readFrameHeader, hfirst, hsecond]
    | ok second =>
      simp only [parseCapsulesLoop, capsuleStep, readFrameHeader, hfirst, hsecond]
      split
      · rfl
      · split
        · rfl
        · rfl

theorem parseCapsulesLoop_eq_advance (maxCapsuleSize : Nat) (streamId : StreamId) :
    ∀ (fuel : Nat) (buffer : Bytes), buffer.length ≤ fuel →
      parseCapsulesLoop maxCapsuleSize streamId fuel buffer =
        ((capsuleParser maxCapsuleSize streamId).advance 1 () buffer).map fun p => (p.2.1, p.2.2)
  | 0, buffer, hfuel => by
      have hnil : buffer = [] := List.length_eq_zero_iff.mp (by omega)
      subst hnil
      rw [(capsuleParser maxCapsuleSize streamId).advance_of_idle rfl]
      rfl
  | fuel + 1, buffer, hfuel => by
      rw [parseCapsulesLoop_succ]
      cases hstep : capsuleStep maxCapsuleSize streamId buffer with
      | none =>
        rw [(capsuleParser maxCapsuleSize streamId).advance_of_idle hstep]
        rfl
      | some result =>
        cases result with
        | error e =>
          rw [(capsuleParser maxCapsuleSize streamId).advance_of_error hstep]
          rfl
        | ok m =>
          have hlt := (capsuleParser maxCapsuleSize streamId).consumes (s := ()) hstep
          have hfree := capsuleStep_pauses hstep
          rw [(capsuleParser maxCapsuleSize streamId).advance_of_ok hstep, hfree,
            if_neg (by simp)]
          simp only [parseCapsulesLoop_eq_advance maxCapsuleSize streamId fuel m.rest
            (by omega)]
          cases (capsuleParser maxCapsuleSize streamId).advance 1 m.next m.rest with
          | error e | ok p => rfl

theorem drainCapsules_eq_advance :
    drainCapsules maxCapsuleSize streamId buffer =
      ((capsuleParser maxCapsuleSize streamId).advance 1 () buffer).map
        fun p => (p.2.1, p.2.2) :=
  parseCapsulesLoop_eq_advance maxCapsuleSize streamId _ buffer (Nat.le_refl _)

/-- Filling the buffer in two steps makes no difference. -/
theorem drainCapsules_append (maxCapsuleSize : Nat) (streamId : StreamId) (a b : Bytes) :
    drainCapsules maxCapsuleSize streamId (a ++ b) =
      (drainCapsules maxCapsuleSize streamId a).bind fun p =>
        (drainCapsules maxCapsuleSize streamId (p.1 ++ b)).map fun q => (q.1, p.2 ++ q.2) := by
  simp only [drainCapsules_eq_advance]
  rw [(capsuleParser maxCapsuleSize streamId).advance_append
    (fun {_ _ _} h => capsuleStep_pauses h)]
  cases (capsuleParser maxCapsuleSize streamId).advance 1 () a with
  | error e => rfl
  | ok p =>
    simp only [Except.bind, Except.map]
    cases (capsuleParser maxCapsuleSize streamId).advance 1 p.1 (p.2.1 ++ b) with
    | error e | ok q => rfl

/-- No complete capsule stays in the buffer. -/
theorem drainCapsules_idle {events : List ProtocolEvent}
    (h : drainCapsules maxCapsuleSize streamId buffer = .ok (rest, events)) :
    drainCapsules maxCapsuleSize streamId rest = .ok (rest, []) := by
  have hnil := drainCapsules_append maxCapsuleSize streamId buffer []
  rw [List.append_nil, h] at hnil
  obtain ⟨q, hrest, hnil⟩ := exists_of_map_eq_ok hnil.symm
  obtain ⟨hq, hevents⟩ := Prod.mk.inj hnil
  rw [List.append_nil] at hrest
  rw [hrest, ← hq, ← List.self_eq_append_right.mp hevents.symm]

/-- A capsule written out in full is the first one read. -/
theorem drainCapsules_encoded {capsuleType : Nat} {lengthBytes : Bytes}
    (htype : writeVarint capsuleType = .ok typeBytes) {value : Bytes}
    (hlength : writeVarint value.length = .ok lengthBytes) (hsize : value.length ≤ maxCapsuleSize)
    (streamId : StreamId) (rest : Bytes) :
    drainCapsules maxCapsuleSize streamId (typeBytes ++ lengthBytes ++ value ++ rest) =
      (drainCapsules maxCapsuleSize streamId rest).map fun p =>
        (p.1, .h3CapsuleReceived streamId capsuleType value :: p.2) := by
  have hstep : capsuleStep maxCapsuleSize streamId (typeBytes ++ lengthBytes ++ value ++ rest) =
      some (.ok ⟨(), rest, [.h3CapsuleReceived streamId capsuleType value], false⟩) := by
    rw [capsuleStep, List.append_assoc, readFrameHeader_encoded htype hlength]
    simp only [List.length_append, List.drop_left, List.take_left]
    rw [if_neg (by omega), if_neg (by omega)]
  simp only [drainCapsules_eq_advance]
  rw [(capsuleParser maxCapsuleSize streamId).advance_of_ok hstep]
  simp only [Bool.false_eq_true, if_false]
  cases (capsuleParser maxCapsuleSize streamId).advance 1 () rest with
  | error e | ok p => rfl

end H3

end PyWebTransport

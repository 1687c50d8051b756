/-
PyWebTransport.Protocol.H3.CapsuleArrival — when a capsule that comes in
chunks is raised.

`Expects` says what the bytes still to come on a CONNECT stream will raise. A
chunk that could go on to two different capsules raises nothing
(`Expects.chunk`): what it raised would have to begin both. So a capsule with a
value is raised with its last byte and not before, and that is when the layer
above may drop the stream. What HTTP/3 asks of the transport meanwhile is calm:
it reads on and sends instructions (`recvRequestData_calm`).
-/
import PyWebTransport.Protocol.H3.CapsuleRoundTrip
import PyWebTransport.Protocol.H3.StreamTable

namespace PyWebTransport

open PyWebTransport.Lib

/-- An effect that ends neither the connection nor a sending side, and tells
the application nothing. -/
def Effect.isCalm : Effect → Bool
  | .sendQuicData .. | .receiveQuicData .. | .stopQuicStream .. => true
  | _ => false

def AllCalm (effects : List Effect) : Prop := ∀ effect ∈ effects, effect.isCalm = true

theorem AllCalm.nil : AllCalm [] := fun _ h => nomatch h

theorem AllCalm.append {a b : List Effect} (ha : AllCalm a) (hb : AllCalm b) :
    AllCalm (a ++ b) := by
  exact List.forall_mem_append.mpr ⟨ha, hb⟩

namespace H3

variable {Q : Qpack} {h : H3 Q} {streamId : StreamId} {stream : H3Stream} {rest : Bytes}
  {outcome : Outcome} {events : List ProtocolEvent}

/-! ## What reading asks of the transport -/

theorem SendsOnly.calm {effects : List Effect} (h : SendsOnly effects) : AllCalm effects := by
  intro effect heffect
  obtain ⟨_, _, _, rfl⟩ := h effect heffect
  rfl

theorem cleanupStream_calm (h : H3 Q) : AllCalm (h.cleanupStream streamId).2 :=
  h.cleanupStream_sends.calm

theorem stopRequestStream_calm (h : H3 Q) : AllCalm (h.stopRequestStream streamId).2 := by
  unfold stopRequestStream
  split
  · exact .nil
  · intro effect heffect
    rcases List.mem_cons.mp heffect with rfl | heffect
    · rfl
    · exact h.cleanupStream_calm effect heffect

theorem finishRequestData_calm {was : Bool} (hcalm : AllCalm outcome.2) :
    AllCalm (h.finishRequestData streamId was stream outcome).2.2 := by
  unfold finishRequestData
  split
  · exact hcalm.append h.cleanupStream_calm
  · refine hcalm.append ?_
    split
    · simp [AllCalm, Effect.isCalm]
    · exact .nil

theorem recvRequestData_calm (hQ : Q.NonBlocking) {h' : H3 Q} (hr : Reads streamId h stream)
    {data : Bytes} {streamEnded : Bool}
    (hrecv : h.recvRequestData streamId data streamEnded = some (h', .ok outcome)) :
    AllCalm outcome.2 := by
  rw [recvRequestData_request hr] at hrecv
  obtain ⟨⟨layer, result⟩, hparsed, heq⟩ := Option.map_eq_some_iff.mp hrecv
  have hblocked : stream.blocked = false := hr.sound.coherent.notBlocked
  have hparses := parseStreamData_parses hQ (by exact hblocked) hparsed
  cases result with
  | error e => cases heq
  | ok parsed =>
    cases heq
    exact finishRequestData_calm (SendsOnly.calm (Parses.sends hparses.parses))

/-- An empty FIN on a stream the layer has forgotten. -/
theorem recvRequestData_forgotten (hgone : h.streams.get? streamId = none) :
    ∃ h' effects, h.recvRequestData streamId [] true = some (h', .ok ([], effects)) ∧
      AllCalm effects := by
  refine ⟨((h.withoutStream streamId).cleanupStream streamId).1,
    ((h.withoutStream streamId).cleanupStream streamId).2, ?_, cleanupStream_calm _⟩
  rw [recvRequestData, feedStream, hgone]
  rfl

/-! ## What the bytes to come will raise -/

/-- With these bytes the stream comes to a frame boundary and raises these events. -/
def Expects (streamId : StreamId) (h : H3 Q) (stream : H3Stream) (rest : Bytes)
    (events : List ProtocolEvent) : Prop :=
  ∃ t : ParserState Q, AtBoundary t.2 ∧
    (frameParser Q streamId).advance 1 (parserState h streamId stream) (stream.buffer ++ rest) =
      .ok (t, [], events)

/-- A chunk after which two different events are still possible raises nothing. -/
theorem Expects.chunk (hr : Reads streamId h stream) {chunk other : Bytes}
    {event event' : ProtocolEvent} (hne : event ≠ event')
    (hexpects : Expects streamId h stream (chunk ++ rest) [event])
    (hother : Expects streamId h stream (chunk ++ other) [event']) :
    ∃ h' stream' effects, h.recvRequestData streamId chunk false = some (h', .ok ([], effects)) ∧
      Reads streamId h' stream' ∧ Expects streamId h' stream' rest [event] ∧
      Expects streamId h' stream' other [event'] := by
  obtain ⟨t, ht, hadvance⟩ := hexpects
  obtain ⟨t', ht', hadvance'⟩ := hother
  obtain ⟨p, events, hfirst, hrest, hevents⟩ := (frameParser Q streamId).advance_split hadvance
  obtain ⟨p', events', hfirst', hrest', hevents'⟩ := (frameParser Q streamId).advance_split hadvance'
  obtain rfl : p = p' := Except.ok.inj (hfirst.symm.trans hfirst')
  have hraised : p.2.2 = [] := by
    cases hp : p.2.2 with
    | nil => rfl
    | cons first more =>
      rw [hp] at hevents hevents'
      have h₁ : event = first := (List.cons.inj hevents).1
      have h₂ : event' = first := (List.cons.inj hevents').1
      exact absurd (h₁.trans h₂.symm) hne
  rw [hraised, List.nil_append] at hevents hevents'
  subst hevents hevents'
  have hagrees := recvRequestData_agrees hr chunk
  rw [hfirst] at hagrees
  obtain ⟨h', stream', effects, hrecv, hreads, hstate, hbuffer⟩ := hagrees
  rw [hraised] at hrecv
  exact ⟨h', stream', effects, hrecv, hreads, ⟨t, ht, by rw [hstate, hbuffer]; exact hrest⟩,
    ⟨t', ht', by rw [hstate, hbuffer]; exact hrest'⟩⟩

/-- The last bytes without FIN. -/
theorem Expects.last (hr : Reads streamId h stream)
    (hexpects : Expects streamId h stream rest events) :
    ∃ h' stream' effects, h.recvRequestData streamId rest false = some (h', .ok (events, effects)) ∧
      Reads streamId h' stream' := by
  obtain ⟨t, -, hadvance⟩ := hexpects
  have hagrees := recvRequestData_agrees hr rest
  rw [hadvance] at hagrees
  obtain ⟨h', stream', effects, hrecv, hreads, -⟩ := hagrees
  exact ⟨h', stream', effects, hrecv, hreads⟩

/-- The last bytes with FIN. -/
theorem Expects.fin (hr : Reads streamId h stream)
    (hexpects : Expects streamId h stream rest events) :
    ∃ h' effects, h.recvRequestData streamId rest true =
      some (h', .ok (events ++ [.h3ConnectStreamClosed streamId], effects)) := by
  obtain ⟨t, ht, hadvance⟩ := hexpects
  exact recvRequestData_fin hr hadvance ht.frameType ht.isConnectStream

theorem ReadyForCapsules.expects {streamId : StreamId} {h : H3 Q} {stream : H3Stream}
    (hready : ReadyForCapsules streamId h stream) {capsules : List (Nat × Bytes)}
    (hsize : ∀ capsule ∈ capsules, capsule.2.length ≤ h.maxCapsuleSize) {wire : Bytes}
    (hwire : encodeCapsules streamId capsules = .ok wire) :
    Expects streamId h stream wire (capsuleEvents streamId capsules) :=
  hready.advance hsize hwire

/-- The wire of a capsule ends with its value, behind a header that depends on
the length only. -/
theorem encodeCapsules_header {capsuleType length : Nat} :
    ∃ header : Except WebTransportError Bytes, ∀ value : Bytes, value.length = length →
      encodeCapsules streamId [(capsuleType, value)] = header.map (· ++ value) := by
  refine ⟨(encodeCapsule streamId capsuleType (List.replicate length 0)).map fun pieces =>
    pieces.dropLast.flatten, ?_⟩
  rintro value rfl
  simp only [encodeCapsules, encodeCapsule, List.length_replicate]
  split
  · rfl
  · cases encodeVarint capsuleType with
    | error e => rfl
    | ok typeBytes =>
      cases encodeVarint value.length with
      | error e => rfl
      | ok lengthBytes =>
        simp only [Except.bind]
        cases encodeFrameHeader h3FrameTypeData
            ((typeBytes ++ lengthBytes).length + value.length) with
        | error e => rfl
        | ok frameHeader => simp [Except.map]

end H3

end PyWebTransport

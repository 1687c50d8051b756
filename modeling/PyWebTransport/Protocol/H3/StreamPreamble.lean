/-
PyWebTransport.Protocol.H3.StreamPreamble — the bytes in front of a
WebTransport stream: its type and the id of its session.

HTTP/3 asks for these bytes one at a time, because whatever follows them
belongs to the application. The stream type is read into a buffer that is
then cleared, and the session id into the same buffer; both directions go
the same way, with a signal value on bidirectional streams and a stream type
on unidirectional ones.

`header_byte_waits`, `header_type_read` and `header_session_read` are the
three things a byte can do. `callAll_bytes` carries them through an encoding
of any width: no proper beginning of it can be read (`IsVarint.incomplete`),
so the stream is asked for one byte as long as one is missing, and not once
more (`preamble_consumed_exactly`).
-/
import PyWebTransport.Protocol.H3.Datagrams
import PyWebTransport.Protocol.H3.LayerRuns

namespace PyWebTransport

open PyWebTransport.Lib

namespace H3

variable {Q : Qpack} {h h' : H3 Q} {streamId : StreamId} {buffer : Bytes} {byte : UInt8}
  {connection : Connection} {e : ErrorCode} {sessionId : SessionId} {streamType : Option Nat}
  {outcome : Outcome} {rest : Bytes} {h'' : H3 Q} {calls : List (Call Q)}
  {steps : List (ProtocolEvent × Connection)}

/-- The type in front of a WebTransport stream. -/
def preambleType (streamId : StreamId) : Nat :=
  if isUnidirectionalStream streamId then h3StreamTypeWebtransport else h3FrameTypeWtStream

/-- A stream of which only the header has been read: its type, if that is
known, and the bytes since. -/
def headerStream (streamType : Option Nat) (buffer : Bytes) : H3Stream := { buffer, streamType }

/-- One more byte is asked for. -/
def askForByte (streamId : StreamId) : Outcome := ([], [.receiveQuicData streamId 1])

def headerEvent (streamId : StreamId) (byte : UInt8) : ProtocolEvent :=
  .transportStreamDataReceived streamId [byte] false

theorem feedStream_header (hget : h.streams.get? streamId = some (headerStream streamType buffer))
    (byte : UInt8) :
    h.feedStream streamId [byte] false = headerStream streamType (buffer ++ [byte]) := by
  simp only [feedStream, hget, Option.getD_some, headerStream, Bool.or_false]

/-- The methods for the two directions, up to the stream they are for. -/
def recvHeaderData (h : H3 Q) (streamId : StreamId) (data : Bytes) (connection : Connection) :
    Option (H3 Q × Except WebTransportError Outcome) :=
  if isUnidirectionalStream streamId then
    h.recvUnidirectionalStreamData streamId data false connection
  else h.recvRequestData streamId data false

theorem handleTransportEvent_of_ok
    (hr : h.recvHeaderData streamId [byte] connection = some (h', .ok outcome)) :
    h.handleTransportEvent (headerEvent streamId byte) connection = some (h', outcome) := by
  unfold recvHeaderData at hr
  simp only [handleTransportEvent, headerEvent, transportResult, hr, Option.map_some]

/-! ## One byte -/

theorem awaitHeader_header :
    h.awaitHeader streamId (headerStream streamType buffer) =
      ({ h with streams := h.streams.insert streamId (headerStream streamType buffer) },
        askForByte streamId) := rfl

/-- A header that is not whole yet is kept, and one more byte asked for. -/
theorem parseStreamHeader_waits (h : H3 Q) (streamId : StreamId) {buffer : Bytes} {e : ErrorCode}
    (hread : readVarint buffer = .error e) :
    h.parseStreamHeader streamId (headerStream (some h3StreamTypeWebtransport) buffer) =
      ({ h with streams :=
          h.streams.insert streamId (headerStream (some h3StreamTypeWebtransport) buffer) },
        .ok (askForByte streamId)) := by
  have hbuffer : readVarint (headerStream (some h3StreamTypeWebtransport) buffer).buffer =
      .error e := hread
  simp only [parseStreamHeader, hbuffer, awaitHeader_header]

/-- Nothing is known of the stream yet, and its type is not whole. -/
theorem recvRequestData_incomplete
    (hget : h.streams.get? streamId = some (headerStream none buffer))
    (hread : readVarint (buffer ++ [byte]) = .error e) :
    h.recvRequestData streamId [byte] false =
      some ({ h with streams :=
          (h.streams.erase streamId).insert streamId (headerStream none (buffer ++ [byte])) },
        .ok (askForByte streamId)) := by
  have hkind : identifyRequest { h with streams := h.streams.erase streamId }
      (headerStream none (buffer ++ [byte])) = .incomplete := by
    have hbuffer : readVarint (headerStream none (buffer ++ [byte])).buffer = .error e := hread
    simp only [identifyRequest, hbuffer]
    rfl
  simp only [recvRequestData, feedStream_header hget, hkind]
  exact congrArg some (Prod.ext (by rw [awaitHeader_header]) (by rw [awaitHeader_header]))

theorem recvUnidirectionalStreamData_incomplete
    (hget : h.streams.get? streamId = some (headerStream none buffer))
    (hread : readVarint (buffer ++ [byte]) = .error e) :
    h.recvUnidirectionalStreamData streamId [byte] false connection =
      some ({ h with streams :=
          (h.streams.erase streamId).insert streamId (headerStream none (buffer ++ [byte])) },
        .ok (askForByte streamId)) := by
  have hkind : identifyUnidirectional { h with streams := h.streams.erase streamId } streamId
      (headerStream none (buffer ++ [byte])) = .incomplete := by
    have hbuffer : readVarint (headerStream none (buffer ++ [byte])).buffer = .error e := hread
    have htype : (headerStream none (buffer ++ [byte])).streamType = none := rfl
    simp only [identifyUnidirectional, htype, hbuffer]
  simp only [recvUnidirectionalStreamData, feedStream_header hget, hkind]
  exact congrArg some (Prod.ext (by rw [awaitHeader_header]) (by rw [awaitHeader_header]))

theorem header_byte_waits (htype : streamType = none ∨ streamType = some h3StreamTypeWebtransport)
    (hget : h.streams.get? streamId = some (headerStream streamType buffer))
    (hread : readVarint (buffer ++ [byte]) = .error e) :
    ∃ h', h.handleTransportEvent (headerEvent streamId byte) connection =
        some (h', askForByte streamId) ∧
      h'.streams.get? streamId = some (headerStream streamType (buffer ++ [byte])) := by
  have hbuffer : readVarint (headerStream streamType (buffer ++ [byte])).buffer = .error e := hread
  refine ⟨{ h with streams :=
    (h.streams.erase streamId).insert streamId (headerStream streamType (buffer ++ [byte])) },
    handleTransportEvent_of_ok ?_, OrderedMap.get?_insert_self _ _ _⟩
  unfold recvHeaderData
  rcases htype with rfl | rfl
  · split
    · rw [recvUnidirectionalStreamData_incomplete hget hread]
    · rw [recvRequestData_incomplete hget hread]
  · split
    · simp only [recvUnidirectionalStreamData, feedStream_header hget]
      exact congrArg some (parseStreamHeader_waits _ streamId hread)
    · simp only [recvRequestData, feedStream_header hget]
      exact congrArg some (parseStreamHeader_waits _ streamId hread)

/-- The byte that completes the type: the buffer is cleared, and the session
id is still to come. -/
theorem header_type_read (hget : h.streams.get? streamId = some (headerStream none buffer))
    (hread : readVarint (buffer ++ [byte]) = .ok (preambleType streamId, rest)) :
    ∃ h', h.handleTransportEvent (headerEvent streamId byte) connection =
        some (h', askForByte streamId) ∧
      h'.streams.get? streamId = some (headerStream (some h3StreamTypeWebtransport) []) := by
  have hbuffer : readVarint (headerStream none (buffer ++ [byte])).buffer =
      .ok (preambleType streamId, rest) := hread
  have hwaits := fun h : H3 Q => @parseStreamHeader_waits Q h streamId [] _ rfl
  refine ⟨{ h with
    streams := (h.streams.erase streamId).insert streamId
      (headerStream (some h3StreamTypeWebtransport) []) }, handleTransportEvent_of_ok ?_,
    OrderedMap.get?_insert_self _ _ _⟩
  unfold recvHeaderData
  unfold preambleType at hbuffer
  split
  · rename_i huni
    rw [if_pos huni] at hbuffer
    have hkind : identifyUnidirectional { h with streams := h.streams.erase streamId } streamId
        (headerStream none (buffer ++ [byte])) =
        .known { h with streams := h.streams.erase streamId }
          (headerStream (some h3StreamTypeWebtransport) []) h3StreamTypeWebtransport := by
      have htype : (headerStream none (buffer ++ [byte])).streamType = none := rfl
      simp only [identifyUnidirectional, htype, hbuffer]
      rfl
    simp only [recvUnidirectionalStreamData, feedStream_header hget, hkind, if_true]
    exact congrArg some (hwaits _)
  · rename_i hbidi
    rw [if_neg hbidi] at hbuffer
    have hkind : identifyRequest { h with streams := h.streams.erase streamId }
        (headerStream none (buffer ++ [byte])) =
        .webtransport (headerStream (some h3StreamTypeWebtransport) []) := by
      simp only [identifyRequest, hbuffer]
      rfl
    simp only [recvRequestData, feedStream_header hget, hkind]
    exact congrArg some (hwaits _)

/-- The byte that completes the session id: the stream is handed on. -/
theorem header_session_read (hget : h.streams.get? streamId =
      some (headerStream (some h3StreamTypeWebtransport) buffer))
    (hread : readVarint (buffer ++ [byte]) = .ok (sessionId, rest))
    (hvalid : isValidSessionId sessionId = true) :
    ∃ h', h.handleTransportEvent (headerEvent streamId byte) connection =
        some (h', ([.h3WebTransportStreamOpened sessionId streamId], [])) ∧
      h'.streams.get? streamId = none := by
  have hparsed : ∀ h : H3 Q, h.parseStreamHeader streamId
      (headerStream (some h3StreamTypeWebtransport) (buffer ++ [byte])) =
      (h, .ok ([.h3WebTransportStreamOpened sessionId streamId], [])) := by
    intro h
    have hbuffer : readVarint (headerStream (some h3StreamTypeWebtransport)
        (buffer ++ [byte])).buffer = .ok (sessionId, rest) := hread
    simp only [parseStreamHeader, hbuffer, hvalid, Bool.not_true]
    rfl
  refine ⟨{ h with streams := h.streams.erase streamId }, handleTransportEvent_of_ok ?_,
    OrderedMap.get?_erase_self _ _⟩
  unfold recvHeaderData
  split
  · simp only [recvUnidirectionalStreamData, feedStream_header hget]
    exact congrArg some (hparsed _)
  · simp only [recvRequestData, feedStream_header hget]
    exact congrArg some (hparsed _)

/-! ## All bytes -/

theorem callAll_cons {event : ProtocolEvent} {rest : List (ProtocolEvent × Connection)}
    (hhandled : h.handleTransportEvent event connection = some (h', outcome))
    (hrest : callAll rest h' = some (calls, h'')) :
    callAll ((event, connection) :: rest) h =
      some (⟨event, connection, h, h', outcome⟩ :: calls, h'') := by
  simp only [callAll, hhandled, Option.bind_some, hrest, Option.map_some]

theorem callAll_append {first second : List (ProtocolEvent × Connection)} {calls' : List (Call Q)}
    (hfirst : callAll first h = some (calls, h'))
    (hsecond : callAll second h' = some (calls', h'')) :
    callAll (first ++ second) h = some (calls ++ calls', h'') := by
  induction first generalizing h calls with
  | nil =>
    cases hfirst
    exact hsecond
  | cons step rest ih =>
    obtain ⟨event, connection⟩ := step
    obtain ⟨handled, hhandled, hrest⟩ := Option.bind_eq_some_iff.mp hfirst
    obtain ⟨others, hothers, heq⟩ := Option.map_eq_some_iff.mp hrest
    cases heq
    exact callAll_cons hhandled (ih hothers)

/-- The bytes of an encoding, one at a time: as long as one is missing the
stream waits (`Waits`), with the last one it is done (`Done`). -/
theorem callAll_bytes {bytes : Bytes} {value : Nat} (hbytes : IsVarint bytes value)
    {Waits : Bytes → H3 Q → Prop} {Done : H3 Q → Prop} {last : Outcome}
    (hwaits : ∀ {buffer byte e} {h : H3 Q}, Waits buffer h →
      readVarint (buffer ++ [byte]) = .error e → ∀ connection,
      ∃ h', h.handleTransportEvent (headerEvent streamId byte) connection =
        some (h', askForByte streamId) ∧ Waits (buffer ++ [byte]) h')
    (hdone : ∀ {buffer byte} {h : H3 Q}, Waits buffer h →
      readVarint (buffer ++ [byte]) = .ok (value, []) → ∀ connection,
      ∃ h', h.handleTransportEvent (headerEvent streamId byte) connection = some (h', last) ∧
        Done h') :
    ∀ (missing buffer : Bytes) {h : H3 Q} {steps : List (ProtocolEvent × Connection)},
      bytes = buffer ++ missing → missing ≠ [] → Waits buffer h →
      steps.map Prod.fst = missing.map (headerEvent streamId) →
      ∃ calls h', callAll steps h = some (calls, h') ∧
        calls.map Call.outcome =
          List.replicate (missing.length - 1) (askForByte streamId) ++ [last] ∧ Done h' := by
  intro missing
  induction missing with
  | nil => exact fun _ _ _ _ hne => absurd rfl hne
  | cons byte missing ih =>
    intro buffer h steps hsplit _ hstate hsteps
    cases steps with
    | nil => cases hsteps
    | cons step steps =>
      obtain ⟨event, connection⟩ := step
      obtain ⟨rfl, hsteps'⟩ := List.cons.inj hsteps
      cases missing with
      | nil =>
        -- the last byte is there
        have hread := hbytes.read []
        rw [List.append_nil, hsplit] at hread
        obtain ⟨h', hhandled, hend⟩ := hdone hstate hread connection
        cases List.map_eq_nil_iff.mp hsteps'
        exact ⟨_, h', callAll_cons hhandled rfl, rfl, hend⟩
      | cons next missing =>
        have hsplit' : bytes = (buffer ++ [byte]) ++ next :: missing := by
          rw [hsplit, List.append_assoc]
          rfl
        have hread : readVarint (buffer ++ [byte]) = .error errH3FrameError := by
          have hshort : (buffer ++ [byte]).length < bytes.length := by
            simp only [hsplit', List.length_append, List.length_cons]
            omega
          have hincomplete := hbytes.incomplete hshort
          rwa [hsplit', List.take_left' rfl] at hincomplete
        obtain ⟨h', hhandled, hstate'⟩ := hwaits hstate hread connection
        obtain ⟨calls, h'', hcalls, houtcomes, hend⟩ :=
          ih (buffer ++ [byte]) hsplit' (List.cons_ne_nil _ _) hstate' hsteps'
        refine ⟨_, h'', callAll_cons hhandled hcalls, ?_, hend⟩
        rw [List.map_cons, houtcomes]
        rfl

/-- The type of a stream. -/
theorem callAll_type {typeBytes : Bytes} (htype : IsVarint typeBytes (preambleType streamId))
    (hget : h.streams.get? streamId = some (headerStream none []))
    (hsteps : steps.map Prod.fst = typeBytes.map (headerEvent streamId)) :
    ∃ calls h', callAll steps h = some (calls, h') ∧
      calls.map Call.outcome = List.replicate typeBytes.length (askForByte streamId) ∧
      h'.streams.get? streamId = some (headerStream (some h3StreamTypeWebtransport) []) := by
  obtain ⟨calls, h', hcalls, houtcomes, hend⟩ := callAll_bytes htype
    (fun hstate hread connection => header_byte_waits (Or.inl rfl) hstate hread)
    (fun hstate hread connection => header_type_read hstate hread)
    typeBytes [] (List.nil_append _).symm htype.ne_nil hget hsteps
  refine ⟨calls, h', hcalls, ?_, hend⟩
  have hpos := List.length_pos_iff.mpr htype.ne_nil
  rw [houtcomes, ← List.replicate_succ', Nat.sub_add_cancel hpos]

/-- The id of the session. -/
theorem callAll_session {idBytes : Bytes} (hid : IsVarint idBytes sessionId)
    (hvalid : isValidSessionId sessionId = true)
    (hget : h.streams.get? streamId = some (headerStream (some h3StreamTypeWebtransport) []))
    (hsteps : steps.map Prod.fst = idBytes.map (headerEvent streamId)) :
    ∃ calls h', callAll steps h = some (calls, h') ∧
      calls.map Call.outcome = List.replicate (idBytes.length - 1) (askForByte streamId) ++
        [([.h3WebTransportStreamOpened sessionId streamId], [])] ∧
      h'.streams.get? streamId = none :=
  callAll_bytes hid
    (fun hstate hread connection => header_byte_waits (Or.inr rfl) hstate hread)
    (fun hstate hread connection => header_session_read hstate hread hvalid)
    idBytes [] (List.nil_append _).symm hid.ne_nil hget hsteps

/-- What `encode_stream_header` writes is the type and the session id. -/
theorem encodeStreamHeader_eq (hsession : sessionId < 2 ^ 62) :
    ∃ typeBytes idBytes,
      encodeStreamHeader streamId sessionId (isUnidirectionalStream streamId) =
        [.sendQuicData streamId (typeBytes ++ idBytes) false] ∧
      IsVarint typeBytes (preambleType streamId) ∧ IsVarint idBytes sessionId := by
  have hsmall : preambleType streamId ≤ quicVarintLimit := by
    unfold preambleType
    split <;> decide
  obtain ⟨typeBytes, htype⟩ := writeVarint_isOk_iff.mpr hsmall
  obtain ⟨idBytes, hid⟩ := writeVarint_isOk_iff.mpr (Nat.le_sub_one_of_lt hsession)
  refine ⟨typeBytes, idBytes, ?_, isVarint_of_writeVarint htype, isVarint_of_writeVarint hid⟩
  unfold preambleType at htype
  simp only [encodeStreamHeader, htype, hid]

/-- The preamble of a WebTransport stream, in whatever widths its two integers
are written, is read byte by byte: after the open and after every byte but
the last, one byte is asked for; after the last, the stream is handed on with
its session, HTTP/3 forgets it and asks for nothing more. The preamble that
`encode_stream_header` writes is one of these. -/
theorem preamble_consumed_exactly :
    (∀ (h : H3 Q) (streamId : StreamId) (sessionId : SessionId) (typeBytes idBytes : Bytes)
      (steps : List (ProtocolEvent × Connection)),
      sessionId % 4 = 0 → IsVarint typeBytes (preambleType streamId) →
      IsVarint idBytes sessionId →
      steps.map Prod.fst = .transportStreamOpened streamId ::
        (typeBytes ++ idBytes).map (headerEvent streamId) →
      ∃ calls h', callAll steps h = some (calls, h') ∧
        calls.map Call.outcome =
          List.replicate (typeBytes ++ idBytes).length ([], [.receiveQuicData streamId 1]) ++
            [([.h3WebTransportStreamOpened sessionId streamId], [])] ∧
        h'.streams.get? streamId = none) ∧
    ∀ (streamId : StreamId) (sessionId : SessionId), sessionId < 2 ^ 62 →
      ∃ typeBytes idBytes,
        encodeStreamHeader streamId sessionId (isUnidirectionalStream streamId) =
          [.sendQuicData streamId (typeBytes ++ idBytes) false] ∧
        IsVarint typeBytes (preambleType streamId) ∧ IsVarint idBytes sessionId := by
  refine ⟨fun h streamId sessionId typeBytes idBytes steps hfour htype hid hsteps => ?_,
    fun streamId sessionId hsession => encodeStreamHeader_eq hsession⟩
  have hvalid := isValidSessionId_iff.mpr hfour
  cases steps with
  | nil => cases hsteps
  | cons opening steps =>
    obtain ⟨event, connection⟩ := opening
    obtain ⟨rfl, hsteps'⟩ := List.cons.inj hsteps
    rw [List.map_append] at hsteps'
    obtain ⟨first, second, rfl, hfirst, hsecond⟩ := List.map_eq_append_iff.mp hsteps'
    have hopened : h.handleTransportEvent (.transportStreamOpened streamId) connection =
        some ((h.handleStreamOpened streamId).1, askForByte streamId) := rfl
    obtain ⟨calls, h', hcalls, houtcomes, hget⟩ := callAll_type htype
      (h := (h.handleStreamOpened streamId).1) (OrderedMap.get?_insert_self _ _ _) hfirst
    obtain ⟨calls', h'', hcalls', houtcomes', hgone⟩ := callAll_session hid hvalid hget hsecond
    refine ⟨_, h'', callAll_cons hopened (callAll_append hcalls hcalls'), ?_, hgone⟩
    have hpos := List.length_pos_iff.mpr hid.ne_nil
    have hcount : (typeBytes ++ idBytes).length =
        1 + (typeBytes.length + (idBytes.length - 1)) := by
      rw [List.length_append]
      omega
    rw [List.map_cons, List.map_append, houtcomes, houtcomes', hcount,
      ← List.replicate_append_replicate, ← List.replicate_append_replicate]
    simp only [List.append_assoc]
    rfl

end H3

end PyWebTransport

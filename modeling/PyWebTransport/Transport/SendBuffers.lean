/-
PyWebTransport.Transport.SendBuffers — what the transport holds back for
QUIC (`transport/connection.rs`).

The engine hands over stream data in `SendQuicData` effects. The transport
queues it by stream and writes it out as far as QUIC takes it, at once and
again whenever QUIC reports the stream writable (`flush_stream`). How much
QUIC takes of each write is not ours to say: a flush is given the list of
answers it will get, and a list that ends early stands for a stream that
blocks there, so every course a flush can take is a course for some list.

A run is recorded as a trace of deeds: what was offered, what QUIC accepted,
`finish`, and the completion a flush returns. `send_buffering` says of every
run that the accepted bytes are the offered ones in order, that a stream is
finished behind its last byte only, and that a flush completes exactly when
it empties the stream's entry.
-/
import PyWebTransport.Lib.OrderedMap
import PyWebTransport.Lib.Trace
import PyWebTransport.Common.Constants
import PyWebTransport.Protocol.Events

namespace PyWebTransport.Transport

open PyWebTransport.Lib

variable {results : List WriteResult} {j : StreamId}

structure SendBuffer where
  chunks : List Bytes := []
  finished : Bool := false
deriving DecidableEq

/-- The field `send_buffers`. -/
abbrev SendBuffers := OrderedMap StreamId SendBuffer

variable {buffers : SendBuffers} {k : StreamId}

/-- What `SendStream::write` answers. -/
inductive WriteResult where
  | written (count : Nat)
  | blocked
  | stopped
  | closedStream
deriving DecidableEq

/-- How the write loop of a flush ends. -/
inductive WriteEnd where
  | drained
  | blocked (left : List Bytes)
  | gone
deriving DecidableEq

inductive Deed where
  | offered (data : Bytes) (endStream : Bool)
  | accepted (data : Bytes)
  | finished
  | completed
deriving DecidableEq

/-- A flush: the buffers after it, what it did, and the event it returns. -/
structure Flush where
  buffers : SendBuffers
  deeds : List (StreamId × Deed)
  event : Option ProtocolEvent

/-! ## The code -/

/-- The loop of `flush_stream` over the chunks, with the pieces QUIC took. -/
def writeLoop : List WriteResult → List Bytes → List Bytes × WriteEnd
  | _, [] => ([], .drained)
  | [], chunk :: chunks => ([], .blocked (chunk :: chunks))
  | .written count :: results, chunk :: chunks =>
    if count = chunk.length then
      ((chunk :: (writeLoop results chunks).1), (writeLoop results chunks).2)
    else
      -- `chunk.advance(written)`: the same chunk is in front again
      ((chunk.take count :: (writeLoop results (chunk.drop count :: chunks)).1),
        (writeLoop results (chunk.drop count :: chunks)).2)
  | .blocked :: _, chunk :: chunks => ([], .blocked (chunk :: chunks))
  | .stopped :: _, _ :: _ => ([], .gone)
  | .closedStream :: _, _ :: _ => ([], .gone)

def flushStream (buffers : SendBuffers) (streamId : StreamId) (results : List WriteResult) :
    Flush :=
  match buffers.get? streamId with
  | none => ⟨buffers, [], none⟩
  | some buffer =>
    let pieces := (writeLoop results buffer.chunks).1
    let writes := pieces.map fun piece => (streamId, Deed.accepted piece)
    match (writeLoop results buffer.chunks).2 with
    | .blocked left => ⟨buffers.insert streamId { buffer with chunks := left }, writes, none⟩
    | .gone => ⟨buffers.erase streamId, writes, none⟩
    | .drained =>
      ⟨buffers.erase streamId,
        writes ++ (if buffer.finished then [(streamId, Deed.finished)] else []) ++
          [(streamId, Deed.completed)],
        some (.internalCompleteQuicData streamId)⟩

/-- The entry of a stream with the data of one more effect. -/
def SendBuffer.push (buffer : SendBuffer) (data : Bytes) (endStream : Bool) : SendBuffer where
  chunks := if data = [] then buffer.chunks else buffer.chunks ++ [data]
  finished := buffer.finished || endStream

def pushed (buffers : SendBuffers) (streamId : StreamId) (data : Bytes) (endStream : Bool) :
    SendBuffers :=
  buffers.insert streamId (((buffers.get? streamId).getD {}).push data endStream)

/-- The `SendQuicData` arm of `process_effects`. An id that does not fit
into a `QuicVarInt` is passed over. -/
def sendQuicData (buffers : SendBuffers) (streamId : StreamId) (data : Bytes) (endStream : Bool)
    (results : List WriteResult) : Flush :=
  if streamId ≤ quicVarintLimit then
    let flush := flushStream (pushed buffers streamId data endStream) streamId results
    { flush with deeds := (streamId, .offered data endStream) :: flush.deeds }
  else ⟨buffers, [], none⟩

/-- What the `ResetQuicStream` arm does to the buffers. -/
def resetQuicStream (buffers : SendBuffers) (streamId : StreamId) : SendBuffers :=
  if streamId ≤ quicVarintLimit then buffers.erase streamId else buffers

/-! ## Runs -/

/-- QUIC blocks, or takes between one byte and the whole chunk. -/
def Fair : List WriteResult → List Bytes → Prop
  | _, [] => True
  | [], _ => True
  | .written count :: results, chunk :: chunks =>
    1 ≤ count ∧ count ≤ chunk.length ∧
      Fair results (if count = chunk.length then chunks else chunk.drop count :: chunks)
  | .blocked :: _, _ => True
  | .stopped :: _, _ => False
  | .closedStream :: _, _ => False

def chunksOf (buffers : SendBuffers) (k : StreamId) : List Bytes :=
  ((buffers.get? k).getD {}).chunks

/-- The runs of a transport in which stream `k` is only sent to and flushed,
with fair answers, while the other streams do as they like. -/
inductive Sends (k : StreamId) : List (StreamId × Deed) → SendBuffers → Prop
  | start : Sends k [] ∅
  | send {trace buffers} (j : StreamId) (data : Bytes) (endStream : Bool)
      (results : List WriteResult) (run : Sends k trace buffers)
      (fair : j = k → Fair results (chunksOf (pushed buffers j data endStream) j)) :
      Sends k (trace ++ (sendQuicData buffers j data endStream results).deeds)
        (sendQuicData buffers j data endStream results).buffers
  | flush {trace buffers} (j : StreamId) (results : List WriteResult) (run : Sends k trace buffers)
      (fair : j = k → Fair results (chunksOf buffers j)) :
      Sends k (trace ++ (flushStream buffers j results).deeds)
        (flushStream buffers j results).buffers
  | reset {trace buffers} (j : StreamId) (run : Sends k trace buffers) (other : j ≠ k) :
      Sends k trace (resetQuicStream buffers j)

def Deed.offer : Deed → Bytes
  | .offered data _ => data
  | _ => []

def Deed.take : Deed → Bytes
  | .accepted data => data
  | _ => []

/-- The data of the effects on a stream, in order. -/
def offered (k : StreamId) (trace : List (StreamId × Deed)) : Bytes :=
  trace.flatMap fun entry => if entry.1 = k then entry.2.offer else []

/-- The bytes QUIC has accepted for a stream. -/
def accepted (k : StreamId) (trace : List (StreamId × Deed)) : Bytes :=
  trace.flatMap fun entry => if entry.1 = k then entry.2.take else []

/-- Some effect on the stream carried `end_stream`. -/
def Ended (k : StreamId) (trace : List (StreamId × Deed)) : Prop :=
  ∃ data, (k, Deed.offered data true) ∈ trace

/-- What must have happened before a deed on stream `k`. -/
def Orderly (k : StreamId) (before : List (StreamId × Deed)) : StreamId × Deed → Prop
  | (_, .offered _ _) => True
  | (j, .accepted data) => j = k → accepted k before ++ data <+: offered k before
  | (j, .finished) => j = k → accepted k before = offered k before ∧ Ended k before
  | (j, .completed) => j = k → accepted k before = offered k before

section Traces

variable {k : StreamId} {trace new : List (StreamId × Deed)}

variable {pieces : List Bytes}

@[simp] theorem offered_append : offered k (trace ++ new) = offered k trace ++ offered k new :=
  List.flatMap_append

@[simp] theorem accepted_append : accepted k (trace ++ new) = accepted k trace ++ accepted k new :=
  List.flatMap_append

theorem Ended.append (h : Ended k trace) (new : List (StreamId × Deed)) : Ended k (trace ++ new) :=
  let ⟨data, hmem⟩ := h
  ⟨data, List.mem_append_left _ hmem⟩

theorem accepted_writes :
    accepted k (pieces.map fun piece => (k, Deed.accepted piece)) = pieces.flatten := by
  induction pieces with
  | nil => rfl
  | cons piece pieces ih =>
    rw [List.map_cons, List.flatten_cons, ← ih]
    simp [accepted, Deed.take]

theorem offered_writes : offered k (pieces.map fun piece => (j, Deed.accepted piece)) = [] := by
  simp [offered, Deed.offer]

/-- The deeds of another stream say nothing about this one. -/
theorem offered_of_others (h : ∀ entry ∈ new, entry.1 ≠ k) : offered k new = [] := by
  rw [offered, List.flatMap_eq_nil_iff]
  intro entry hmem
  exact if_neg (h entry hmem)

theorem accepted_of_others (h : ∀ entry ∈ new, entry.1 ≠ k) : accepted k new = [] := by
  rw [accepted, List.flatMap_eq_nil_iff]
  intro entry hmem
  exact if_neg (h entry hmem)

theorem orderly_of_ne {before : List (StreamId × Deed)} {entry : StreamId × Deed}
    (h : entry.1 ≠ k) : Orderly k before entry := by
  obtain ⟨j, deed⟩ := entry
  cases deed with
  | offered data endStream => trivial
  | accepted data | finished | completed => exact fun hk => absurd hk h

/-- Pieces that continue what was accepted, within what was offered, are
accepted in order. -/
theorem orderly_writes : ∀ (pieces : List Bytes) (trace : List (StreamId × Deed)),
    accepted k trace ++ pieces.flatten <+: offered k trace →
      AtEach (fun before => Orderly k (trace ++ before))
        (pieces.map fun piece => (k, Deed.accepted piece))
  | [], _, _ => atEach_nil _
  | piece :: pieces, trace, h => by
      rw [List.flatten_cons, ← List.append_assoc] at h
      rw [List.map_cons, atEach_cons]
      constructor
      · intro _
        rw [List.append_nil]
        exact (List.prefix_append _ _).trans h
      · have hrest := orderly_writes pieces (trace ++ [(k, .accepted piece)]) (by
          rw [accepted_append, offered_append]
          simpa [accepted, offered, Deed.take, Deed.offer] using h)
        simpa only [List.append_assoc, List.singleton_append] using hrest

end Traces

/-! ## One flush -/

/-- What is left of the chunks when the loop ends. -/
def WriteEnd.left : WriteEnd → List Bytes
  | .blocked left => left
  | _ => []

/-- The loop takes from the front: what QUIC took and what is left are the
chunks, and no chunk is left empty. -/
theorem writeLoop_split : ∀ (results : List WriteResult) (chunks : List Bytes),
    Fair results chunks → (∀ chunk ∈ chunks, chunk ≠ []) →
      (writeLoop results chunks).1.flatten ++ (writeLoop results chunks).2.left.flatten =
        chunks.flatten ∧
      (∀ chunk ∈ (writeLoop results chunks).2.left, chunk ≠ []) ∧
      ((writeLoop results chunks).2 = .drained ∨
        ∃ left, (writeLoop results chunks).2 = .blocked left ∧ left ≠ [])
  | results, [], _, _ => by
      rw [writeLoop]
      exact ⟨rfl, by simp [WriteEnd.left], .inl rfl⟩
  | [], chunk :: chunks, _, hwhole => by
      exact ⟨rfl, hwhole, .inr ⟨_, rfl, List.cons_ne_nil _ _⟩⟩
  | .blocked :: results, chunk :: chunks, _, hwhole => by
      exact ⟨rfl, hwhole, .inr ⟨_, rfl, List.cons_ne_nil _ _⟩⟩
  | .stopped :: results, chunk :: chunks, hfair, _ => by cases hfair
  | .closedStream :: results, chunk :: chunks, hfair, _ => by cases hfair
  | .written count :: results, chunk :: chunks, hfair, hwhole => by
      obtain ⟨hpos, hle, hfair⟩ := hfair
      have hrest : ∀ other ∈ chunks, other ≠ [] := fun other hmem =>
        hwhole other (List.mem_cons_of_mem _ hmem)
      rw [writeLoop]
      by_cases hall : count = chunk.length
      · rw [if_pos hall] at hfair ⊢
        obtain ⟨hsplit, hleft, hend⟩ := writeLoop_split results chunks hfair hrest
        refine ⟨?_, hleft, hend⟩
        rw [List.flatten_cons, List.append_assoc, hsplit, List.flatten_cons]
      · rw [if_neg hall] at hfair ⊢
        have hcut : ∀ other ∈ chunk.drop count :: chunks, other ≠ [] := by
          intro other hmem
          rcases List.mem_cons.mp hmem with rfl | hmem
          · exact List.ne_nil_of_length_pos (by rw [List.length_drop]; omega)
          · exact hrest other hmem
        obtain ⟨hsplit, hleft, hend⟩ :=
          writeLoop_split results (chunk.drop count :: chunks) hfair hcut
        refine ⟨?_, hleft, hend⟩
        rw [List.flatten_cons, List.append_assoc, hsplit, List.flatten_cons, ← List.append_assoc,
          List.take_append_drop, List.flatten_cons]

theorem flushStream_none (h : buffers.get? k = none) (results : List WriteResult) :
    flushStream buffers k results = ⟨buffers, [], none⟩ := by
  unfold flushStream
  rw [h]

/-- The two ways a flush with fair answers ends: the entry is emptied and
removed, or QUIC blocks and the entry keeps what is left. -/
theorem flushStream_some {buffer : SendBuffer} (h : buffers.get? k = some buffer)
    (hfair : Fair results buffer.chunks) (hwhole : ∀ chunk ∈ buffer.chunks, chunk ≠ []) :
    (∃ pieces : List Bytes, pieces.flatten = buffer.chunks.flatten ∧
      flushStream buffers k results =
        ⟨buffers.erase k,
          pieces.map (fun piece => (k, Deed.accepted piece)) ++
            (if buffer.finished then [(k, Deed.finished)] else []) ++ [(k, Deed.completed)],
          some (.internalCompleteQuicData k)⟩) ∨
    (∃ pieces left : List Bytes, pieces.flatten ++ left.flatten = buffer.chunks.flatten ∧
      left ≠ [] ∧ (∀ chunk ∈ left, chunk ≠ []) ∧
      flushStream buffers k results =
        ⟨buffers.insert k { buffer with chunks := left },
          pieces.map (fun piece => (k, Deed.accepted piece)), none⟩) := by
  obtain ⟨hsplit, hleft, hend⟩ := writeLoop_split results buffer.chunks hfair hwhole
  unfold flushStream
  rw [h]
  dsimp only
  rcases hend with hend | ⟨left, hend, hne⟩
  · rw [hend] at hsplit ⊢
    exact .inl ⟨_, by simpa [WriteEnd.left] using hsplit, rfl⟩
  · rw [hend] at hsplit hleft ⊢
    exact .inr ⟨_, left, hsplit, hne, hleft, rfl⟩

theorem deeds_flushStream : ∀ entry ∈ (flushStream buffers j results).deeds, entry.1 = j := by
  intro entry hmem
  unfold flushStream at hmem
  split at hmem
  · cases hmem
  · dsimp only at hmem
    split at hmem
    · obtain ⟨piece, -, rfl⟩ := List.mem_map.mp hmem
      rfl
    · obtain ⟨piece, -, rfl⟩ := List.mem_map.mp hmem
      rfl
    · rcases List.mem_append.mp hmem with hmem | hmem
      · rcases List.mem_append.mp hmem with hmem | hmem
        · obtain ⟨piece, -, rfl⟩ := List.mem_map.mp hmem
          rfl
        · split at hmem
          · rw [List.mem_singleton.mp hmem]
          · cases hmem
      · rw [List.mem_singleton.mp hmem]

theorem get?_flushStream_of_ne (h : j ≠ k) :
    (flushStream buffers j results).buffers.get? k =
      buffers.get? k := by
  unfold flushStream
  split
  · rfl
  · dsimp only
    split
    · exact buffers.get?_insert_of_ne _ h
    · exact buffers.get?_erase_of_ne h
    · exact buffers.get?_erase_of_ne h

/-! ## Whole runs -/

/-- The books of stream `k`: what was accepted and what is held back is what
was offered. -/
structure Held (k : StreamId) (trace : List (StreamId × Deed)) (buffers : SendBuffers) : Prop where
  books : accepted k trace ++ (chunksOf buffers k).flatten = offered k trace
  whole : ∀ chunk ∈ chunksOf buffers k, chunk ≠ []
  ended : ∀ buffer, buffers.get? k = some buffer → buffer.finished = true → Ended k trace
  orderly : AtEach (Orderly k) trace

section Held

variable {k j : StreamId} {trace new : List (StreamId × Deed)} {buffers after : SendBuffers}
  {buffer : SendBuffer} {pieces : List Bytes} {left : List Bytes}

theorem held_start : Held k [] ∅ where
  books := rfl
  whole := by simp [chunksOf]
  ended := by simp
  orderly := atEach_nil _

/-- Nothing that concerns other streams only disturbs the books. -/
theorem Held.frame (h : Held k trace buffers) (hnew : ∀ entry ∈ new, entry.1 ≠ k)
    (hsame : after.get? k = buffers.get? k) : Held k (trace ++ new) after where
  books := by
    rw [accepted_append, offered_append, accepted_of_others hnew, offered_of_others hnew,
      List.append_nil, List.append_nil, chunksOf, hsame]
    exact h.books
  whole := by
    rw [chunksOf, hsame]
    exact h.whole
  ended := by
    intro buffer hget hfinished
    rw [hsame] at hget
    exact (h.ended buffer hget hfinished).append new
  orderly := (atEach_append _ _ _).mpr
    ⟨h.orderly, atEach_of_forall fun entry hmem _ => orderly_of_ne (hnew entry hmem)⟩

/-- Offering data puts it behind what is held back. -/
theorem Held.push (h : Held k trace buffers) (data : Bytes) (endStream : Bool) :
    Held k (trace ++ [(k, .offered data endStream)]) (pushed buffers k data endStream) where
  books := by
    have hoffer : offered k [(k, .offered data endStream)] = data := by
      simp [offered, Deed.offer]
    have htake : accepted k [(k, .offered data endStream)] = [] := by
      simp [accepted, Deed.take]
    have hchunks : (chunksOf (pushed buffers k data endStream) k).flatten =
        (chunksOf buffers k).flatten ++ data := by
      rw [chunksOf, pushed, OrderedMap.get?_insert_self, Option.getD_some, SendBuffer.push]
      split
      · rename_i hnil
        rw [hnil, List.append_nil]
        rfl
      · rw [List.flatten_append, List.flatten_singleton]
        rfl
    rw [accepted_append, offered_append, hoffer, htake, hchunks, List.append_nil,
      ← List.append_assoc, h.books]
  whole := by
    intro chunk hmem
    rw [chunksOf, pushed, OrderedMap.get?_insert_self, Option.getD_some, SendBuffer.push] at hmem
    dsimp only at hmem
    split at hmem
    · exact h.whole chunk hmem
    · rename_i hne
      rcases List.mem_append.mp hmem with hmem | hmem
      · exact h.whole chunk hmem
      · rw [List.mem_singleton.mp hmem]
        exact hne
  ended := by
    intro buffer hget hfinished
    rw [pushed, OrderedMap.get?_insert_self] at hget
    obtain rfl := Option.some.inj hget
    rcases (Bool.or_eq_true _ _).mp hfinished with hold | hnew
    · cases hbuffer : buffers.get? k with
      | none =>
        rw [hbuffer] at hold
        cases hold
      | some buffer =>
        rw [hbuffer] at hold
        exact (h.ended buffer hbuffer hold).append _
    · subst hnew
      exact ⟨data, by simp⟩
  orderly := (atEach_append _ _ _).mpr
    ⟨h.orderly, atEach_of_forall fun entry hmem _ => by
      rw [List.mem_singleton.mp hmem]
      trivial⟩

theorem chunksOf_eq (h : buffers.get? k = some buffer) : chunksOf buffers k = buffer.chunks := by
  rw [chunksOf, h, Option.getD_some]

section

variable (h : Held k trace buffers)
include h

/-- Bytes that QUIC takes from the front of what is held back. -/
theorem Held.orderly_taken
    (hsplit : pieces.flatten ++ left.flatten = (chunksOf buffers k).flatten) :
    AtEach (Orderly k) (trace ++ pieces.map fun piece => (k, Deed.accepted piece)) := by
  refine (atEach_append _ _ _).mpr ⟨h.orderly, orderly_writes pieces trace ?_⟩
  rw [← h.books, ← hsplit, ← List.append_assoc]
  exact List.prefix_append _ _

theorem Held.blocked (hget : buffers.get? k = some buffer)
    (hsplit : pieces.flatten ++ left.flatten = buffer.chunks.flatten)
    (hleft : ∀ chunk ∈ left, chunk ≠ []) :
    Held k (trace ++ pieces.map fun piece => (k, Deed.accepted piece))
      (buffers.insert k { buffer with chunks := left }) where
  books := by
    rw [accepted_append, offered_append, accepted_writes, offered_writes, List.append_nil,
      List.append_assoc, ← h.books, chunksOf_eq hget, ← hsplit, chunksOf,
      OrderedMap.get?_insert_self, Option.getD_some]
  whole := by
    rw [chunksOf, OrderedMap.get?_insert_self, Option.getD_some]
    exact hleft
  ended := by
    intro after hafter hfinished
    rw [OrderedMap.get?_insert_self] at hafter
    obtain rfl := Option.some.inj hafter
    exact (h.ended buffer hget hfinished).append _
  orderly := h.orderly_taken (by rw [hsplit, chunksOf_eq hget])

theorem Held.drained (hget : buffers.get? k = some buffer)
    (hsplit : pieces.flatten = buffer.chunks.flatten) :
    Held k (trace ++ (pieces.map (fun piece => (k, Deed.accepted piece)) ++
        (if buffer.finished then [(k, Deed.finished)] else []) ++ [(k, Deed.completed)]))
      (buffers.erase k) := by
  have hempty : chunksOf (buffers.erase k) k = [] := by
    rw [chunksOf, OrderedMap.get?_erase_self]
    rfl
  -- once the pieces are taken, all that was offered has been accepted
  have hall : accepted k (trace ++ pieces.map fun piece => (k, Deed.accepted piece)) =
      offered k (trace ++ pieces.map fun piece => (k, Deed.accepted piece)) := by
    rw [accepted_append, offered_append, accepted_writes, offered_writes, List.append_nil,
      ← h.books, chunksOf_eq hget, hsplit]
  have hnone : pieces.flatten ++ ([] : List Bytes).flatten = (chunksOf buffers k).flatten := by
    rw [chunksOf_eq hget, hsplit, List.flatten_nil, List.append_nil]
  have htaken := h.orderly_taken hnone
  have hended := fun hfinished =>
    (h.ended buffer hget hfinished).append (pieces.map fun piece => (k, Deed.accepted piece))
  rw [← List.append_assoc, ← List.append_assoc]
  generalize trace ++ pieces.map (fun piece => (k, Deed.accepted piece)) = taken
    at hall htaken hended
  have hclosing : accepted k (taken ++ if buffer.finished then [(k, Deed.finished)] else []) =
      offered k (taken ++ if buffer.finished then [(k, Deed.finished)] else []) := by
    split <;> simp [accepted, offered, Deed.take, Deed.offer] at hall ⊢ <;> exact hall
  refine ⟨?_, ?_, ?_, ?_⟩
  · rw [hempty, List.flatten_nil, List.append_nil, accepted_append, offered_append, hclosing]
    simp [accepted, offered, Deed.take, Deed.offer]
  · rw [hempty]
    simp
  · intro after hafter
    rw [OrderedMap.get?_erase_self] at hafter
    cases hafter
  · refine (atEach_append _ _ _).mpr ⟨(atEach_append _ _ _).mpr ⟨htaken, ?_⟩, ?_⟩
    · split
      · rename_i hfinished
        rw [atEach_cons, List.append_nil]
        exact ⟨fun _ => ⟨hall, hended hfinished⟩, atEach_nil _⟩
      · exact atEach_nil _
    · rw [atEach_cons, List.append_nil]
      exact ⟨fun _ => hclosing, atEach_nil _⟩

theorem Held.flush {results : List WriteResult} (hfair : Fair results (chunksOf buffers k)) :
    Held k (trace ++ (flushStream buffers k results).deeds)
      (flushStream buffers k results).buffers := by
  cases hget : buffers.get? k with
  | none =>
    rw [flushStream_none hget]
    exact h.frame (by simp) rfl
  | some buffer =>
    have hwhole := h.whole
    rw [chunksOf_eq hget] at hfair hwhole
    rcases flushStream_some hget hfair hwhole with
      ⟨pieces, hsplit, heq⟩ | ⟨pieces, left, hsplit, -, hleft, heq⟩
    · rw [heq]
      exact h.drained hget hsplit
    · rw [heq]
      exact h.blocked hget hsplit hleft

end

/-- Every run keeps the books. -/
theorem Sends.held (run : Sends k trace buffers) : Held k trace buffers := by
  induction run with
  | start => exact held_start
  | @send trace buffers j data endStream results run fair ih =>
    unfold sendQuicData
    split
    · by_cases hj : j = k
      · subst hj
        have := (ih.push data endStream).flush (fair rfl)
        simpa only [List.append_assoc, List.singleton_append] using this
      · refine ih.frame ?_ ?_
        · intro entry hmem
          rcases List.mem_cons.mp hmem with rfl | hmem
          · exact hj
          · rw [deeds_flushStream entry hmem]
            exact hj
        · exact (get?_flushStream_of_ne hj).trans (buffers.get?_insert_of_ne _ hj)
    · exact ih.frame (by simp) rfl
  | @flush trace buffers j results run fair ih =>
    by_cases hj : j = k
    · subst hj
      exact ih.flush (fair rfl)
    · refine ih.frame ?_ (get?_flushStream_of_ne hj)
      intro entry hmem
      rw [deeds_flushStream entry hmem]
      exact hj
  | @reset trace buffers j run other ih =>
    have hsame : (resetQuicStream buffers j).get? k = buffers.get? k := by
      unfold resetQuicStream
      split
      · exact buffers.get?_erase_of_ne other
      · rfl
    have hheld := ih.frame (List.forall_mem_nil _) hsame
    rwa [List.append_nil] at hheld

/-- A flush returns the completion of its stream exactly when it empties an
entry of the stream, once, and no other event. -/
structure Completes (buffers : SendBuffers) (k : StreamId) (results : List WriteResult) : Prop where
  exactly : (flushStream buffers k results).event = some (.internalCompleteQuicData k) ↔
    ∃ buffer, buffers.get? k = some buffer ∧
      accepted k (flushStream buffers k results).deeds = buffer.chunks.flatten ∧
      (flushStream buffers k results).buffers.get? k = none
  only : ∀ event, (flushStream buffers k results).event = some event →
    event = .internalCompleteQuicData k
  once : (flushStream buffers k results).deeds.count (k, .completed) =
    if (flushStream buffers k results).event.isSome then 1 else 0

theorem count_completed_writes :
    (pieces.map fun piece => (k, Deed.accepted piece)).count (k, .completed) = 0 := by
  rw [List.count_eq_zero]
  intro hmem
  obtain ⟨piece, -, heq⟩ := List.mem_map.mp hmem
  cases heq

theorem completes_flushStream (hfair : Fair results (chunksOf buffers k))
    (hwhole : ∀ chunk ∈ chunksOf buffers k, chunk ≠ []) : Completes buffers k results := by
  cases hget : buffers.get? k with
  | none =>
    constructor <;> simp [flushStream_none hget, hget]
  | some buffer =>
    rw [chunksOf_eq hget] at hfair hwhole
    rcases flushStream_some hget hfair hwhole with
      ⟨pieces, hsplit, heq⟩ | ⟨pieces, left, hsplit, hne, hleft, heq⟩
    · have htake : accepted k (flushStream buffers k results).deeds = buffer.chunks.flatten := by
        rw [heq, accepted_append, accepted_append, accepted_writes, hsplit]
        split <;> simp [accepted, Deed.take]
      refine ⟨⟨fun _ => ⟨buffer, hget, htake, ?_⟩, fun _ => by rw [heq]⟩, ?_, ?_⟩
      · rw [heq]
        exact OrderedMap.get?_erase_self _ _
      · intro event hevent
        rw [heq] at hevent
        exact (Option.some.inj hevent).symm
      · rw [heq, List.count_append, List.count_append, count_completed_writes]
        split <;> simp
    · refine ⟨?_, ?_, ?_⟩
      · rw [heq]
        constructor
        · intro hevent
          cases hevent
        · rintro ⟨-, -, -, hgone⟩
          rw [OrderedMap.get?_insert_self] at hgone
          cases hgone
      · intro event hevent
        rw [heq] at hevent
        cases hevent
      · rw [heq, count_completed_writes]
        rfl

/-- Sending through the buffers keeps order and completion. In every run of
effects and flushes on stream `k`, whatever QUIC takes at each write: the
bytes accepted are always a prefix of those offered, `finish` is called only
when all are accepted and some effect carried `end_stream`, and each flush,
by itself or behind an effect, completes exactly when it empties an entry. -/
theorem send_buffering {k : StreamId} {trace : List (StreamId × Deed)} {buffers : SendBuffers}
    (run : Sends k trace buffers) :
    accepted k trace <+: offered k trace ∧
    AtEach (Orderly k) trace ∧
    (∀ results, Fair results (chunksOf buffers k) → Completes buffers k results) ∧
    ∀ data endStream results,
      Fair results (chunksOf (pushed buffers k data endStream) k) →
        Completes (pushed buffers k data endStream) k results := by
  have hheld := run.held
  refine ⟨?_, hheld.orderly, fun results hfair => ?_, fun data endStream results hfair => ?_⟩
  · rw [← hheld.books]
    exact List.prefix_append _ _
  · exact completes_flushStream hfair hheld.whole
  · exact completes_flushStream hfair (hheld.push data endStream).whole

/-- Three bytes with the end of the stream, of which QUIC takes two at once
and the last when the stream is writable again. -/
theorem send_buffering_partial :
    Sends 4 [(4, .offered [1, 2, 3] true), (4, .accepted [1, 2]), (4, .accepted [3]),
      (4, .finished), (4, .completed)] ∅ ∧
    accepted 4 [(4, .offered [1, 2, 3] true), (4, .accepted [1, 2]), (4, .accepted [3]),
      (4, .finished), (4, .completed)] <+:
      offered 4 [(4, .offered [1, 2, 3] true), (4, .accepted [1, 2]), (4, .accepted [3]),
        (4, .finished), (4, .completed)] :=
  have hfirst : Fair [.written 2] [[1, 2, 3]] := ⟨by decide, by decide, trivial⟩
  have hsecond : Fair [.written 1] [[3]] := ⟨by decide, by decide, trivial⟩
  have run := (Sends.start.send 4 [1, 2, 3] true [.written 2] fun _ => hfirst).flush 4
    [.written 1] fun _ => hsecond
  ⟨run, (send_buffering run).1⟩

end Held

end PyWebTransport.Transport

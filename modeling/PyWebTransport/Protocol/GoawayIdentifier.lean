/-
PyWebTransport.Protocol.GoawayIdentifier — the identifier a server puts into
its GOAWAY frame.

The identifier tells the client which requests it may send again elsewhere:
all from that stream id on. The server computes it from the sessions it has
at that moment. `goaway_covers_iff` says when it lies above every request the
server ever accepted: exactly if the session of the last of them, by stream
id, is still in the table. A session that was closed and removed no longer
counts, and `goaway_disowns` is a server that gives its only request away.
-/
import PyWebTransport.Protocol.ConnectionRuns

namespace PyWebTransport

open PyWebTransport.Lib

namespace Connection

variable {c : Connection} {streamId : Nat}

/-! ## Sessions of a server -/

/-- A server has no requests of its own, and every session of its table was
accepted. -/
structure Accepting (l : Ledger) : Prop where
  server : l.connection.isClient = false
  requests : l.connection.sessionRequests.size = 0
  known : ∀ {id}, l.connection.sessions.contains id = true → id ∈ l.accepted

theorem Accepting.move {l l' : Ledger} {effects : List Effect} (hl : Accepting l)
    (h : Move l effects l') : Accepting l' := by
  have hperform : ∀ call, Accepting { l with connection := (l.connection.perform call).1 } := by
    intro call
    obtain ⟨-, hrequests, -, hclient⟩ := l.connection.size_perform call
    refine ⟨hclient.trans hl.server, ?_, fun {id} hid => ?_⟩
    · rw [hrequests]
      exact hl.requests
    · rw [contains_perform] at hid
      exact hl.known hid
  cases h with
  | settle _ same =>
    refine ⟨same.isClient.trans hl.server, ?_, fun hid => hl.known (same.sessions ▸ hid)⟩
    exact Nat.le_zero.mp (hl.requests ▸ same.requests)
  | call call _ => exact hperform call
  | bind | handOver =>
    obtain ⟨server, requests, known⟩ := hperform _
    exact ⟨server, requests, known⟩
  | submit _ _ client => exact absurd (client.symm.trans hl.server) (by decide)
  | opened streamId requestId requested =>
    -- a server has no request that could be answered
    have hsize := l.connection.sessionRequests.size_erase_of_get? requested
    rw [hl.requests] at hsize
    cases hsize
  | accepted streamId =>
    refine ⟨hl.server, hl.requests, fun {id} hid => ?_⟩
    obtain ⟨session, hget⟩ := Option.isSome_iff_exists.mp hid
    rcases OrderedMap.get?_insert_some hget with ⟨rfl, -⟩ | ⟨-, hold⟩
    · exact List.mem_cons_self
    · exact List.mem_cons_of_mem _ (hl.known (Option.isSome_iff_exists.mpr ⟨session, hold⟩))
  | prune =>
    refine ⟨hl.server, hl.requests, fun {id} hid => ?_⟩
    obtain ⟨session, hget⟩ := Option.isSome_iff_exists.mp hid
    simp only [pruneResources, OrderedMap.get?_filter, Option.filter_eq_some_iff] at hget
    exact hl.known (Option.isSome_iff_exists.mpr ⟨session, hget.1⟩)
  | _ => exact ⟨hl.server, hl.requests, hl.known⟩

/-- After any history of a server, every session of the table was accepted. -/
theorem accepted_of_contains (handle : ConnectionHandle) (requestId : Option RequestId)
    (parameters : ConnectionParameters) (history : List (Timestamp × ConnectionOp)) :
    let start := Connection.new handle requestId false parameters
    (start.execAll history).1.isClient = false ∧
      ∀ id, (start.execAll history).1.sessions.contains id = true →
        id ∈ start.accepted history := by
  intro start
  obtain ⟨refused, handed, hmoves⟩ := execAll_leads history (.start start) accounted_new
  have hend := hmoves.keeps (P := Accepting) (fun _ _ _ move hl => hl.move move)
    ⟨rfl, rfl, fun hid => nomatch hid⟩
  refine ⟨hend.server, fun id hid => ?_⟩
  have hknown := hend.known hid
  simpa [Ledger.start] using hknown

/-! ## Request streams -/

/-- A stream a client may send a request on: QUIC's bidirectional streams of
the client, within the range of a variable-length integer. -/
def IsRequestStream (streamId : StreamId) : Prop :=
  streamId % quicStreamTypeCount = 0 ∧ streamId ≤ quicVarintLimit

instance (streamId : StreamId) : Decidable (IsRequestStream streamId) :=
  inferInstanceAs (Decidable (_ ∧ _))

/-- Headers arrive on request streams only. -/
def HeadersOnRequests (history : List (Timestamp × ConnectionOp)) : Prop :=
  ∀ entry ∈ history, ∀ streamId headers, entry.2 = .recvHeaders streamId headers →
    IsRequestStream streamId

theorem isRequestStream_of_accepted :
    ∀ (history : List (Timestamp × ConnectionOp)) (c : Connection), HeadersOnRequests history →
      ∀ id ∈ c.accepted history, IsRequestStream id := by
  intro history
  induction history with
  | nil => exact fun _ _ _ hid => nomatch hid
  | cons entry rest ih =>
    intro c hheaders id hid
    rcases List.mem_append.mp hid with hlater | hnow
    · exact ih _ (fun e he => hheaders e (List.mem_cons_of_mem _ he)) id hlater
    · obtain ⟨now, op⟩ := entry
      cases op with
      | recvHeaders streamId headers =>
        simp only [accepts] at hnow
        split at hnow
        · rw [List.mem_singleton.mp hnow]
          exact hheaders _ List.mem_cons_self streamId headers rfl
        · cases hnow
      | _ => cases hnow

/-! ## The identifier -/

/-- The identifier is one a GOAWAY frame may carry, and gives no accepted
request away. -/
def Covers (accepted : List SessionId) (identifier : Nat) : Prop :=
  (identifier % quicStreamTypeCount = 0 ∨ identifier = quicVarintLimit) ∧
    ∀ id ∈ accepted, id < identifier

/-- The accepted request with the largest stream id has its session still. -/
def LastIsPresent (c : Connection) (accepted : List SessionId) : Prop :=
  accepted = [] ∨
    ∃ last ∈ accepted, (∀ id ∈ accepted, id ≤ last) ∧ c.sessions.contains last = true

/-- Between two neighbouring request streams there is no other. -/
theorem eq_of_lt_add_four {a b : Nat} (hle : a ≤ b) (hlt : b < a + 4) (ha : a % 4 = 0)
    (hb : b % 4 = 0) : a = b := by
  omega

/-- A request stream is below the largest variable-length integer. -/
theorem IsRequestStream.lt_limit (h : IsRequestStream streamId) : streamId < quicVarintLimit := by
  have hmod : streamId % 4 = 0 := h.1
  have hle : streamId ≤ 2 ^ 62 - 1 := h.2
  show streamId < 2 ^ 62 - 1
  omega

theorem saturatingAdd_of_isRequestStream (h : IsRequestStream streamId) :
    saturatingAdd streamId quicStreamTypeCount = streamId + quicStreamTypeCount := by
  have hlt : streamId < 2 ^ 62 - 1 := h.lt_limit
  show min (streamId + 4) (2 ^ 64 - 1) = streamId + 4
  omega

section

variable (hserver : c.isClient = false)
include hserver

theorem goawayIdentifier_nil (hkeys : c.sessions.keys = []) : c.goawayIdentifier = 0 := by
  simp [goawayIdentifier, hserver, hkeys]

/-- The identifier of a server that has sessions. -/
theorem goawayIdentifier_of_max {last : SessionId}
    (hmax : c.sessions.keys.max? = some last) (hlast : IsRequestStream last) :
    c.goawayIdentifier = min (last + quicStreamTypeCount) quicVarintLimit := by
  simp [goawayIdentifier, hserver, hmax, saturatingAdd_of_isRequestStream hlast]

theorem goawayIdentifier_valid (hids : ∀ id ∈ c.sessions.keys, IsRequestStream id) :
    c.goawayIdentifier % quicStreamTypeCount = 0 ∨ c.goawayIdentifier = quicVarintLimit := by
  cases hmax : c.sessions.keys.max? with
  | none =>
    rw [goawayIdentifier_nil hserver (List.max?_eq_none_iff.mp hmax)]
    exact Or.inl rfl
  | some last =>
    have hlast := hids last (List.max?_mem hmax)
    rw [goawayIdentifier_of_max hserver hmax hlast]
    have hmod := hlast.1
    rcases Nat.le_total (last + quicStreamTypeCount) quicVarintLimit with hle | hle
    · rw [Nat.min_eq_left hle]
      left
      rw [Nat.add_mod_right]
      exact hmod
    · exact Or.inr (Nat.min_eq_right hle)

/-- The identifier covers all accepted requests exactly if the last of them
is still in the table. -/
theorem goawayIdentifier_covers_iff {accepted : List SessionId}
    (hknown : ∀ id, c.sessions.contains id = true → id ∈ accepted)
    (hids : ∀ id ∈ accepted, IsRequestStream id) :
    Covers accepted c.goawayIdentifier ↔ c.LastIsPresent accepted := by
  have hkeys : ∀ id ∈ c.sessions.keys, id ∈ accepted := by
    intro id hid
    obtain ⟨session, hget⟩ := (c.sessions.mem_keys id).mp hid
    exact hknown id (Option.isSome_iff_exists.mpr ⟨session, hget⟩)
  constructor
  · rintro ⟨-, hbelow⟩
    cases hmax : accepted.max? with
    | none => exact Or.inl (List.max?_eq_none_iff.mp hmax)
    | some last =>
      obtain ⟨hlast, hall⟩ := List.max?_eq_some_iff.mp hmax
      refine Or.inr ⟨last, hlast, hall, ?_⟩
      have hcovered := hbelow last hlast
      cases hstored : c.sessions.keys.max? with
      | none =>
        rw [goawayIdentifier_nil hserver (List.max?_eq_none_iff.mp hstored)] at hcovered
        exact absurd hcovered (Nat.not_lt_zero _)
      | some stored =>
        have hmem := List.max?_mem hstored
        have hrequest := hids stored (hkeys stored hmem)
        rw [goawayIdentifier_of_max hserver hstored hrequest] at hcovered
        -- both are multiples of four, so nothing fits in between
        have heq : stored = last := eq_of_lt_add_four (hall stored (hkeys stored hmem))
          (Nat.lt_min.mp hcovered).1 hrequest.1 (hids last hlast).1
        obtain ⟨session, hget⟩ := (c.sessions.mem_keys stored).mp hmem
        exact heq ▸ Option.isSome_iff_exists.mpr ⟨session, hget⟩
  · intro hpresent
    refine ⟨goawayIdentifier_valid hserver fun id hid => hids id (hkeys id hid), fun id hid => ?_⟩
    rcases hpresent with rfl | ⟨last, hlast, hall, hstored⟩
    · cases hid
    · obtain ⟨session, hget⟩ := Option.isSome_iff_exists.mp hstored
      have hmax : c.sessions.keys.max? = some last :=
        List.max?_eq_some_iff.mpr ⟨(c.sessions.mem_keys last).mpr ⟨session, hget⟩,
          fun key hkey => hall key (hkeys key hkey)⟩
      rw [goawayIdentifier_of_max hserver hmax (hids last hlast)]
      refine Nat.lt_of_le_of_lt (hall id hid) (Nat.lt_min.mpr ⟨?_, (hids last hlast).lt_limit⟩)
      exact Nat.lt_add_of_pos_right (by decide)

end

/-! ## Histories -/

/-- The GOAWAY frame of a graceful close carries the identifier; no session
sends one. -/
theorem goaway_mem_iff (c : Connection) {requestId : RequestId} {identifier : Nat} :
    .sendH3Goaway identifier ∈ (c.closeGracefully requestId).2 ↔
      c.state = .connected ∧ c.localGoawaySent = false ∧ identifier = c.goawayIdentifier := by
  have hdrain : ∀ session : Session, .sendH3Goaway identifier ∉ session.drain.2 := by
    intro session
    unfold Session.drain
    split <;> simp
  unfold closeGracefully
  by_cases hstate : c.state = .connected
  · cases c.localGoawaySent <;> simp [hstate, forEachSession, hdrain]
  · simp [hstate]

/-- A server that closes gracefully after any history covers with its GOAWAY
frame, if it sends one, all requests it ever accepted, exactly if none was
accepted or the session of the last one is still in the table. -/
theorem goaway_covers_iff (handle : ConnectionHandle) (connectId : Option RequestId)
    (parameters : ConnectionParameters) (history : List (Timestamp × ConnectionOp))
    (hheaders : HeadersOnRequests history) (requestId : RequestId) :
    let start := Connection.new handle connectId false parameters
    let c := (start.execAll history).1
    (∀ identifier, .sendH3Goaway identifier ∈ (c.closeGracefully requestId).2 →
        Covers (start.accepted history) identifier) ↔
      (c.state = .connected → c.localGoawaySent = false →
        c.LastIsPresent (start.accepted history)) := by
  intro start c
  obtain ⟨hserver, hknown⟩ := accepted_of_contains handle connectId parameters history
  have hids := isRequestStream_of_accepted history start hheaders
  have hcovers := goawayIdentifier_covers_iff hserver hknown hids
  constructor
  · intro h hstate hsent
    refine hcovers.mp (h c.goawayIdentifier ?_)
    exact c.goaway_mem_iff.mpr ⟨hstate, hsent, rfl⟩
  · intro h identifier hmem
    obtain ⟨hstate, hsent, rfl⟩ := c.goaway_mem_iff.mp hmem
    exact hcovers.mpr (h hstate hsent)

/-- A server with one session that is established. -/
def sampleAccepted : List (Timestamp × ConnectionOp) :=
  [(0, .handleHandshakeCompleted), sampleHeaders 0, (2, .acceptSession 0 7 [] none)]

theorem headersOnRequests_sampleAccepted : HeadersOnRequests sampleAccepted := by
  intro entry hentry streamId headers hop
  simp only [sampleAccepted, sampleHeaders, List.mem_cons, List.not_mem_nil, or_false] at hentry
  rcases hentry with rfl | rfl | rfl <;> cases hop
  decide

theorem goaway_covers_established :
    (sampleServer.accepted sampleAccepted) = [0] ∧
      ∀ identifier,
        .sendH3Goaway identifier ∈ ((sampleServer.execAll sampleAccepted).1.closeGracefully 9).2 →
          Covers [0] identifier :=
  ⟨by decide, (goaway_covers_iff 0 none sampleParameters sampleAccepted
    headersOnRequests_sampleAccepted 9).mpr
      fun _ _ => Or.inr ⟨0, by decide, by decide, by decide⟩⟩

/-- The client finishes the session, and the server removes it. -/
def sampleRemoved : List (Timestamp × ConnectionOp) :=
  sampleAccepted ++ [(3, .recvConnectClose 0), (4, .pruneResources)]

/-- The server then announces that it has not processed request 0. -/
theorem goaway_disowns :
    sampleServer.accepted sampleRemoved = [0] ∧
      .sendH3Goaway 0 ∈ ((sampleServer.execAll sampleRemoved).1.closeGracefully 9).2 ∧
      ¬Covers (sampleServer.accepted sampleRemoved) 0 := by
  refine ⟨by decide, ?_, ?_⟩
  · exact (goaway_mem_iff _).mpr (by decide)
  · rintro ⟨-, hbelow⟩
    exact absurd (hbelow 0 (by decide)) (Nat.lt_irrefl 0)

end Connection

end PyWebTransport

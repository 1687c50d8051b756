/-
PyWebTransport.Protocol.Registry — which session a stream belongs to, and how
many sessions there may be.

`Routed` says that the map of streams and the table of sessions fit together:
a stream that a session holds is mapped to that session, and a session that
occurs in the map is in the table. Streams that leave a session may stay in
the map for a while, so the map is not asked to be minimal. The map follows
the sessions as long as no stream comes twice, which the ledger shows: a
stream that is about to be handed over is in none of the columns of those
that were. `Roomy` is the limit on sessions and requests together.
-/
import PyWebTransport.Protocol.EarlyEvents

namespace PyWebTransport

open PyWebTransport.Lib

/-! ## Streams of a session -/

namespace Session

variable {s : Session}

/-- A call adds no stream but the one it brings. -/
theorem hasStream_exec (hs : s.Settled) {op : SessionOp} {streamId : StreamId}
    (h : (s.exec op).1.hasStream streamId = true) :
    s.hasStream streamId = true ∨ streamId ∈ op.adds := by
  have hkept := (exec_outcome s hs op).keeps
    (P := fun t => ∀ k, t.hasStream k = true → s.hasStream k = true ∨ k ∈ op.adds)
    (fun t _ u move ht k hk => ?_) (fun _ t first k hk => ?_) (fun t _ _ _ _ ht => ht)
    (fun k hk => Or.inl hk)
  · exact hkept streamId h
  · obtain ⟨stream, hget⟩ := Option.isSome_iff_exists.mp hk
    obtain ⟨old, hold, -⟩ := move.continues hget
    exact ht k (Option.isSome_iff_exists.mpr ⟨old, hold⟩)
  · have hinsert : ∀ {id : StreamId} {stream : Stream},
        (s.streams.insert id stream).contains k = true → k = id ∨ s.hasStream k = true := by
      intro id stream hcontains
      obtain ⟨found, hget⟩ := Option.isSome_iff_exists.mp hcontains
      rcases OrderedMap.get?_insert_some hget with ⟨heq, -⟩ | ⟨-, hold⟩
      · exact Or.inl heq
      · exact Or.inr (Option.isSome_iff_exists.mpr ⟨found, hold⟩)
    cases first with
    | bound id requestId uni now named =>
      rcases hinsert hk with rfl | hold
      · exact Or.inr (by simp [named, SessionOp.adds])
      · exact Or.inl hold
    | @admitted id now direction named =>
      obtain ⟨_, _, hshape⟩ := s.admitted_shape
      rw [hshape] at hk
      rcases hinsert hk with rfl | hold
      · exact Or.inr (by simp [named, SessionOp.adds])
      · exact Or.inl hold
    | @turnedAway _ id now direction =>
      obtain ⟨_, _, _, _, hshape⟩ := s.turnedAway_shape
      rw [hshape] at hk
      exact Or.inl hk

theorem settled_exec (hs : s.Settled) (op : SessionOp) : (s.exec op).1.Settled :=
  (s.evolves_exec op).settled hs

end Session

namespace Connection

variable {c c' : Connection} {streamId : StreamId} {sessionId id : SessionId} {session : Session}
  {op : SessionOp} {l l' : Ledger} {call : Call} {effects : List Effect} {limit : Nat}

variable {handle : ConnectionHandle} {requestId : Option RequestId} {isClient : Bool}
  {parameters : ConnectionParameters}

/-! ## The map and the table -/

/-- A session of the connection holds the stream. -/
def Holds (c : Connection) (sessionId : SessionId) (streamId : StreamId) : Prop :=
  ∃ session, c.sessions.get? sessionId = some session ∧ session.hasStream streamId = true

theorem holds_iff (c : Connection) :
    c.Holds sessionId streamId ↔
      (c.sessions.get? sessionId).any (fun session => session.hasStream streamId) = true := by
  unfold Holds
  cases c.sessions.get? sessionId <;> simp

instance (c : Connection) (sessionId : SessionId) (streamId : StreamId) :
    Decidable (c.Holds sessionId streamId) :=
  decidable_of_iff _ c.holds_iff.symm

/-- The map of streams fits the table of sessions. -/
structure Routed (c : Connection) : Prop where
  held : ∀ {sessionId streamId}, c.Holds sessionId streamId →
    c.streamMap.get? streamId = some sessionId
  keys : ∀ {streamId sessionId}, c.streamMap.get? streamId = some sessionId →
    c.sessions.contains sessionId = true

/-- Every session has let go of its streams if it is closed. -/
def AllSettled (c : Connection) : Prop :=
  ∀ sessionId session, c.sessions.get? sessionId = some session → session.Settled

/-- No stream is held by two sessions. -/
theorem Routed.unique (hc : c.Routed) {first second : SessionId} (h : c.Holds first streamId)
    (h' : c.Holds second streamId) : first = second :=
  Option.some.inj ((hc.held h).symm.trans (hc.held h'))

/-- One session moved on by a call. -/
theorem holds_insert (hget : c.sessions.get? sessionId = some session) (hs : session.Settled)
    (hsessions : c'.sessions = c.sessions.insert sessionId (session.exec op).1)
    (h : c'.Holds id streamId) : c.Holds id streamId ∨ id = sessionId ∧ streamId ∈ op.adds := by
  obtain ⟨found, hfound, hstream⟩ := h
  rw [hsessions] at hfound
  rcases OrderedMap.get?_insert_some hfound with ⟨rfl, rfl⟩ | ⟨-, hold⟩
  · rcases Session.hasStream_exec hs hstream with hstream | hadds
    · exact Or.inl ⟨session, hget, hstream⟩
    · exact Or.inr ⟨rfl, hadds⟩
  · exact Or.inl ⟨found, hold, hstream⟩

theorem settled_insert (hc : c.AllSettled) (hs : session.Settled)
    (hsessions : c'.sessions = c.sessions.insert sessionId session) : c'.AllSettled := by
  intro id found hfound
  rw [hsessions] at hfound
  rcases OrderedMap.get?_insert_some hfound with ⟨-, rfl⟩ | ⟨-, hold⟩
  · exact hs
  · exact hc id found hold

/-! ## Calls -/

theorem AllSettled.perform (hc : c.AllSettled) (call : Call) : (c.perform call).1.AllSettled := by
  have hsession : ∀ sessionId op,
      (c.onSession sessionId (c, []) fun session => session.exec op).1.AllSettled := by
    intro sessionId op
    rcases c.onSession_cases sessionId op with h | ⟨session, hget, h⟩
    · rwa [h]
    · exact settled_insert hc (Session.settled_exec (hc _ session hget) op) (by rw [h])
  cases call with
  | session sessionId op => exact hsession sessionId op
  | stream streamId op =>
    simp only [Connection.perform, onStream]
    split
    · exact hc
    · split
      · exact hc
      · rename_i session hget
        exact settled_insert hc (Session.settled_exec (hc _ session hget) op) rfl
  | adopt sessionId streamId op =>
    intro id session hget
    simp only [Connection.perform, sessions_mapStream] at hget
    exact hsession sessionId op id session hget
  | each op =>
    intro id session hget
    simp only [Connection.perform, forEachSession, OrderedMap.get?_map,
      Option.map_eq_some_iff] at hget
    obtain ⟨old, hold, rfl⟩ := hget
    exact Session.settled_exec (hc id old hold) op

theorem holds_onSession (hc : c.AllSettled)
    (h : (c.onSession sessionId (c, []) fun session => session.exec op).1.Holds id streamId) :
    c.Holds id streamId ∨ id = sessionId ∧ streamId ∈ op.adds := by
  rcases c.onSession_cases sessionId op with hsame | ⟨session, hget, hcalled⟩
  · rw [hsame] at h
    exact Or.inl h
  · exact holds_insert hget (hc sessionId session hget) (by rw [hcalled]) h

theorem holds_congr (hsessions : c'.sessions = c.sessions) (h : c'.Holds id streamId) :
    c.Holds id streamId := by
  obtain ⟨session, hget, hstream⟩ := h
  exact ⟨session, hsessions ▸ hget, hstream⟩

theorem holds_forEachSession (hc : c.AllSettled) (hadds : op.adds = [])
    (h : (c.forEachSession fun session => session.exec op).1.Holds id streamId) :
    c.Holds id streamId := by
  obtain ⟨session, hget, hstream⟩ := h
  simp only [forEachSession, OrderedMap.get?_map, Option.map_eq_some_iff] at hget
  obtain ⟨old, hold, rfl⟩ := hget
  rcases Session.hasStream_exec (hc id old hold) hstream with hstream | hnew
  · exact ⟨old, hold, hstream⟩
  · rw [hadds] at hnew
    cases hnew

/-- A call that brings no stream to a session leaves none it did not find. -/
theorem holds_perform (hc : c.AllSettled) (hplain : call.isPlain = true)
    (h : (c.perform call).1.Holds id streamId) : c.Holds id streamId := by
  have hnone : ∀ {op : SessionOp} {sessionId : SessionId}, op.adds.isEmpty = true →
      c.Holds id streamId ∨ id = sessionId ∧ streamId ∈ op.adds → c.Holds id streamId := by
    rintro op sessionId hadds (hold | ⟨-, hnew⟩)
    · exact hold
    · rw [List.isEmpty_iff.mp hadds] at hnew
      cases hnew
  cases call with
  | session sessionId op => exact hnone hplain (holds_onSession hc h)
  | stream k op =>
    rcases c.onStream_cases k op with hsame | ⟨sessionId, session, -, hget, hcalled⟩
    · exact hsame ▸ h
    · exact hnone hplain (holds_insert hget (hc sessionId session hget) (by
        show Connection.sessions (c.onStream _ _ _).1 = _
        rw [hcalled]) h)
  | adopt sessionId k op => cases hplain
  | each op => exact holds_forEachSession hc (List.isEmpty_iff.mp hplain) h

theorem Routed.perform (hc : c.Routed) (hsettled : c.AllSettled) (hplain : call.isPlain = true) :
    (c.perform call).1.Routed := by
  -- a call that leaves the map alone
  have hsame : (c.perform call).1.streamMap = c.streamMap → (c.perform call).1.Routed := by
    intro hmap
    refine ⟨fun hheld => ?_, fun hstored => ?_⟩
    · rw [hmap]
      exact hc.held (holds_perform hsettled hplain hheld)
    · rw [contains_perform]
      rw [hmap] at hstored
      exact hc.keys hstored
  cases call with
  | session sessionId op =>
    refine hsame ?_
    show Connection.streamMap (c.onSession _ _ _).1 = _
    rcases c.onSession_cases sessionId op with h | ⟨session, -, h⟩ <;> rw [h]
  | stream streamId op =>
    rcases c.onStream_cases streamId op with h | ⟨sessionId, session, hmap, hget, h⟩
    · exact hsame (congrArg Connection.streamMap h)
    · have hstreamMap : (c.perform (.stream streamId op)).1.streamMap =
          if (session.exec op).1.hasStream streamId then c.streamMap
          else c.streamMap.erase streamId := congrArg Connection.streamMap h
      cases hstill : (session.exec op).1.hasStream streamId with
      | true =>
        rw [hstill, if_pos rfl] at hstreamMap
        exact hsame hstreamMap
      | false =>
        rw [hstill, if_neg (by decide)] at hstreamMap
        refine ⟨fun {id k} hheld => ?_, fun hstored => ?_⟩
        · have hold := hc.held (holds_perform hsettled hplain hheld)
          rw [hstreamMap]
          by_cases heq : streamId = k
          · -- the session that holds the stream is the one that has just dropped it
            subst heq
            obtain rfl : sessionId = id := Option.some.inj (hmap.symm.trans hold)
            obtain ⟨found, hfound, hstream⟩ := hheld
            have hsessions : (c.perform (.stream streamId op)).1.sessions =
                c.sessions.insert sessionId (session.exec op).1 :=
              congrArg Connection.sessions h
            rw [hsessions, OrderedMap.get?_insert_self] at hfound
            cases hfound
            rw [hstill] at hstream
            cases hstream
          · rw [OrderedMap.get?_erase_of_ne _ heq]
            exact hold
        · rw [contains_perform]
          rw [hstreamMap] at hstored
          exact hc.keys (OrderedMap.get?_erase_some hstored).2
  | adopt sessionId streamId op => cases hplain
  | each op => exact hsame rfl

/-- A session that takes a stream holds no other it did not hold before. -/
theorem holds_adopt (hc : c.AllSettled) {k : StreamId} (hadds : op.adds = [streamId])
    (h : (c.perform (.adopt sessionId streamId op)).1.Holds id k) :
    c.Holds id k ∨ id = sessionId ∧ k = streamId := by
  rcases holds_onSession hc (holds_congr sessions_mapStream h) with
    hold | ⟨hid, hnew⟩
  · exact Or.inl hold
  · rw [hadds] at hnew
    exact Or.inr ⟨hid, List.mem_singleton.mp hnew⟩

/-- A session takes a stream that no session holds. -/
theorem Routed.adopt (hc : c.Routed) (hsettled : c.AllSettled) (sessionId : SessionId)
    (hadds : op.adds = [streamId]) (hfree : ∀ id, ¬c.Holds id streamId) :
    (c.perform (.adopt sessionId streamId op)).1.Routed := by
  have hstreamMap : (c.onSession sessionId (c, []) fun session => session.exec op).1.streamMap =
      c.streamMap := by
    rcases c.onSession_cases sessionId op with h | ⟨session, -, h⟩ <;> rw [h]
  refine ⟨fun {id k} hheld => ?_, fun {k id} hstored => ?_⟩
  · have htaken := holds_congr sessions_mapStream hheld
    have hcases := holds_adopt hsettled hadds hheld
    clear hheld
    simp only [Connection.perform, mapStream]
    rcases hcases with hold | ⟨rfl, rfl⟩
    · have hne : streamId ≠ k := by
        rintro rfl
        exact hfree id hold
      split
      · rw [OrderedMap.get?_insert_of_ne _ _ hne, hstreamMap]
        exact hc.held hold
      · rw [hstreamMap]
        exact hc.held hold
    · rw [if_pos ((holds_iff _).mp htaken)]
      exact OrderedMap.get?_insert_self _ _ _
  · rw [contains_perform]
    simp only [Connection.perform, mapStream] at hstored
    split at hstored
    · rename_i htook
      rcases OrderedMap.get?_insert_some hstored with ⟨-, rfl⟩ | ⟨-, hold⟩
      · obtain ⟨session, hget, -⟩ := (holds_iff _).mpr htook
        rw [← contains_perform c (.session id op) id]
        exact Option.isSome_iff_exists.mpr ⟨session, hget⟩
      · rw [hstreamMap] at hold
        exact hc.keys hold
    · rw [hstreamMap] at hstored
      exact hc.keys hstored

/-! ## Opening and removing sessions -/

theorem Routed.congr (hc : c.Routed) (hsessions : c'.sessions = c.sessions)
    (hmap : c'.streamMap = c.streamMap) : c'.Routed where
  held h := by
    rw [hmap]
    exact hc.held (holds_congr hsessions h)
  keys h := by
    rw [hsessions]
    exact hc.keys (hmap ▸ h)

theorem AllSettled.congr (hc : c.AllSettled) (hsessions : c'.sessions = c.sessions) :
    c'.AllSettled :=
  fun sessionId session hget => hc sessionId session (hsessions ▸ hget)

/-- A session that is opened holds no stream. -/
theorem holds_opened (hempty : session.streams = ∅)
    (hsessions : c'.sessions = c.sessions.insert sessionId session) (h : c'.Holds id streamId) :
    c.Holds id streamId := by
  obtain ⟨found, hfound, hstream⟩ := h
  rw [hsessions] at hfound
  rcases OrderedMap.get?_insert_some hfound with ⟨-, rfl⟩ | ⟨-, hold⟩
  · rw [Session.hasStream, hempty] at hstream
    cases hstream
  · exact ⟨found, hold, hstream⟩

theorem Routed.opened {c c' : Connection} (hc : c.Routed) {sessionId : SessionId}
    {session : Session} (hempty : session.streams = ∅)
    (hsessions : c'.sessions = c.sessions.insert sessionId session)
    (hmap : c'.streamMap = c.streamMap) : c'.Routed where
  held h := by
    rw [hmap]
    exact hc.held (holds_opened hempty hsessions h)
  keys {streamId id} h := by
    obtain ⟨old, hold⟩ := Option.isSome_iff_exists.mp (hc.keys (hmap ▸ h))
    rw [hsessions, OrderedMap.contains, OrderedMap.get?_insert]
    split
    · rfl
    · rw [hold]
      rfl

theorem holds_pruneResources (h : c.pruneResources.Holds id streamId) :
    c.Holds id streamId ∧ c.isSessionClosed id = false := by
  obtain ⟨session, hget, hstream⟩ := h
  simp only [pruneResources, OrderedMap.get?_filter, Option.filter_eq_some_iff,
    Bool.not_eq_true'] at hget
  refine ⟨⟨session, hget.1, hstream⟩, ?_⟩
  rw [isSessionClosed, hget.1]
  exact hget.2

theorem Routed.pruneResources (hc : c.Routed) : c.pruneResources.Routed where
  held h := by
    obtain ⟨hold, hlive⟩ := holds_pruneResources h
    simp only [Connection.pruneResources, OrderedMap.get?_filter, Option.filter_eq_some_iff,
      Bool.not_eq_true']
    exact ⟨hc.held hold, hlive⟩
  keys {streamId sessionId} h := by
    simp only [Connection.pruneResources, OrderedMap.get?_filter, Option.filter_eq_some_iff,
      Bool.not_eq_true'] at h
    obtain ⟨session, hget⟩ := Option.isSome_iff_exists.mp (hc.keys h.1)
    have hlive : session.isClosed = false := by
      have hclosed := h.2
      rw [isSessionClosed, hget] at hclosed
      exact hclosed
    simp [Connection.pruneResources, OrderedMap.contains, OrderedMap.get?_filter, hget, hlive]

theorem AllSettled.pruneResources (hc : c.AllSettled) : c.pruneResources.AllSettled := by
  intro sessionId session hget
  simp only [Connection.pruneResources, OrderedMap.get?_filter,
    Option.filter_eq_some_iff] at hget
  exact hc sessionId session hget.1

theorem settled_new (id : SessionId) (path : String) (headers : Headers)
    (protocols : Option (List String)) ( isClient : Bool) (parameters : SessionParameters)
    (createdAt : Timestamp) :
    (Session.new id path headers protocols isClient parameters createdAt).Settled :=
  Session.Settled.of_open rfl

/-! ## Moves -/

/-- No stream came to the connection twice. -/
def Fresh (l : Ledger) : Prop := ((l.arrived ++ l.bound).map Prod.snd).Nodup

theorem Fresh.before (hl : Fresh l') (h : Move l effects l') : Fresh l := by
  cases h with
  | bind sessionId streamId =>
    refine List.Nodup.sublist (List.Sublist.map _ ?_) hl
    exact List.Sublist.append_left (List.sublist_cons_self _ _) _
  | arrive sessionId streamId => exact (List.nodup_cons.mp hl).2
  | _ => exact hl

/-- The tables of a ledger: sessions, map, and the streams in sessions, which
are in the books. -/
structure InOrder (l : Ledger) : Prop where
  balanced : Balanced l
  settled : l.connection.AllSettled
  routed : l.connection.Routed
  known : ∀ {sessionId streamId}, l.connection.Holds sessionId streamId →
    streamId ∈ (l.handed ++ l.bound).map Prod.snd

/-- A stream in hand is in no session yet. -/
theorem InOrder.free_of_hand (hl : InOrder l) (hfresh : Fresh l)
    {rest : List (SessionId × StreamId)} (hhand : l.hand = (sessionId, streamId) :: rest)
    (id : SessionId) : ¬l.connection.Holds id streamId := by
  intro hheld
  have hknown := hl.known hheld
  have hperm := (hl.balanced.append_right l.bound).map Prod.snd
  have hnodup := hperm.nodup_iff.mp hfresh
  rw [hhand] at hnodup
  rw [List.map_append] at hknown
  simp only [List.map_append, List.map_cons, List.cons_append, List.append_assoc] at hnodup
  have htail := (List.nodup_append.mp hnodup).2.1
  refine (List.nodup_cons.mp htail).1 ?_
  refine List.mem_append_right _ (List.mem_append_right _ ?_)
  exact hknown

/-- A stream of the application that is new is in no session yet. -/
theorem InOrder.free_of_bound (hl : InOrder l)
    (hfresh : Fresh { l with bound := (sessionId, streamId) :: l.bound }) (id : SessionId) :
    ¬l.connection.Holds id streamId := by
  intro hheld
  have hknown := hl.known hheld
  rw [Fresh, List.map_append, List.map_cons] at hfresh
  obtain ⟨hapart, hrest⟩ := List.nodup_cons.mp (List.perm_middle.nodup_iff.mp hfresh)
  refine hapart ?_
  rw [List.map_append] at hknown
  rcases List.mem_append.mp hknown with hhanded | hbound
  · obtain ⟨entry, hentry, rfl⟩ := List.mem_map.mp hhanded
    have harrived : entry ∈ l.arrived := hl.balanced.mem_iff.mpr (by simp [hentry])
    exact List.mem_append_left _ (List.mem_map.mpr ⟨entry, harrived, rfl⟩)
  · exact List.mem_append_right _ hbound

theorem InOrder.move (hl : InOrder l) (hfresh : Fresh l') (h : Move l effects l') : InOrder l' := by
  have hbalanced := hl.balanced.move h
  have hbefore := hfresh.before h
  cases h with
  | settle _ same =>
    exact ⟨hbalanced, hl.settled.congr same.sessions, hl.routed.congr same.sessions same.streamMap,
      fun hheld => hl.known (holds_congr same.sessions hheld)⟩
  | call call plain =>
    exact ⟨hbalanced, hl.settled.perform call, hl.routed.perform hl.settled plain,
      fun hheld => hl.known (holds_perform hl.settled plain hheld)⟩
  | bind sessionId streamId requestId isUnidirectional now =>
    refine ⟨hbalanced, hl.settled.perform _,
      hl.routed.adopt hl.settled sessionId rfl (hl.free_of_bound hfresh), fun hheld => ?_⟩
    rcases holds_adopt hl.settled rfl hheld with hold | ⟨-, rfl⟩
    · have hknown := hl.known hold
      simp only [List.map_append, List.map_cons, List.mem_append, List.mem_cons] at hknown ⊢
      exact hknown.imp_right Or.inr
    · simp
  | arrive => exact ⟨hbalanced, hl.settled, hl.routed, hl.known⟩
  | handOver now present inHand =>
    refine ⟨hbalanced, hl.settled.perform _,
      hl.routed.adopt hl.settled _ rfl (hl.free_of_hand hbefore inHand), fun hheld => ?_⟩
    rcases holds_adopt hl.settled rfl hheld with hold | ⟨-, rfl⟩
    · exact List.mem_cons_of_mem _ (hl.known hold)
    · exact List.mem_cons_self
  | refuse => exact ⟨hbalanced, hl.settled, hl.routed, hl.known⟩
  | store | touch | expire | take | submit =>
    exact ⟨hbalanced, hl.settled.congr rfl, hl.routed.congr rfl rfl, hl.known⟩
  | opened streamId requestId requested | accepted =>
    exact ⟨hbalanced, settled_insert hl.settled (settled_new _ _ _ _ _ _ _) rfl,
      hl.routed.opened rfl rfl rfl, fun hheld => hl.known (holds_opened rfl rfl hheld)⟩
  | prune =>
    exact ⟨hbalanced, hl.settled.pruneResources, hl.routed.pruneResources,
      fun hheld => hl.known (holds_pruneResources hheld).1⟩

/-! ## Room -/

theorem activeLimit_le (c : Connection) : c.activeLimit ≤ max 1 c.maxSessions := by
  unfold activeLimit
  split
  · exact Nat.le_max_right 1 c.maxSessions
  · exact Nat.le_max_left 1 c.maxSessions

theorem activeLimit_pos (h : 0 < c.maxSessions) : c.activeLimit > 0 := by
  unfold activeLimit
  split
  · exact h
  · exact Nat.one_pos

/-- Sessions and requests together are within the limit; a server has no
requests of its own. -/
structure Roomy (limit : Nat) (c : Connection) : Prop where
  maxSessions : c.maxSessions = limit
  room : c.sessions.size + c.sessionRequests.size ≤ max 1 limit
  server : c.isClient = false → c.sessionRequests.size = 0

theorem Roomy.perform (hc : Roomy limit c) (call : Call) : Roomy limit (c.perform call).1 := by
  obtain ⟨hsize, hrequests, hmax, hclient⟩ := c.size_perform call
  refine ⟨hmax.trans hc.maxSessions, ?_, fun hserver => ?_⟩
  · rw [hsize, hrequests]
    exact hc.room
  · rw [hrequests]
    exact hc.server (hclient ▸ hserver)

theorem Roomy.move (hlimit : 0 < limit) (hl : Roomy limit l.connection) (h : Move l effects l') :
    Roomy limit l'.connection := by
  have hpos : l.connection.activeLimit > 0 := activeLimit_pos (hl.maxSessions ▸ hlimit)
  have hactive := l.connection.activeLimit_le
  rw [hl.maxSessions] at hactive
  cases h with
  | settle _ same =>
    refine ⟨same.maxSessions.trans hl.maxSessions, ?_, fun hserver => ?_⟩
    · rw [same.sessions]
      exact (Nat.add_le_add_left same.requests _).trans hl.room
    · have hnone := hl.server (same.isClient ▸ hserver)
      exact Nat.le_zero.mp (hnone ▸ same.requests)
  | call call _ => exact hl.perform call
  | bind | handOver => exact hl.perform _
  | submit requestId sessionRequest client room =>
    refine ⟨hl.maxSessions, ?_, fun hserver => absurd (client.symm.trans hserver) (by decide)⟩
    have hsize := l.connection.sessionRequests.size_insert_le requestId sessionRequest
    have hroom := room hpos
    show l.connection.sessions.size +
      (l.connection.sessionRequests.insert requestId sessionRequest).size ≤ _
    omega
  | opened streamId requestId requested =>
    have hrequests := l.connection.sessionRequests.size_erase_of_get? requested
    refine ⟨hl.maxSessions, ?_, fun hserver => ?_⟩
    · refine (Nat.add_le_add_right (OrderedMap.size_insert_le _ _ _) _).trans ?_
      have hroom := hl.room
      show l.connection.sessions.size + 1 + (l.connection.sessionRequests.erase requestId).size ≤ _
      omega
    · have hnone := hl.server hserver
      omega
  | accepted streamId path headers available now server absent room =>
    refine ⟨hl.maxSessions, ?_, hl.server⟩
    refine (Nat.add_le_add_right (OrderedMap.size_insert_le _ _ _) _).trans ?_
    have hroom := room hpos
    have hnone := hl.server server
    show l.connection.sessions.size + 1 + l.connection.sessionRequests.size ≤ _
    omega
  | prune =>
    exact ⟨hl.maxSessions, (Nat.add_le_add_right (OrderedMap.size_filter_le _ _) _).trans hl.room,
      hl.server⟩
  | _ => exact ⟨hl.maxSessions, hl.room, hl.server⟩

/-! ## Histories -/

/-- The streams a history brings, from the peer and from the application. -/
def streamsBrought (history : List (Timestamp × ConnectionOp)) : List StreamId :=
  history.flatMap fun entry => (entry.2.arrives ++ entry.2.binds).map Prod.snd

theorem inOrder_start :
    InOrder (.start (Connection.new handle requestId isClient parameters)) where
  balanced := .refl _
  settled _ _ hget := nomatch hget
  routed := ⟨(fun ⟨_, hget, _⟩ => nomatch hget), (fun hmap => nomatch hmap)⟩
  known := fun ⟨_, hget, _⟩ => nomatch hget

theorem roomy_new :
    Roomy parameters.maxSessions (Connection.new handle requestId isClient parameters) :=
  ⟨rfl, Nat.zero_le _, fun _ => rfl⟩

/-- Backwards, every ledger on the way to a fresh one is fresh; forwards,
each is in order. -/
theorem InOrder.moves (h : Chain Move l effects l') (hfresh : Fresh l') :
    Fresh l ∧ (InOrder l → InOrder l') := by
  induction h with
  | refl l => exact ⟨hfresh, fun hl => hl⟩
  | head move _ ih =>
    obtain ⟨hmid, hkept⟩ := ih hfresh
    exact ⟨hmid.before move, fun hl => hkept (hl.move hmid move)⟩

theorem streamsBrought_perm {history : List (Timestamp × ConnectionOp)} :
    (streamsBrought history).Perm
      (((history.flatMap fun entry => entry.2.arrives).reverse ++
        (history.flatMap fun entry => entry.2.binds).reverse).map Prod.snd) := by
  have hsplit := (List.flatMap_append_perm history (fun entry => entry.2.arrives)
    fun entry => entry.2.binds).symm
  have hreverse := ((List.reverse_perm (history.flatMap fun entry => entry.2.arrives)).append
    (List.reverse_perm (history.flatMap fun entry => entry.2.binds))).symm
  have hmap := (hsplit.trans hreverse).map Prod.snd
  rwa [List.map_flatMap] at hmap

/-- After any history that brings no stream twice, a stream that a session
holds is mapped to that session and held by no other, a session that occurs
in the map is in the table, and sessions and requests together are at most
`max_sessions`, or one. -/
theorem streams_routed (handle : ConnectionHandle) (requestId : Option RequestId) ( isClient : Bool)
    (parameters : ConnectionParameters) (history : List (Timestamp × ConnectionOp))
    (hfresh : (streamsBrought history).Nodup) (hsessions : 0 < parameters.maxSessions) :
    let c := ((Connection.new handle requestId isClient parameters).execAll history).1
    (∀ sessionId session streamId, c.sessions.get? sessionId = some session →
      session.hasStream streamId = true → c.streamMap.get? streamId = some sessionId) ∧
    (∀ first second streamId, c.Holds first streamId → c.Holds second streamId →
      first = second) ∧
    (∀ streamId sessionId, c.streamMap.get? streamId = some sessionId →
      c.sessions.contains sessionId = true) ∧
    c.sessions.size + c.sessionRequests.size ≤ max 1 parameters.maxSessions := by
  intro c
  obtain ⟨refused, handed, hmoves⟩ := execAll_leads history
    (.start (Connection.new handle requestId isClient parameters)) accounted_new
  have hroomy := hmoves.keeps (P := fun l => Roomy parameters.maxSessions l.connection)
    (fun _ _ _ move hl => hl.move hsessions move) roomy_new
  have hend : Fresh { Ledger.start (Connection.new handle requestId isClient parameters) with
      arrived := (history.flatMap fun entry => entry.2.arrives).reverse ++ []
      bound := (history.flatMap fun entry => entry.2.binds).reverse ++ [] } := by
    rw [Fresh, List.append_nil, List.append_nil]
    exact streamsBrought_perm.nodup_iff.mp hfresh
  have horder := (InOrder.moves hmoves hend).2 inOrder_start
  exact ⟨fun sessionId session streamId hget hstream => horder.routed.held ⟨session, hget, hstream⟩,
    fun _ _ _ h h' => horder.routed.unique h h', fun _ _ hmap => horder.routed.keys hmap,
    hroomy.room⟩

/-- A session and a stream of each side. -/
def sampleStreams : List (Timestamp × ConnectionOp) :=
  [(0, .handleHandshakeCompleted), sampleHeaders 0, (2, .handleStreamOpened 0 4),
    (3, .bindStream 0 1 7 false)]

theorem streams_routed_sample :
    (streamsBrought sampleStreams).Nodup ∧ 0 < sampleParameters.maxSessions ∧
      (sampleServer.execAll sampleStreams).1.Holds 0 4 ∧
      (sampleServer.execAll sampleStreams).1.streamMap.get? 4 = some 0 := by
  have hroutes := streams_routed 0 none false sampleParameters sampleStreams (by decide)
    (by decide)
  have hholds : (sampleServer.execAll sampleStreams).1.Holds 0 4 := by decide
  obtain ⟨session, hget, hstream⟩ := id hholds
  exact ⟨by decide, by decide, hholds, hroutes.1 0 session 4 hget hstream⟩

end Connection

end PyWebTransport

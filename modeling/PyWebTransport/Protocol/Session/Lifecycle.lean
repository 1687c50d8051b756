/-
PyWebTransport.Protocol.Session.Lifecycle — the life of a session as its
events and its CONNECT stream tell it.

A session says what it has to say while it is open: no move of a session
that is over has an event of the session, announces a stream, or puts
anything on the CONNECT stream, and no move at all finishes or resets that
stream (`Move.voice`). What finishes it comes at the end of a course,
together with the one `SessionClosed` event. `lifecycle_trace` puts this
together for whole runs.
-/
import PyWebTransport.Protocol.Session.Lives
import PyWebTransport.Protocol.Session.RequestRuns

namespace PyWebTransport

open PyWebTransport.Lib

/-! ## What an effect says -/

namespace Effect

variable {e : Effect} {streamId : StreamId} {sessionId : SessionId}

def isSessionEvent (kind : EventType) : Effect → Bool
  | .emitSessionEvent _ eventType _ => eventType = kind
  | _ => false

/-- Whether an effect puts something on this stream as HTTP/3 frames or as
bytes. -/
def sendsOn (streamId : StreamId) : Effect → Bool
  | .sendH3Headers k _ _ | .sendH3Capsule k _ _ _ | .sendQuicData k _ _ => k = streamId
  | _ => false

/-- Whether an effect finishes or resets this stream. -/
def endsOn (streamId : StreamId) : Effect → Bool
  | .sendH3Headers k _ fin | .sendH3Capsule k _ _ fin | .sendQuicData k _ fin =>
    k = streamId && fin
  | .resetQuicStream k _ => k = streamId
  | _ => false

/-- What only a session that is not over says: its own events, that a stream
is open, and anything on the CONNECT stream. -/
def speaks (sessionId : SessionId) (e : Effect) : Bool :=
  e.sendsOn sessionId ||
    match e with
    | .emitSessionEvent .. => true
    | .emitStreamEvent _ eventType _ _ _ _ => eventType = .streamOpened
    | _ => false

/-- An effect about another stream or about a request. -/
def isApart (sessionId : SessionId) (e : Effect) : Bool :=
  !e.speaks sessionId && !e.endsOn sessionId

theorem isApart_of_isQuiet (h : e.isQuiet = true) : e.isApart sessionId = true := by
  cases e <;> simp_all [isQuiet, isApart, speaks, sendsOn, endsOn]

theorem isApart_of_isOwn (h : e.isOwn streamId = true) (hne : streamId ≠ sessionId) :
    e.isApart sessionId = true := by
  cases e <;> simp_all [isOwn, isApart, speaks, sendsOn, endsOn]
  rename_i eventType _ _ _ _
  rcases h.2 with rfl | rfl <;> decide

theorem isApart_of_refuses (h : e.refuses streamId = true) (hne : streamId ≠ sessionId) :
    e.isApart sessionId = true := by
  cases e <;> simp_all [refuses, isApart, speaks, sendsOn, endsOn]

end Effect

namespace Session

variable {op : SessionOp} {sessionId : SessionId} {s t : Session}
  {effects history last : List Effect} {e : Effect}

variable {kind : EventType}

/-- Effects that are all about other streams or about requests. -/
def AllApart (sessionId : SessionId) (effects : List Effect) : Prop :=
  ∀ e ∈ effects, e.isApart sessionId = true

theorem AllApart.quiet (h : ∀ e ∈ effects, e.isQuiet = true) (sessionId : SessionId) :
    AllApart sessionId effects :=
  fun e he => Effect.isApart_of_isQuiet (h e he)

theorem AllApart.own {streamId : StreamId} (h : ∀ e ∈ effects, e.isOwn streamId = true)
    (hne : streamId ≠ sessionId) : AllApart sessionId effects :=
  fun e he => Effect.isApart_of_isOwn (h e he) hne

theorem AllApart.append {first second : List Effect} (h₁ : AllApart sessionId first)
    (h₂ : AllApart sessionId second) : AllApart sessionId (first ++ second) := by
  exact List.forall_mem_append.mpr ⟨h₁, h₂⟩

theorem Round.apart (hs : s.Keyed) (h : Round s effects t) : AllApart s.id effects := by
  cases h with
  | putBack | stale => exact fun e he => nomatch he
  | @flush streamId rest stream queue credit present =>
    rw [effects_flushBlockedStream]
    have hsilent := stream.silent_flushWrites (s.popped streamId rest).sessionCredit
    rw [hs.id present] at hsilent
    exact .own (fun e he => (hsilent e he).1) (hs.apart present)

/-- The flush of blocked writes puts bytes on the streams of the session,
none of which is the CONNECT stream. -/
theorem allApart_rounds (hs : s.Keyed) (h : Chain Round s effects t) : AllApart s.id effects := by
  induction h with
  | refl s => exact fun e he => nomatch he
  | head round _ ih =>
    have hlater := ih (hs.round round)
    rw [round.id_eq] at hlater
    exact (round.apart hs).append hlater

theorem allApart_maxDataRaised (hs : s.Keyed) {limit : Nat} :
    AllApart s.id (s.maxDataRaised limit).2 := by
  have hraised : Keyed { s with peerMaxData := limit } :=
    ⟨fun hget => hs.id hget, fun hget => hs.apart hget⟩
  have hflush := allApart_rounds hraised (s.rounds_maxDataRaised limit)
  exact hflush

/-! ## What a move says -/

/-- The event of a kind comes only with the step of the state across a rank. -/
def Crosses (kind : EventType) (rank : Nat) (s : Session) (effects : List Effect) (t : Session) :
    Prop :=
  effects.countP (Effect.isSessionEvent kind) = 0 ∨
    effects.countP (Effect.isSessionEvent kind) = 1 ∧ s.state.rank ≤ rank ∧ rank < t.state.rank

theorem Crosses.none {rank : Nat} (h : ∀ e ∈ effects, e.isSessionEvent kind = false) :
    Crosses kind rank s effects t := by
  refine Or.inl (List.countP_eq_zero.mpr ?_)
  intro e he
  simp [h e he]

/-- What an open session may say: nothing that ends the CONNECT stream, no
end of the session, and the other two events where the state moves. -/
structure Spoken (s : Session) (effects : List Effect) (t : Session) : Prop where
  unended : ∀ e ∈ effects, e.endsOn s.id = false
  unclosed : ∀ e ∈ effects, e.isSessionEvent .sessionClosed = false
  ready : Crosses .sessionReady 0 s effects t
  draining : Crosses .sessionDraining 1 s effects t

theorem Spoken.plain (hends : ∀ e ∈ effects, e.endsOn s.id = false)
    (hevents : ∀ e ∈ effects, ∀ kind ∈ [EventType.sessionReady, .sessionDraining, .sessionClosed],
      e.isSessionEvent kind = false) : Spoken s effects t where
  unended := hends
  unclosed e he := hevents e he _ (by simp)
  ready := .none fun e he => hevents e he _ (by simp)
  draining := .none fun e he => hevents e he _ (by simp)

theorem Spoken.capsule (capsuleType : Nat) (value : Bytes) :
    Spoken s [.sendH3Capsule s.id capsuleType value false] t := by
  refine .plain ?_ ?_ <;> simp [Effect.endsOn, Effect.isSessionEvent]

/-- A session that is over stays over. -/
theorem isOpen_of_forward (h : s.state.rank ≤ t.state.rank) (ht : t.isOpen = true) :
    s.isOpen = true :=
  s.isOpen_iff_rank.mpr (h.trans (t.isOpen_iff_rank.mp ht))

theorem isOpen_of_mayReplenish (h : s.mayReplenish = true) : s.isOpen = true := by
  unfold mayReplenish at h
  unfold isOpen
  split at h <;> simp_all

/-- A move is about other streams, or it is one that an open session makes
and says what such a session may say. -/
theorem Move.voice (h : Move op s effects t) (hs : s.Keyed) (hadds : ∀ k ∈ op.adds, k ≠ s.id) :
    AllApart s.id effects ∨ s.isOpen = true ∧ Spoken s effects t := by
  cases h with
  | calm core quiet => exact Or.inl (.quiet quiet s.id)
  | refuse streamId named refusal =>
    exact Or.inl fun e he => Effect.isApart_of_refuses (refusal e he) (hadds streamId named)
  | notice eventType data established kind =>
    refine Or.inr ⟨isOpen_of_established established, .plain ?_ ?_⟩
    · simp [Effect.endsOn]
    · simpa [Effect.isSessionEvent] using kind
  | grantData encoded negotiated may more | grantStreams uni encoded negotiated may more =>
    exact Or.inr ⟨isOpen_of_mayReplenish may, .capsule _ _⟩
  | dataBlocked core opened full waiting | streamsBlocked core opened early =>
    exact Or.inr ⟨opened, .capsule _ _⟩
  | accepted headers data requestId server waiting core | confirmed data named waiting core =>
    refine Or.inr ⟨isOpen_of_state waiting (by decide), ?_, ?_, Or.inr ⟨?_, ?_, ?_⟩, .none ?_⟩
    · simp [Effect.endsOn]
    · simp [Effect.isSessionEvent]
    · simp [Effect.isSessionEvent]
    · simp [waiting, SessionState.rank]
    · simp [core.state, SessionState.rank]
    · simp [Effect.isSessionEvent]
  | drained capsules established capsule =>
    refine Or.inr ⟨isOpen_of_state established (by decide), ?_, ?_, .none ?_, Or.inr ⟨?_, ?_, ?_⟩⟩
    · rcases capsule with rfl | rfl <;> simp [Effect.endsOn]
    · rcases capsule with rfl | rfl <;> simp [Effect.isSessionEvent]
    · rcases capsule with rfl | rfl <;> simp [Effect.isSessionEvent]
    · rcases capsule with rfl | rfl <;> simp [Effect.isSessionEvent]
    · simp [established, SessionState.rank]
    · simp [SessionState.rank]
  | closed closing => exact Or.inl (List.forall_mem_nil _)
  | @method streamId stream call present plain =>
    refine Or.inl (.own (fun e he => ?_) (hs.apart present))
    rw [← hs.id present]
    exact stream.receive_own e (s.suppress_subset e he)
  | @dropped streamId stream present gone =>
    refine Or.inl fun e he => ?_
    have hclosed := s.suppress_subset e he
    rw [List.mem_singleton.mp hclosed]
    rfl
  | @written streamId stream result present named method =>
    refine Or.inl (.own (fun e he => ?_) (hs.apart present))
    rw [← hs.id present]
    rcases method with rfl | ⟨requestId, data, endStream, rfl⟩
    · exact (stream.silent_completeWrite e he).1
    · exact (stream.silent_write e he).1
  | maxDataRaised limit => exact Or.inl (allApart_maxDataRaised hs)
  | announced established =>
    refine Or.inr ⟨isOpen_of_state established (by decide), .plain ?_ ?_⟩
    · intro e he
      obtain ⟨k, -, rfl⟩ := List.mem_map.mp he
      rfl
    · intro e he kind _
      obtain ⟨k, -, rfl⟩ := List.mem_map.mp he
      rfl
  | cleared gone empty core quiet => exact Or.inl (.quiet quiet s.id)

/-- An effect that is apart is neither an event of the session nor on its
CONNECT stream. -/
theorem isApart_iff :
    e.isApart sessionId = true ↔ e.speaks sessionId = false ∧ e.endsOn sessionId = false := by
  simp [Effect.isApart]

theorem sendsOn_of_speaks (h : e.speaks sessionId = false) : e.sendsOn sessionId = false := by
  unfold Effect.speaks at h
  exact (Bool.or_eq_false_iff.mp h).1

theorem isSessionEvent_of_speaks (h : e.speaks sessionId = false) (kind : EventType) :
    e.isSessionEvent kind = false := by
  cases e <;> simp_all [Effect.speaks, Effect.isSessionEvent]

theorem AllApart.crosses (h : AllApart sessionId effects) (kind : EventType) (rank : Nat)
    (s t : Session) : Crosses kind rank s effects t :=
  .none fun e he => isSessionEvent_of_speaks (isApart_iff.mp (h e he)).1 kind

/-- Only an open session says anything. -/
theorem Move.apart_of_gone (h : Move op s effects t) (hs : s.Keyed)
    (hadds : ∀ k ∈ op.adds, k ≠ s.id) (hgone : s.isOpen = false) : AllApart s.id effects := by
  rcases h.voice hs hadds with hapart | ⟨hopen, -⟩
  · exact hapart
  · rw [hgone] at hopen
    cases hopen

theorem apart_of_gone (h : Chain (Move op) s effects t) (hs : s.Keyed)
    (hadds : ∀ k ∈ op.adds, k ≠ s.id) (hgone : s.isOpen = false) : AllApart s.id effects := by
  induction h with
  | refl s => exact fun e he => nomatch he
  | head move _ ih =>
    have hid := move.forward.1.id
    have hlater := ih (hs.move move) (by rw [hid]; exact hadds) (by rw [move.isOpen_eq, hgone])
    rw [hid] at hlater
    exact (move.apart_of_gone hs hadds hgone).append hlater

/-! ## The history of a session -/

/-- The event of a kind was heard at most once, and not before the state
passed a rank. -/
def Heard (kind : EventType) (rank : Nat) (s : Session) (history : List Effect) : Prop :=
  history.countP (Effect.isSessionEvent kind) ≤ 1 ∧
    (s.state.rank ≤ rank → history.countP (Effect.isSessionEvent kind) = 0)

theorem Heard.step {kind : EventType} {rank : Nat} {s t : Session} {history effects : List Effect}
    (h : Heard kind rank s history) (hstep : Crosses kind rank s effects t)
    (hforward : s.state.rank ≤ t.state.rank) : Heard kind rank t (history ++ effects) := by
  obtain ⟨hle, hbefore⟩ := h
  unfold Heard
  rw [List.countP_append]
  rcases hstep with hnone | ⟨hone, hunder, hpast⟩
  · rw [hnone]
    exact ⟨hle, fun h => hbefore (hforward.trans h)⟩
  · rw [hone, hbefore hunder]
    exact ⟨Nat.le_refl _, fun h => absurd hpast (Nat.not_lt.mpr h)⟩

/-- What was said so far by a session that is now in state `s`. -/
structure Told (s : Session) (history : List Effect) : Prop where
  keyed : s.Keyed
  ready : Heard .sessionReady 0 s history
  draining : Heard .sessionDraining 1 s history
  closed : history.countP (Effect.isSessionEvent .sessionClosed) = if s.isOpen then 0 else 1
  unended : s.isOpen = true → ∀ e ∈ history, e.endsOn s.id = false
  hushed : history.Pairwise fun a b =>
    a.isSessionEvent .sessionClosed = true → b.speaks s.id = false
  finished : history.Pairwise fun a b => a.endsOn s.id = true → b.sendsOn s.id = false

section

variable (h : Told s history)
include h

theorem Told.unclosed (hopen : s.isOpen = true) :
    ∀ e ∈ history, e.isSessionEvent .sessionClosed = false := by
  have hcount := h.closed
  rw [hopen, if_pos rfl, List.countP_eq_zero] at hcount
  exact fun e he => by simpa using hcount e he

/-- Effects about other streams add nothing to what was said. -/
theorem Told.apart (hid : t.id = s.id) (hopen : t.isOpen = s.isOpen)
    (hforward : s.state.rank ≤ t.state.rank) (hkeyed : t.Keyed) (hapart : AllApart s.id effects) :
    Told t (history ++ effects) := by
  have hnew : ∀ e ∈ effects, e.speaks s.id = false ∧ e.endsOn s.id = false :=
    fun e he => isApart_iff.mp (hapart e he)
  have hpairs : ∀ P : Effect → Effect → Prop, (∀ a b, a ∈ effects → P a b) →
      effects.Pairwise P := fun P hP => List.Pairwise.imp_of_mem
        (fun ha _ _ => hP _ _ ha) (List.pairwise_of_forall fun _ _ => trivial)
  refine ⟨hkeyed, h.ready.step (hapart.crosses ..) hforward,
    h.draining.step (hapart.crosses ..) hforward, ?_, ?_, ?_, ?_⟩
  · rw [List.countP_append, hopen, h.closed, Nat.add_eq_left, List.countP_eq_zero]
    intro e he
    simp [isSessionEvent_of_speaks (hnew e he).1]
  · intro hstill e he
    rw [hopen] at hstill
    rw [hid]
    rcases List.mem_append.mp he with he | he
    · exact h.unended hstill e he
    · exact (hnew e he).2
  · rw [hid, List.pairwise_append]
    refine ⟨h.hushed, hpairs _ ?_, fun a _ b hb _ => (hnew b hb).1⟩
    intro a b ha hclosed
    rw [isSessionEvent_of_speaks (hnew a ha).1] at hclosed
    cases hclosed
  · rw [hid, List.pairwise_append]
    refine ⟨h.finished, hpairs _ ?_, fun a _ b hb _ => sendsOn_of_speaks (hnew b hb).1⟩
    intro a b ha hends
    rw [(hnew a ha).2] at hends
    cases hends

/-- What an open session says keeps the history in order. -/
theorem Told.spoken (hs : s.isOpen = true) (hid : t.id = s.id)
    (ht : t.isOpen = true) (hforward : s.state.rank ≤ t.state.rank) (hkeyed : t.Keyed)
    (hspoken : Spoken s effects t) : Told t (history ++ effects) := by
  have hunended : ∀ e ∈ history ++ effects, e.endsOn s.id = false := by
    exact List.forall_mem_append.mpr ⟨h.unended hs, hspoken.unended⟩
  have hunclosed : ∀ e ∈ history ++ effects, e.isSessionEvent .sessionClosed = false := by
    exact List.forall_mem_append.mpr ⟨h.unclosed hs, hspoken.unclosed⟩
  refine ⟨hkeyed, h.ready.step hspoken.ready hforward, h.draining.step hspoken.draining hforward,
    ?_, fun _ => by rwa [hid], ?_, ?_⟩
  · rw [ht, if_pos rfl, List.countP_eq_zero]
    exact fun e he => by simp [hunclosed e he]
  · refine List.Pairwise.imp_of_mem (fun ha _ _ hclosed => ?_)
      (List.pairwise_of_forall fun _ _ => trivial)
    rw [hunclosed _ ha] at hclosed
    cases hclosed
  · refine List.Pairwise.imp_of_mem (fun ha _ _ hends => ?_)
      (List.pairwise_of_forall fun _ _ => trivial)
    rw [hid, hunended _ ha] at hends
    cases hends

theorem Told.move (hmove : Move op s effects t)
    (hadds : ∀ k ∈ op.adds, k ≠ s.id) : Told t (history ++ effects) := by
  obtain ⟨hidentity, hforward⟩ := hmove.forward
  have hkeyed := h.keyed.move hmove
  rcases hmove.voice h.keyed hadds with hapart | ⟨hopen, hspoken⟩
  · exact h.apart hidentity.id hmove.isOpen_eq hforward hkeyed hapart
  · exact h.spoken hopen hidentity.id (hmove.isOpen_eq.trans hopen) hforward hkeyed hspoken

theorem Told.moves (hmoves : Chain (Move op) s effects t)
    (hadds : ∀ k ∈ op.adds, k ≠ s.id) : Told t (history ++ effects) := by
  have hcarried := hmoves.carries (P := fun u told => u.id = s.id ∧ Told u told)
    (fun u _ v _ hmove ⟨hid, htold⟩ =>
      ⟨hmove.forward.1.id.trans hid, htold.move hmove (by rwa [hid])⟩) history ⟨rfl, h⟩
  exact hcarried.2

end

theorem Told.opening {s t : Session} {history effects : List Effect} (h : Told s history)
    (hfirst : Opening op s effects t) (hadds : ∀ k ∈ op.adds, k ≠ s.id) :
    Told t (history ++ effects) := by
  obtain ⟨hidentity, hstate⟩ := hfirst.forward
  have hkeyed := h.keyed.opening hfirst hadds
  have hopen := isOpen_congr hstate
  have hforward : s.state.rank ≤ t.state.rank := by rw [hstate]
  cases hfirst with
  | bound streamId requestId uni now named opened =>
    refine h.spoken opened hidentity.id (hopen.trans opened) hforward hkeyed (.plain ?_ ?_)
    · simp [Effect.endsOn]
    · simp [Effect.isSessionEvent]
  | admitted named opened directed incoming within =>
    refine h.spoken opened hidentity.id (hopen.trans opened) hforward hkeyed (.plain ?_ ?_)
    · split <;> simp [Effect.endsOn]
    · split <;> simp [Effect.isSessionEvent]
  | @turnedAway _ streamId now direction named waiting directed incoming within refusal =>
    refine h.apart hidentity.id hopen hforward hkeyed fun e he => ?_
    exact Effect.isApart_of_refuses (refusal e he)
      (hadds streamId (by simp [named, SessionOp.adds]))

theorem Farewell.not_event (h : Farewell op s last) :
    ∀ e ∈ last, e.isSessionEvent kind = false := by
  cases h with
  | close named hlast =>
    intro e he
    rw [List.mem_singleton.mp he]
    rcases hlast with rfl | ⟨_, _, rfl⟩ <;> rfl
  | _ => simp [Effect.isSessionEvent]

theorem Farewell.pairwise (h : Farewell op s last) (P : Effect → Effect → Prop) :
    last.Pairwise P := by
  cases h <;> simp

/-- The last words of a session: its CONNECT stream ends, its end is
reported, and after that only requests are answered. -/
theorem Told.farewell {answers : List Effect} (h : Told s history) (hs : s.isOpen = true)
    (hid : t.id = s.id) (ht : t.isOpen = false) (hforward : s.state.rank ≤ t.state.rank)
    (hkeyed : t.Keyed) (hlast : Farewell op s last) (data : SessionEventData)
    (hquiet : ∀ e ∈ answers, e.isQuiet = true) :
    Told t (history ++ (last ++ .emitSessionEvent s.id .sessionClosed data :: answers)) := by
  have hanswers : ∀ e ∈ answers, e.speaks s.id = false ∧ e.endsOn s.id = false :=
    fun e he => isApart_iff.mp (Effect.isApart_of_isQuiet (hquiet e he))
  have hevent : ∀ kind ≠ EventType.sessionClosed,
      ∀ e ∈ last ++ .emitSessionEvent s.id .sessionClosed data :: answers,
        e.isSessionEvent kind = false := by
    intro kind hkind e he
    rcases List.mem_append.mp he with he | he
    · exact hlast.not_event e he
    · rcases List.mem_cons.mp he with rfl | he
      · simpa [Effect.isSessionEvent] using Ne.symm hkind
      · exact isSessionEvent_of_speaks (hanswers e he).1 kind
  refine ⟨hkeyed, h.ready.step (.none (hevent _ (by decide))) hforward,
    h.draining.step (.none (hevent _ (by decide))) hforward, ?_, ?_, ?_, ?_⟩
  · have hbefore : (history ++ last).countP (Effect.isSessionEvent .sessionClosed) = 0 := by
      rw [List.countP_eq_zero]
      intro e he
      rcases List.mem_append.mp he with he | he
      · simp [h.unclosed hs e he]
      · simp [hlast.not_event e he]
    have hafter : answers.countP (Effect.isSessionEvent .sessionClosed) = 0 := by
      rw [List.countP_eq_zero]
      intro e he
      simp [isSessionEvent_of_speaks (hanswers e he).1]
    rw [← List.append_assoc, List.countP_append, hbefore, List.countP_cons, hafter, ht]
    rfl
  · intro hopen
    rw [ht] at hopen
    cases hopen
  · rw [hid, ← List.append_assoc, List.pairwise_append, List.pairwise_append, List.pairwise_cons]
    refine ⟨⟨h.hushed, hlast.pairwise _, ?_⟩, ⟨fun e he _ => (hanswers e he).1, ?_⟩, ?_⟩
    · intro a ha _ _ hclosed
      rw [h.unclosed hs a ha] at hclosed
      cases hclosed
    · exact List.Pairwise.imp_of_mem (fun _ hb _ _ => (hanswers _ hb).1)
        (List.pairwise_of_forall fun _ _ => trivial)
    · intro a ha _ _ hclosed
      rcases List.mem_append.mp ha with ha | ha
      · rw [h.unclosed hs a ha] at hclosed
        cases hclosed
      · rw [hlast.not_event a ha] at hclosed
        cases hclosed
  · have hsilent : ∀ b ∈ Effect.emitSessionEvent s.id .sessionClosed data :: answers,
        b.sendsOn s.id = false := by
      intro b hb
      rcases List.mem_cons.mp hb with rfl | hb
      · rfl
      · exact sendsOn_of_speaks (hanswers b hb).1
    rw [hid, List.pairwise_append, List.pairwise_append]
    refine ⟨h.finished, ⟨hlast.pairwise _, ?_, fun a _ b hb _ => hsilent b hb⟩, ?_⟩
    · exact List.Pairwise.imp_of_mem (fun _ hb _ _ => hsilent _ hb)
        (List.pairwise_of_forall fun _ _ => trivial)
    · intro a ha _ _ hends
      rw [h.unended hs a ha] at hends
      cases hends

theorem Told.ending (h : Told s history) (hending : Ending op s effects t)
    (hadds : ∀ k ∈ op.adds, k ≠ s.id) : Told t (history ++ effects) := by
  have hkeyed := h.keyed.ending hending
  obtain @⟨_, torn, _, _, closeCode, closeReason, closedAt, state, data, opened, gone, moves,
    farewell, quiet⟩ := hending
  have hgone : (s.marked closeCode closeReason closedAt state).isOpen = false := by
    rcases gone with rfl | rfl <;> rfl
  have htorn := apart_of_gone moves h.keyed.marked hadds hgone
  have hbefore : Told s (history ++ torn) := h.apart rfl rfl (Nat.le_refl _) h.keyed htorn
  have hid : t.id = s.id :=
    moves.keeps (P := fun u => u.id = s.id) (fun _ _ _ hmove hu => hmove.forward.1.id.trans hu) rfl
  have hafter : t.isOpen = false := (isOpen_of_moves moves).trans hgone
  have hforward : s.state.rank ≤ t.state.rank := by
    have hbelow := s.isOpen_iff_rank.mp opened
    have habove : ¬t.state.rank ≤ 2 := by
      rw [← t.isOpen_iff_rank, hafter]
      exact Bool.false_ne_true
    omega
  rw [← List.append_assoc]
  exact hbefore.farewell opened hid hafter hforward hkeyed farewell data quiet

/-- A session that is closed may still have its CONNECT stream reset. -/
theorem Told.late (h : Told s history) (hgone : s.state = .closed) {errorCode : ErrorCode} :
    Told s (history ++ [.resetQuicStream s.id errorCode]) := by
  have hclosed : s.isOpen = false := by
    unfold isOpen
    rw [hgone]
  have hnone : ∀ kind, ∀ e ∈ [Effect.resetQuicStream s.id errorCode],
      e.isSessionEvent kind = false := by simp [Effect.isSessionEvent]
  refine ⟨h.keyed, h.ready.step (.none (hnone _)) (Nat.le_refl _),
    h.draining.step (.none (hnone _)) (Nat.le_refl _), ?_, ?_, ?_, ?_⟩
  · rw [List.countP_append, h.closed]
    rfl
  · intro hopen
    rw [hclosed] at hopen
    cases hopen
  · rw [List.pairwise_append]
    refine ⟨h.hushed, List.pairwise_singleton _ _, ?_⟩
    intro a _ b hb _
    rw [List.mem_singleton.mp hb]
    rfl
  · rw [List.pairwise_append]
    refine ⟨h.finished, List.pairwise_singleton _ _, ?_⟩
    intro a _ b hb _
    rw [List.mem_singleton.mp hb]
    rfl

theorem Told.outcome (h : Told s history) (houtcome : Outcome op s effects t)
    (hadds : ∀ k ∈ op.adds, k ≠ s.id) : Told t (history ++ effects) := by
  cases houtcome with
  | course course =>
    cases course with
    | stays moves => exact h.moves moves hadds
    | @ends mid _ before after moves ending =>
      have hid : mid.id = s.id := moves.keeps (P := fun u => u.id = s.id)
        (fun _ _ _ hmove hu => hmove.forward.1.id.trans hu) rfl
      rw [← List.append_assoc]
      exact (h.moves moves hadds).ending ending (by rwa [hid])
  | late gone => exact h.late gone
  | @opening mid _ before after first moves =>
    rw [← List.append_assoc]
    exact (h.opening first hadds).moves moves (by rwa [first.forward.1.id])

end Session

/-! ## Whole runs -/

namespace Life

/-- The callers never hand the CONNECT stream to the session as one of its
streams. -/
def KeepsApart (w : Life) (op : SessionOp) : Prop := ∀ k ∈ op.adds, k ≠ w.session.id

instance (w : Life) (op : SessionOp) : Decidable (w.KeepsApart op) :=
  inferInstanceAs (Decidable (∀ k ∈ op.adds, k ≠ w.session.id))

/-- What holds of a session along a run: its history is in order, and when it
is over it holds nothing. -/
structure Chronicle (sessionId : SessionId) (w : Life) : Prop where
  id : w.session.id = sessionId
  settled : w.session.Settled
  told : w.session.Told w.trace

theorem Chronicle.step {sessionId : SessionId} {w : Life} (h : Chronicle sessionId w)
    {op : SessionOp} (hop : w.KeepsApart op) : Chronicle sessionId (w.step op) where
  id := (Session.evolves_exec w.session op).constants.id.trans h.id
  settled := (Session.evolves_exec w.session op).settled h.settled
  told := h.told.outcome (Session.exec_outcome w.session h.settled op) hop

theorem chronicle_start {id : SessionId} {path : String} {headers : Headers}
    (protocols : Option (List String)) {client : Bool} {parameters : SessionParameters}
    {createdAt : Timestamp} :
    Chronicle id (start (Session.new id path headers protocols client parameters createdAt)) where
  id := rfl
  settled := Session.Settled.of_open rfl
  told :=
    { keyed := Session.keyed_new protocols
      ready := ⟨Nat.zero_le _, fun _ => rfl⟩
      draining := ⟨Nat.zero_le _, fun _ => rfl⟩
      closed := rfl
      unended := fun _ _ he => nomatch he
      hushed := List.Pairwise.nil
      finished := List.Pairwise.nil }

/-- A call reports the end of the session exactly if the session was open
before and is not afterwards. -/
theorem Chronicle.closed_of_step {sessionId : SessionId} {w : Life} (h : Chronicle sessionId w)
    {op : SessionOp} (hop : w.KeepsApart op) :
    (w.session.exec op).2.countP (Effect.isSessionEvent .sessionClosed) =
      if w.session.isOpen && !(w.step op).session.isOpen then 1 else 0 := by
  have hbefore := h.told.closed
  have hafter := (h.step hop).told.closed
  have hback : (w.step op).session.isOpen = true → w.session.isOpen = true :=
    Session.isOpen_of_forward (Session.evolves_exec w.session op).rank
  have htrace : (w.step op).trace = w.trace ++ (w.session.exec op).2 := rfl
  rw [htrace, List.countP_append, hbefore] at hafter
  cases hold : w.session.isOpen <;> cases hnew : (w.step op).session.isOpen <;>
    simp_all

/-- The life of a session in every run: the state only moves forward, each
of the three events comes at most once, `SessionClosed` comes with exactly
the call that leaves the open states, nothing is said after it, and nothing
is sent on the CONNECT stream once an effect finished or reset it. -/
theorem lifecycle_trace (id : SessionId) (path : String) (headers : Headers)
    (protocols : Option (List String)) (client : Bool) (parameters : SessionParameters)
    (createdAt : Timestamp) (w : Life) (hrun : Relation.ReflTransGen (Step KeepsApart)
      (start (Session.new id path headers protocols client parameters createdAt)) w) :
    (∀ op, w.KeepsApart op →
      w.session.state.rank ≤ (w.step op).session.state.rank ∧
      (w.session.exec op).2.countP (Effect.isSessionEvent .sessionClosed) =
        if w.session.isOpen && !(w.step op).session.isOpen then 1 else 0) ∧
    (∀ kind ∈ [EventType.sessionReady, .sessionDraining, .sessionClosed],
      w.trace.countP (Effect.isSessionEvent kind) ≤ 1) ∧
    (w.trace.Pairwise fun a b =>
      a.isSessionEvent .sessionClosed = true → b.speaks id = false) ∧
    (w.trace.Pairwise fun a b => a.endsOn id = true → b.sendsOn id = false) := by
  have h : Chronicle id w := run_invariant (fun _ _ hw hop => hw.step hop)
    (chronicle_start protocols) hrun
  refine ⟨?_, ?_, ?_, ?_⟩
  · intro op hop
    exact ⟨(Session.evolves_exec w.session op).rank, h.closed_of_step hop⟩
  · have hclosed : w.trace.countP (Effect.isSessionEvent .sessionClosed) ≤ 1 := by
      rw [h.told.closed]
      split <;> decide
    simpa using ⟨h.told.ready.1, h.told.draining.1, hclosed⟩
  · exact h.id ▸ h.told.hushed
  · exact h.id ▸ h.told.finished

def acceptedAndClosed : Life :=
  ((start (Session.new 0 "/" [] none false SessionRun.sampleParameters 0)).step
    (.accept 7 [] none 1)).step (.close 8 0 none 2)

theorem acceptedAndClosed_run : Relation.ReflTransGen (Step KeepsApart)
    (start (Session.new 0 "/" [] none false SessionRun.sampleParameters 0)) acceptedAndClosed :=
  (Relation.ReflTransGen.single ⟨.accept 7 [] none 1, by decide, rfl⟩).tail
    ⟨.close 8 0 none 2, by decide, rfl⟩

theorem lifecycle_trace_acceptedAndClosed :
    (acceptedAndClosed.trace.Pairwise fun a b => a.endsOn 0 = true → b.sendsOn 0 = false) ∧
      acceptedAndClosed.trace.countP (Effect.isSessionEvent .sessionClosed) = 1 ∧
      acceptedAndClosed.trace.any (Effect.endsOn 0) = true :=
  ⟨(lifecycle_trace 0 "/" [] none false SessionRun.sampleParameters 0 _
    acceptedAndClosed_run).2.2.2, by decide, by decide⟩

end Life

end PyWebTransport

/-
PyWebTransport.Protocol.Session.RequestRuns — every request of a session is
in exactly one place, in every run.

`SessionRun` is a session with the history its callers can see: the
requests submitted, the stream creations not answered yet, the stream ids
used, and all effects. One step is one call of the connection, and
`SessionRun.Allows` says what the callers promise: request ids and stream
ids are not used twice, a stream creation is answered at most once, and a
stream is acknowledged only when it has no write in flight.

The invariant is one equation per request, and each step keeps it because
each operation is balanced. Exactly one place then follows from a sum of
natural numbers that is one.
-/
import PyWebTransport.Protocol.Session.OperationsAccounting
import Mathlib.Logic.Relation

namespace PyWebTransport

open PyWebTransport.Lib

/-- A session and its history. -/
structure SessionRun where
  session : Session
  submitted : List RequestId
  exporting : List RequestId
  unanswered : List (RequestId × Bool)
  used : List StreamId
  trace : List Effect

theorem SessionOp.nodup_adds (op : SessionOp) : op.adds.Nodup := by
  cases op <;> simp [SessionOp.adds]

namespace SessionRun

variable {w : SessionRun} {r : RequestId} {op : SessionOp} {requestId : RequestId}
  {w' : SessionRun}

def start (session : Session) : SessionRun where
  session := session
  submitted := []
  exporting := []
  unanswered := []
  used := []
  trace := []

/-- What the callers of a session promise for one call. -/
structure Allows (w : SessionRun) (op : SessionOp) : Prop where
  fresh : ∀ r ∈ op.submits.toList ++ op.exports.toList, r ∉ w.submitted ∧ r ∉ w.exporting
  answered : ∀ creation ∈ op.answers, creation ∈ w.unanswered
  newStream : ∀ k ∈ op.adds, k ∉ w.used
  acknowledged : ∀ streamId stream, op = .handleStreamDataAcknowledged streamId →
    w.session.streams.get? streamId = some stream → stream.pendingWriteRequest = none

def step (w : SessionRun) (op : SessionOp) : SessionRun where
  session := (w.session.exec op).1
  submitted := op.submits.toList ++ w.submitted
  exporting := op.exports.toList ++ w.exporting
  unanswered := op.answers.elim w.unanswered w.unanswered.erase ++ created (w.session.exec op).2
  used := op.adds ++ w.used
  trace := w.trace ++ (w.session.exec op).2

/-- One call the callers may make. -/
def Step (w w' : SessionRun) : Prop := ∃ op, w.Allows op ∧ w' = w.step op

/-! ## The invariant -/

/-- Every request the session was given, apart from those the TLS layer
answers, is counted once among the completed, the unanswered and the
waiting ones. -/
structure Accounted (w : SessionRun) : Prop where
  wf : w.session.StreamsWF
  settled : w.session.Settled
  keys : ∀ k, k ∉ w.used → w.session.streams.get? k = none
  pendingStreams : w.session.pendingStreams.Nodup
  pendingUsed : ∀ k ∈ w.session.pendingStreams, k ∈ w.used
  distinct : w.submitted.Nodup
  apart : ∀ r ∈ w.submitted, r ∉ w.exporting
  balance : ∀ r, r ∉ w.exporting →
    (completed w.trace).count r + (w.unanswered.map Prod.fst).count r + w.session.waiting.count r =
      w.submitted.count r

theorem accounted_start {id : SessionId} {path : String} {headers : Headers}
    (protocols : Option (List String)) {client : Bool} {parameters : SessionParameters}
    {createdAt : Timestamp} :
    (start (Session.new id path headers protocols client parameters createdAt)).Accounted where
  wf k stream hk := by cases hk
  settled := Session.Settled.of_open rfl
  keys _ _ := rfl
  pendingStreams := List.nodup_nil
  pendingUsed k hk := by cases hk
  distinct := List.nodup_nil
  apart r hr := by cases hr
  balance _ _ := rfl

/-- A request that was never submitted waits nowhere. -/
theorem Accounted.not_mem_waiting (h : w.Accounted) (hs : r ∉ w.submitted) (he : r ∉ w.exporting) :
    r ∉ w.session.waiting := by
  have hbalance := h.balance r he
  rw [List.count_eq_zero.mpr hs] at hbalance
  exact List.count_eq_zero.mp (by omega)

theorem Accounted.fits (h : w.Accounted) (ha : w.Allows op) : op.Fits w.session := by
  cases op with
  | bindStream streamId requestId uni now | handleStreamOpened streamId now =>
    exact h.keys streamId (ha.newStream streamId (by simp [SessionOp.adds]))
  | writeStream streamId requestId data endStream =>
    obtain ⟨hs, he⟩ := ha.fresh requestId (by simp [SessionOp.submits])
    exact h.not_mem_waiting hs he
  | handleStreamDataAcknowledged streamId =>
    exact fun stream hget => ha.acknowledged streamId stream rfl hget
  | _ => trivial

/-- The answered creation leaves the list of unanswered ones, the new ones join it. -/
theorem count_unanswered_step (ha : w.Allows op) (r : RequestId) :
    ((w.step op).unanswered.map Prod.fst).count r + ((op.answers.map Prod.fst).toList).count r =
      (w.unanswered.map Prod.fst).count r +
        ((created (w.session.exec op).2).map Prod.fst).count r := by
  have hanswered := ha.answered
  cases hop : op.answers with
  | none => simp [step, hop]
  | some creation =>
    rw [hop] at hanswered
    have hperm := ((List.perm_cons_erase (hanswered creation rfl)).map Prod.fst).count_eq r
    simp only [List.map_cons, List.count_cons] at hperm
    simp only [step, hop, Option.elim_some, List.map_append, List.count_append, Option.map_some,
      Option.toList_some, List.count_cons, List.count_nil]
    omega

/-- The export of keying material leaves the session alone, and speaks of no
request but its own. -/
theorem exec_exports {s : Session} (h : op.exports = some requestId) :
    (s.exec op).1 = s ∧ created (s.exec op).2 = [] ∧ op.submits = none ∧ op.answers = none ∧
      op.adds = [] ∧ ∀ r, r ≠ requestId → (completed (s.exec op).2).count r = 0 := by
  cases op with
  | exportKeyingMaterial id label context length =>
    cases h
    refine ⟨rfl, ?_, rfl, rfl, rfl, fun r hr => ?_⟩ <;>
      simp only [Session.exec, Session.exportKeyingMaterial]
    · split
      · rfl
      · split <;> rfl
    · rw [List.count_eq_zero]
      intro hin
      split at hin
      · exact hr (by simpa [completed, Effect.completes, Session.failState] using hin)
      · split at hin
        · exact hr (by simpa [completed, Effect.completes, Session.failRequest] using hin)
        · simp [completed, Effect.completes] at hin
  | _ => cases h

theorem accounted_step_exports (h : w.Accounted) (ha : w.Allows op)
    (hexports : op.exports = some requestId) : (w.step op).Accounted := by
  obtain ⟨hsession, hcreated, hsubmits, hanswers, hadds, hcompleted⟩ :=
    exec_exports (s := w.session) hexports
  have hfresh := ha.fresh requestId (by simp [hexports])
  have hstep : w.step op =
      { w with
        exporting := requestId :: w.exporting
        trace := w.trace ++ (w.session.exec op).2 } := by
    simp [step, hsession, hcreated, hsubmits, hanswers, hadds, hexports]
  rw [hstep]
  refine ⟨h.wf, h.settled, h.keys, h.pendingStreams, h.pendingUsed, h.distinct,
    fun r hr hin => ?_, fun r hr => ?_⟩
  · rcases List.mem_cons.mp hin with rfl | hin
    · exact hfresh.1 hr
    · exact h.apart r hr hin
  · simp only [List.mem_cons, not_or] at hr
    have hbalance := h.balance r hr.2
    have hzero := hcompleted r hr.1
    simp only [completed_append, List.count_append]
    omega

theorem accounted_step_plain (h : w.Accounted) (ha : w.Allows op) (hexports : op.exports = none) :
    (w.step op).Accounted := by
  have hb := Session.balanced_exec h.wf (h.fits ha) hexports
  have hexporting : (w.step op).exporting = w.exporting := by simp [step, hexports]
  have hsubmits : ∀ r ∈ op.submits.toList, r ∉ w.submitted ∧ r ∉ w.exporting :=
    fun r hr => ha.fresh r (List.mem_append_left _ hr)
  have he := w.session.evolves_exec op
  refine ⟨hb.wf, he.settled h.settled, ?_, ?_, ?_, ?_, ?_, ?_⟩
  · intro k hk
    simp only [step, List.mem_append, not_or] at hk
    exact hb.keys k (h.keys k hk.2) hk.1
  · refine he.pending.nodup (List.Nodup.append h.pendingStreams op.nodup_adds ?_)
    intro k hk hadds
    exact ha.newStream k hadds (h.pendingUsed k hk)
  · intro k hk
    simp only [step, List.mem_append]
    exact (List.mem_append.mp (he.pending.subset hk)).symm.imp_right (h.pendingUsed k)
  · cases hs : op.submits with
    | none => simpa [step, hs] using h.distinct
    | some r => simpa [step, hs] using ⟨(hsubmits r (by simp [hs])).1, h.distinct⟩
  · intro r hr
    rw [hexporting]
    rcases List.mem_append.mp hr with hr | hr
    · exact (hsubmits r hr).2
    · exact h.apart r hr
  · intro r hr
    rw [hexporting] at hr
    have hcount := hb.count r
    have hunanswered := count_unanswered_step ha r
    have hbalance := h.balance r hr
    have hsubjects := count_subjects r (w.session.exec op).2
    simp only [SessionOp.given, List.count_append] at hcount
    have hsubmitted : (w.step op).submitted.count r =
        op.submits.toList.count r + w.submitted.count r := List.count_append
    have htrace : (completed (w.step op).trace).count r =
        (completed w.trace).count r + (completed (w.session.exec op).2).count r := by
      simp [step]
    have hsession : (w.step op).session = (w.session.exec op).1 := rfl
    rw [hsession, htrace, hsubmitted]
    omega

theorem accounted_step (h : w.Accounted) (hstep : Step w w') : w'.Accounted := by
  obtain ⟨op, ha, rfl⟩ := hstep
  cases hexports : op.exports with
  | none => exact accounted_step_plain h ha hexports
  | some requestId => exact accounted_step_exports h ha hexports

theorem accounted_of_run (h : w.Accounted) (hrun : Relation.ReflTransGen Step w w') :
    w'.Accounted := by
  induction hrun with
  | refl => exact h
  | tail _ hstep ih => exact accounted_step ih hstep

/-! ## Exactly one place -/

/-- The places a request can be in. A write sent in part is in flight and at
the front of the buffer of one stream, and that is one place. -/
inductive Place where
  | completed
  | blockedStreamRequests ( isUnidirectional : Bool)
  | unansweredCreation
  | pendingDatagramRequests
  | pendingReads (streamId : StreamId)
  | pendingWrites (streamId : StreamId)
deriving DecidableEq

/-- How often a request occurs in a place. -/
def occurrences (w : SessionRun) (r : RequestId) : Place → Nat
  | .completed => (PyWebTransport.completed w.trace).count r
  | .blockedStreamRequests uni => (w.session.blockedStreamRequests uni).count r
  | .unansweredCreation => (w.unanswered.map Prod.fst).count r
  | .pendingDatagramRequests => w.session.pendingDatagramRequests.count r
  | .pendingReads streamId =>
    ((w.session.streams.get? streamId).elim [] Stream.readIds).count r
  | .pendingWrites streamId =>
    ((w.session.streams.get? streamId).elim [] Stream.writeIds).count r

/-- The request is in this place once and in no other. -/
def OnlyIn (w : SessionRun) (r : RequestId) (place : Place) : Prop :=
  w.occurrences r place = 1 ∧ ∀ other, other ≠ place → w.occurrences r other = 0

/-- Where else a request can be, bounded by the sum of the invariant. -/
theorem occurrences_stream_le (w : SessionRun) (r : RequestId) (streamId : StreamId) :
    w.occurrences r (.pendingReads streamId) + w.occurrences r (.pendingWrites streamId) ≤
      (Session.streamsWaiting w.session.streams).count r := by
  cases hget : w.session.streams.get? streamId with
  | none => simp [occurrences, hget]
  | some stream =>
    have hle := w.session.streams.count_le Stream.waiting hget r
    simp only [Stream.waiting, List.count_append] at hle
    simp only [occurrences, hget, Option.elim_some, Session.streamsWaiting]
    exact hle

section

variable (hsum : (completed w.trace).count r + (w.unanswered.map Prod.fst).count r + w.session.waiting.count r = 1)
include hsum

/-- A place outside the streams that holds the one occurrence is the only one. -/
theorem onlyIn_outside (hstreams : (Session.streamsWaiting w.session.streams).count r = 0) :
    ∃ place, w.OnlyIn r place := by
  rw [Session.count_waiting] at hsum
  have hstream : ∀ k, w.occurrences r (.pendingReads k) = 0 ∧
      w.occurrences r (.pendingWrites k) = 0 := by
    intro k
    have := w.occurrences_stream_le r k
    omega
  have hplace : w.occurrences r .completed = 1 ∨ w.occurrences r .unansweredCreation = 1 ∨
      w.occurrences r (.blockedStreamRequests false) = 1 ∨
      w.occurrences r (.blockedStreamRequests true) = 1 ∨
      w.occurrences r .pendingDatagramRequests = 1 := by
    simp only [occurrences, Session.blockedStreamRequests, if_true, Bool.false_eq_true, if_false]
    omega
  rcases hplace with h | h | h | h | h
  all_goals
    refine ⟨_, h, fun other hne => ?_⟩
    cases other with
    | pendingReads k => exact (hstream k).1
    | pendingWrites k => exact (hstream k).2
    | blockedStreamRequests uni =>
      cases uni <;>
        simp only [occurrences, Session.blockedStreamRequests, if_true, Bool.false_eq_true,
          if_false, ne_eq, not_true_eq_false] at h hne ⊢ <;> omega
    | _ =>
      simp only [occurrences, Session.blockedStreamRequests, if_true, Bool.false_eq_true,
        if_false, ne_eq, not_true_eq_false] at h hne ⊢ <;> omega

/-- A request that one stream holds is in that stream's reads or in its
writes, and nowhere else. -/
theorem onlyIn_stream (hstreams : (Session.streamsWaiting w.session.streams).count r = 1) :
    ∃ place, w.OnlyIn r place := by
  rw [Session.count_waiting] at hsum
  obtain ⟨k, stream, hget, hone, hothers⟩ :=
    w.session.streams.exists_of_count_eq_one Stream.waiting hstreams
  have hother : ∀ j, j ≠ k → w.occurrences r (.pendingReads j) = 0 ∧
      w.occurrences r (.pendingWrites j) = 0 := by
    intro j hj
    cases hj' : w.session.streams.get? j with
    | none => simp [occurrences, hj']
    | some stream' =>
      have hzero := hothers j stream' hj hj'
      simp only [Stream.waiting, List.count_append] at hzero
      simp only [occurrences, hj', Option.elim_some]
      omega
  have hsplit : w.occurrences r (.pendingReads k) + w.occurrences r (.pendingWrites k) = 1 := by
    simp only [occurrences, hget, Option.elim_some]
    simpa [Stream.waiting] using hone
  have houtside : w.occurrences r .completed = 0 ∧ w.occurrences r .unansweredCreation = 0 ∧
      (∀ uni, w.occurrences r (.blockedStreamRequests uni) = 0) ∧
      w.occurrences r .pendingDatagramRequests = 0 := by
    refine ⟨?_, ?_, fun uni => ?_, ?_⟩
    · simp only [occurrences]; omega
    · simp only [occurrences]; omega
    · cases uni <;> simp only [occurrences, Session.blockedStreamRequests, if_true,
        Bool.false_eq_true, if_false] <;> omega
    · simp only [occurrences]; omega
  obtain ⟨hcompleted, hunanswered, hblocked, hdatagrams⟩ := houtside
  have hrest : ∀ other, other ≠ .pendingReads k → other ≠ .pendingWrites k →
      w.occurrences r other = 0 := by
    intro other hreads hwrites
    cases other with
    | completed => exact hcompleted
    | unansweredCreation => exact hunanswered
    | blockedStreamRequests => exact hblocked ..
    | pendingDatagramRequests => exact hdatagrams
    | pendingReads j => exact (hother j (fun h => hreads (by rw [h]))).1
    | pendingWrites j => exact (hother j (fun h => hwrites (by rw [h]))).2
  by_cases hreads : w.occurrences r (.pendingReads k) = 1
  · refine ⟨.pendingReads k, hreads, fun other hne => ?_⟩
    by_cases hw : other = .pendingWrites k
    · subst hw; omega
    · exact hrest other hne hw
  · refine ⟨.pendingWrites k, by omega, fun other hne => ?_⟩
    by_cases hr : other = .pendingReads k
    · subst hr; omega
    · exact hrest other hr hne

end

theorem Accounted.exists_onlyIn (h : w.Accounted) (hr : r ∈ w.submitted) :
    ∃ place, w.OnlyIn r place := by
  have hsum := h.balance r (h.apart r hr)
  rw [List.count_eq_one_of_mem h.distinct hr] at hsum
  have hwaiting := Session.count_waiting w.session r
  by_cases hstreams : (Session.streamsWaiting w.session.streams).count r = 0
  · exact onlyIn_outside hsum hstreams
  · exact onlyIn_stream hsum (by omega)

/-- Once the session is over, a request is completed or waits for the reactor. -/
theorem Accounted.over (h : w.Accounted) (hover : w.session.isOpen = false) (hr : r ∈ w.submitted) :
    w.OnlyIn r .completed ∨ w.OnlyIn r .unansweredCreation := by
  have hempty := h.settled hover
  obtain ⟨place, hplace⟩ := h.exists_onlyIn hr
  have hone := hplace.1
  cases place with
  | completed => exact Or.inl hplace
  | unansweredCreation => exact Or.inr hplace
  | blockedStreamRequests uni =>
    cases uni <;> simp [occurrences, Session.blockedStreamRequests, hempty.bidi, hempty.uni]
      at hone
  | pendingDatagramRequests => simp [occurrences, hempty.datagrams] at hone
  | pendingReads k | pendingWrites k => simp [occurrences, hempty.streams] at hone

/-- In every run of a session each submitted request is in exactly one
place. Once the session is closing or closed, no stream is left, every queue
is empty, and only an unanswered stream creation still waits. -/
theorem requests_in_one_place (id : SessionId) (path : String) (headers : Headers)
    (protocols : Option (List String)) (client : Bool) (parameters : SessionParameters)
    (createdAt : Timestamp) (w : SessionRun) (hrun : Relation.ReflTransGen Step
      (start (Session.new id path headers protocols client parameters createdAt)) w) :
    (∀ r ∈ w.submitted, ∃ place, w.OnlyIn r place) ∧
    (w.session.state = .closing ∨ w.session.state = .closed →
      w.session.Emptied ∧
      ∀ r ∈ w.submitted, w.OnlyIn r .completed ∨ w.OnlyIn r .unansweredCreation) := by
  have h := accounted_of_run
    (accounted_start protocols) hrun
  refine ⟨fun r hr => h.exists_onlyIn hr, fun hover => ?_⟩
  have hclosed : w.session.isOpen = false := by
    rcases hover with hstate | hstate <;> simp [Session.isOpen, hstate]
  exact ⟨h.settled hclosed, fun r hr => h.over hclosed hr⟩

/-- The parameters of a session without flow control. -/
def sampleParameters : SessionParameters where
  flowControlNegotiated := false
  initialMaxData := 0
  initialMaxStreamsBidi := 0
  initialMaxStreamsUni := 0
  maxPendingCapsules := 8
  maxPendingDatagrams := 8
  maxPendingStreams := 8
  maxWriteBufferSize := 64
  peerMaxData := 0
  peerMaxStreamsBidi := 0
  peerMaxStreamsUni := 0
  receiveWindow := 64

def sampleStart : SessionRun :=
  start (Session.new 0 "/" [] none true sampleParameters 0)

theorem sample_run : Relation.ReflTransGen Step sampleStart
    (((sampleStart.step (.createStream 7 true)).step (.readDatagram 8)).step
      (.close 9 0 none 1)) := by
  refine ((Relation.ReflTransGen.single ⟨.createStream 7 true, ?_, rfl⟩).tail
    ⟨.readDatagram 8, ?_, rfl⟩).tail ⟨.close 9 0 none 1, ?_, rfl⟩
  all_goals
    refine ⟨?_, ?_, ?_, ?_⟩
    · decide
    · intro creation h
      cases h
    · intro k h
      cases h
    · intro streamId stream h
      cases h

theorem requests_in_one_place_sample :
    (∀ r ∈ [9, 8, 7], ∃ place, (((sampleStart.step (.createStream 7 true)).step
        (.readDatagram 8)).step (.close 9 0 none 1)).OnlyIn r place) ∧
      (((sampleStart.step (.createStream 7 true)).step (.readDatagram 8)).step
        (.close 9 0 none 1)).session.state = .closing :=
  ⟨(requests_in_one_place 0 "/" [] none true sampleParameters 0 _ sample_run).1, rfl⟩

end SessionRun

end PyWebTransport

/-
PyWebTransport.Protocol.Session.StreamLimits — the limits on streams that a
session advertises to its peer.

Every limit is above those advertised before, in every run. Whether it is a
legal one is another matter: `replenish_streams_credit` adds the streams that
are closed to the initial limit and only looks at the range of a varint, so a
session that starts at the legal maximum leaves it with the first stream that
closes. It stays legal while the streams the peer has opened fit between the
initial limit and the maximum.
-/
import PyWebTransport.Protocol.Session.Signals

namespace PyWebTransport

open PyWebTransport.Lib

/-- How many streams of this direction a call may count as opened. -/
def SessionOp.opens (uni : Bool) : SessionOp → Nat
  | .handleStreamOpened streamId _ => if isUnidirectionalStream streamId = uni then 1 else 0
  | _ => 0

namespace Session

variable {op : SessionOp} {s t : Session} {effects : List Effect}

/-! ## Streams that are counted as opened -/

theorem SameCore.peerStreamsOpened (h : SameCore s t) (uni : Bool) :
    t.peerStreamsOpened uni = s.peerStreamsOpened uni := by
  unfold Session.peerStreamsOpened
  rw [h.peerStreamsBidiOpened, h.peerStreamsUniOpened]

theorem Move.peerStreamsOpened_eq (h : Move op s effects t) {uni : Bool} :
    t.peerStreamsOpened uni = s.peerStreamsOpened uni := by
  cases h with
  | calm core => exact core.peerStreamsOpened uni
  | grantStreams other => cases other <;> rfl
  | dataBlocked core | streamsBlocked core | accepted headers data requestId server waiting core
  | confirmed data named waiting core => exact core.peerStreamsOpened uni
  | @dropped streamId =>
    obtain ⟨_, _, hshape⟩ := s.dropped_shape
    rw [hshape]
    rfl
  | @written streamId stream result =>
    obtain ⟨_, _, hshape⟩ := s.written_shape result
    rw [hshape]
    rfl
  | maxDataRaised limit =>
    obtain ⟨_, _, _, _, hshape⟩ := s.maxDataRaised_shape
    rw [hshape]
    rfl
  | cleared gone empty core => exact core.peerStreamsOpened uni
  | _ => rfl

theorem peerStreamsOpened_set (s : Session) (other uni : Bool) :
    (s.setPeerStreamsOpened other (s.peerStreamsOpened other + 1)).peerStreamsOpened uni =
      s.peerStreamsOpened uni + if other = uni then 1 else 0 := by
  cases other <;> cases uni <;> rfl

theorem Opening.peerStreamsOpened_le (h : Opening op s effects t) (hop : s.Numbers op)
    (uni : Bool) : t.peerStreamsOpened uni ≤ s.peerStreamsOpened uni + op.opens uni := by
  cases h with
  | bound => exact Nat.le_add_right _ _
  | @admitted streamId now direction named opened directed =>
    subst named
    have hset := s.peerStreamsOpened_set (decide (direction = .receiveOnly)) uni
    rw [direction_of_peer hop directed] at hset
    refine Nat.le_of_eq (Eq.trans ?_ hset)
    unfold Session.admitted
    rw [direction_of_peer hop directed]
    rfl
  | @turnedAway _ streamId now direction named waiting directed =>
    subst named
    have hset := s.peerStreamsOpened_set (decide (direction = .receiveOnly)) uni
    rw [direction_of_peer hop directed] at hset
    refine Nat.le_of_eq (Eq.trans ?_ hset)
    unfold Session.turnedAway
    rw [direction_of_peer hop directed]
    cases isUnidirectionalStream streamId <;> rfl

theorem Outcome.peerStreamsOpened_le (h : Outcome op s effects t) (hop : s.Numbers op)
    (uni : Bool) : t.peerStreamsOpened uni ≤ s.peerStreamsOpened uni + op.opens uni :=
  h.keeps (P := fun u => u.peerStreamsOpened uni ≤ s.peerStreamsOpened uni + op.opens uni)
    (fun _ _ _ hmove hu => hmove.peerStreamsOpened_eq.trans_le hu)
    (fun _ _ hfirst => hfirst.peerStreamsOpened_le hop uni)
    (fun _ _ _ _ _ hu => hu) (Nat.le_add_right _ _)

end Session

/-! ## Whole runs -/

namespace Life

open Session

/-- With this call the peer has opened no more streams of either direction
than fit between the initial limit and the largest one that is legal. -/
structure Affordable (w : Life) (op : SessionOp) : Prop where
  numbered : w.GivesNumbered op
  fits : ∀ uni, w.session.peerStreamsOpened uni + op.opens uni +
    w.session.initialMaxStreams uni ≤ wtStreamsLimit

/-- The streams the peer has opened fit, and the meters are sound. -/
structure Afforded (limited : Bool) (w : Life) : Prop where
  counted : w.Counted limited
  fits : ∀ uni, w.session.peerStreamsOpened uni + w.session.initialMaxStreams uni ≤ wtStreamsLimit

theorem Afforded.step {limited : Bool} {w : Life} (h : w.Afforded limited) {op : SessionOp}
    (hop : w.Affordable op) : (w.step op).Afforded limited := by
  refine ⟨h.counted.step hop.numbered, fun uni => ?_⟩
  have hinitial : (w.step op).session.initialMaxStreams uni = w.session.initialMaxStreams uni := by
    have hconstants := (evolves_exec w.session op).constants
    unfold Session.initialMaxStreams Life.step
    rw [hconstants.initialMaxStreamsBidi, hconstants.initialMaxStreamsUni]
  have hopened := (exec_outcome w.session h.counted.settled op).peerStreamsOpened_le
    hop.numbered.numbers uni
  rw [hinitial]
  exact (Nat.add_le_add_right hopened _).trans (hop.fits uni)

/-- What is advertised stays within the streams that fit. -/
theorem Afforded.localMaxStreams_le {limited : Bool} {w : Life} (h : w.Afforded limited)
    (uni : Bool) : w.session.localMaxStreams uni ≤ wtStreamsLimit := by
  have hsound := h.counted.metered uni
  calc w.session.localMaxStreams uni
      ≤ w.session.peerStreamsClosed uni + w.session.initialMaxStreams uni := hsound.bounded
    _ ≤ w.session.peerStreamsOpened uni + w.session.initialMaxStreams uni :=
        Nat.add_le_add_right hsound.closed_le _
    _ ≤ wtStreamsLimit := h.fits uni

/-- The limits in the MAX_STREAMS capsules of a direction that were sent so
far. -/
def Advertised (w : Life) (uni : Bool) (limits : List Nat) : Prop :=
  List.Forall₂ Encodes limits (capsuleValues
    (if uni then wtCapsuleTypeMaxStreamsUni else wtCapsuleTypeMaxStreamsBidi) w.trace)

/-- In every run of a session the limits that it advertises rise, from the
initial limit on; and while the streams that its peer has opened fit, every
one of them is legal. -/
theorem advertised_limits_legal (id : SessionId) (path : String) (headers : Headers)
    (protocols : Option (List String)) (client : Bool) (parameters : SessionParameters)
    (createdAt : Timestamp) (hbidi : parameters.initialMaxStreamsBidi ≤ wtStreamsLimit)
    (huni : parameters.initialMaxStreamsUni ≤ wtStreamsLimit) :
    (∀ w, Relation.ReflTransGen (Step fun _ _ => True)
        (start (Session.new id path headers protocols client parameters createdAt)) w →
      ∀ uni, ∃ limits, w.Advertised uni limits ∧
        ((Session.new id path headers protocols client parameters createdAt).initialMaxStreams
          uni :: limits).Pairwise (· < ·)) ∧
    (∀ w, Relation.ReflTransGen (Step Affordable)
        (start (Session.new id path headers protocols client parameters createdAt)) w →
      ∀ uni, ∃ limits, w.Advertised uni limits ∧
        ((Session.new id path headers protocols client parameters createdAt).initialMaxStreams
          uni :: limits).Pairwise (· < ·) ∧
        ∀ limit ∈ limits, limit ≤ wtStreamsLimit) := by
  -- in any run the limits climb from the initial one to the one that stands
  have hclimb : ∀ {ok : Life → SessionOp → Prop} {w : Life}, Relation.ReflTransGen (Step ok)
      (start (Session.new id path headers protocols client parameters createdAt)) w →
      ∀ uni, ∃ limits, w.Advertised uni limits ∧
        ((Session.new id path headers protocols client parameters createdAt).initialMaxStreams
          uni :: limits).Pairwise (· < ·) ∧
        ∀ limit ∈ limits, limit ≤ w.session.localMaxStreams uni := by
    intro ok w hrun uni
    obtain ⟨limits, hlimits, hclimbs⟩ :=
      reports_run sound_maxStreams (Session.Settled.of_open rfl) hrun
    refine ⟨limits, hlimits, List.pairwise_cons.mpr ⟨fun limit hlimit => ?_, hclimbs.sorted⟩,
      fun limit hlimit => WithBot.coe_le_coe.mp (hclimbs.below limit hlimit)⟩
    exact WithBot.coe_lt_coe.mp (hclimbs.above limit hlimit)
  refine ⟨fun w hrun uni => ?_, fun w hrun uni => ?_⟩
  · obtain ⟨limits, hlimits, hsorted, -⟩ := hclimb hrun uni
    exact ⟨limits, hlimits, hsorted⟩
  · obtain ⟨limits, hlimits, hsorted, hbelow⟩ := hclimb hrun uni
    have hafforded : w.Afforded parameters.flowControlNegotiated := by
      refine run_invariant (fun _ _ hw hop => hw.step hop) ⟨?_, fun uni => ?_⟩ hrun
      · exact counted_start id path headers protocols client parameters createdAt
      · rw [start, Session.peerStreamsOpened]
        cases uni
        · exact (Nat.zero_add _).trans_le hbidi
        · exact (Nat.zero_add _).trans_le huni
    exact ⟨limits, hlimits, hsorted,
      fun limit hlimit => (hbelow limit hlimit).trans (hafforded.localMaxStreams_le uni)⟩

/-- A server that lets its client open this many unidirectional streams. -/
def uniServer (initial : Nat) : Session :=
  Session.new 0 "/" [] none false { SessionRun.sampleParameters with
    flowControlNegotiated := true, initialMaxStreamsUni := initial } 0

/-- Its client opens a stream, resets it, and asks for more. -/
def regranted (initial : Nat) : Life :=
  ((((start (uniServer initial)).step (.accept 7 [] none 1)).step
    (.handleStreamOpened 2 2)).step (.recvStreamReset 2 0)).step
      (.recvCapsule wtCapsuleTypeStreamsBlockedUni [1] 3)

theorem advertised_limits_legal_regranted :
    capsuleValues wtCapsuleTypeMaxStreamsUni (regranted 1).trace = [[2]] ∧
      ∃ limits, (regranted 1).Advertised true limits ∧
        ∀ limit ∈ limits, limit ≤ wtStreamsLimit := by
  have hrun : Relation.ReflTransGen (Step Affordable) (start (uniServer 1)) (regranted 1) := by
    refine (((Relation.ReflTransGen.single ⟨.accept 7 [] none 1, ?_, rfl⟩).tail
      ⟨.handleStreamOpened 2 2, ?_, rfl⟩).tail ⟨.recvStreamReset 2 0, ?_, rfl⟩).tail
        ⟨.recvCapsule wtCapsuleTypeStreamsBlockedUni [1] 3, ?_, rfl⟩
    all_goals exact ⟨⟨by decide +kernel, by first | trivial | rfl⟩, by decide +kernel⟩
  obtain ⟨limits, hlimits, -, hlegal⟩ := (advertised_limits_legal 0 "/" [] none false
    { SessionRun.sampleParameters with flowControlNegotiated := true, initialMaxStreamsUni := 1 }
    0 (by decide) (by decide)).2 (regranted 1) hrun true
  exact ⟨by decide +kernel, limits, hlimits, hlegal⟩

/-- A server that starts at the largest legal limit advertises one that is
not, as soon as a stream is over and its client asks. -/
theorem advertised_limit_illegal :
    (uniServer wtStreamsLimit).initialMaxStreamsUni ≤ wtStreamsLimit ∧
    Relation.ReflTransGen (Step GivesNumbered) (start (uniServer wtStreamsLimit))
      (regranted wtStreamsLimit) ∧
    (regranted wtStreamsLimit).Advertised true [wtStreamsLimit + 1] := by
  refine ⟨by decide, ?_, ?_⟩
  · refine (((Relation.ReflTransGen.single ⟨.accept 7 [] none 1, ?_, rfl⟩).tail
      ⟨.handleStreamOpened 2 2, ?_, rfl⟩).tail ⟨.recvStreamReset 2 0, ?_, rfl⟩).tail
        ⟨.recvCapsule wtCapsuleTypeStreamsBlockedUni [1] 3, ?_, rfl⟩
    all_goals exact ⟨by decide +kernel, by first | trivial | rfl⟩
  · have hvalues : capsuleValues wtCapsuleTypeMaxStreamsUni (regranted wtStreamsLimit).trace =
        [[208, 0, 0, 0, 0, 0, 0, 1]] := by decide +kernel
    unfold Advertised
    rw [if_pos rfl, hvalues]
    exact .cons (by unfold Encodes; decide +kernel) .nil

end Life

end PyWebTransport

/-
PyWebTransport.Protocol.Session.Signals — the limits a session reports.

A session advertises its own limits on streams in MAX_STREAMS capsules, and
in DATA_BLOCKED and STREAMS_BLOCKED capsules it reports the limits of its
peer that hold it up. Each kind of capsule has a mark in the session: a limit
is reported only if it is above the mark, which then rises to it. A move
leaves the marks alone or reports one limit (`Signalled`), so in every run
the limits that were reported climb with their marks (`reports_run`).
-/
import PyWebTransport.Lib.Climb
import PyWebTransport.Protocol.Session.PeerStreams

namespace PyWebTransport

open PyWebTransport.Lib

variable {effects : List Effect}

variable {first second : List Effect}

/-! ## Capsules among effects -/

namespace Effect

variable {e : Effect} {streamId : StreamId}

/-- The value of a capsule of this type. -/
def capsuleValue? (capsuleType : Nat) : Effect → Option Bytes
  | .sendH3Capsule _ kind value _ => if kind = capsuleType then some value else none
  | _ => none

/-- The capsules that report a limit below which something waits. -/
def isSignal : Effect → Bool
  | .sendH3Capsule _ kind _ _ =>
    [wtCapsuleTypeMaxStreamsBidi, wtCapsuleTypeMaxStreamsUni, wtCapsuleTypeDataBlocked,
      wtCapsuleTypeStreamsBlockedBidi, wtCapsuleTypeStreamsBlockedUni].contains kind
  | _ => false

theorem not_isSignal_of_isQuiet (h : e.isQuiet = true) : e.isSignal = false := by
  cases e <;> first | rfl | cases h

theorem not_isSignal_of_isOwn (h : e.isOwn streamId = true) : e.isSignal = false := by
  cases e <;> first | rfl | cases h

theorem not_isSignal_of_refuses (h : e.refuses streamId = true) : e.isSignal = false := by
  cases e <;> first | rfl | cases h

end Effect

/-- The values of the capsules of this type, in the order they are sent. -/
def capsuleValues (capsuleType : Nat) (effects : List Effect) : List Bytes :=
  effects.filterMap (Effect.capsuleValue? capsuleType)

@[simp] theorem capsuleValues_append {capsuleType : Nat} :
    capsuleValues capsuleType (first ++ second) =
      capsuleValues capsuleType first ++ capsuleValues capsuleType second :=
  List.filterMap_append

/-- A value that carries this limit. -/
def Encodes (limit : Nat) (value : Bytes) : Prop := writeVarint limit = .ok value

/-- No limit is reported. -/
def Unsignalled (effects : List Effect) : Prop := ∀ e ∈ effects, e.isSignal = false

theorem Unsignalled.append (h₁ : Unsignalled first) (h₂ : Unsignalled second) :
    Unsignalled (first ++ second) := by
  exact List.forall_mem_append.mpr ⟨h₁, h₂⟩

theorem Unsignalled.cons {e : Effect} {effects : List Effect} (he : e.isSignal = false)
    (h : Unsignalled effects) : Unsignalled (e :: effects) :=
  List.forall_mem_cons.mpr ⟨he, h⟩

theorem Unsignalled.quiet (h : ∀ e ∈ effects, e.isQuiet = true) : Unsignalled effects :=
  fun e he => Effect.not_isSignal_of_isQuiet (h e he)

theorem Unsignalled.own {streamId : StreamId} (h : ∀ e ∈ effects, e.isOwn streamId = true) :
    Unsignalled effects :=
  fun e he => Effect.not_isSignal_of_isOwn (h e he)

theorem Unsignalled.suppressed (h : Unsignalled effects) (s : Session) (streamId : StreamId) :
    Unsignalled (s.suppressPendingStreamEvents streamId effects) :=
  fun e he => h e (s.suppress_subset e he)

namespace Session

variable {op : SessionOp} {s t u : Session} {effects : List Effect} {last : List Effect}
  {capsuleType : Nat}

variable {uni : Bool}

/-! ## Moves that report a limit -/

/-- What a move within the call `op` means for the limits that are reported. -/
inductive Signalled (op : SessionOp) : Session → List Effect → Session → Prop where
  | unsignalled {s t : Session} {effects : List Effect} (silent : Unsignalled effects)
      (marks : KeepsMarks s t) (limits : ∀ uni, t.localMaxStreams uni = s.localMaxStreams uni) :
      Signalled op s effects t
  | maxStreams {s : Session} {value : Bytes} (uni : Bool) (limit : Nat)
      (encoded : Encodes limit value) (more : s.localMaxStreams uni < limit) :
      Signalled op s [.sendH3Capsule s.id
          (if uni then wtCapsuleTypeMaxStreamsUni else wtCapsuleTypeMaxStreamsBidi) value false]
        (s.setLocalMaxStreams uni limit)
  | dataBlocked {s t : Session} {value : Bytes}
      (asked : op.writesTo ≠ none ∨ op.takesCapsules = true)
      (encoded : Encodes s.peerMaxData value)
      (fresh : s.dataMark < s.peerMaxData) (reported : t.dataMark = s.peerMaxData)
      (kept : ∀ uni, s.streamsMark uni ≤ t.streamsMark uni)
      (limits : ∀ uni, t.localMaxStreams uni = s.localMaxStreams uni) :
      Signalled op s [.sendH3Capsule s.id wtCapsuleTypeDataBlocked value false] t
  | streamsBlocked {s t : Session} {value : Bytes} (uni : Bool)
      (asked : op.asksForStreams = true ∨ op.takesCapsules = true)
      (encoded : Encodes (s.peerMaxStreams uni) value)
      (fresh : s.streamsMark uni < s.peerMaxStreams uni)
      (reported : t.streamsMark uni = s.peerMaxStreams uni) (kept : KeepsMarks s t)
      (limits : ∀ uni, t.localMaxStreams uni = s.localMaxStreams uni) :
      Signalled op s [.sendH3Capsule s.id
        (if uni then wtCapsuleTypeStreamsBlockedUni else wtCapsuleTypeStreamsBlockedBidi) value
        false] t

/-- A change that leaves marks and limits alone and reports nothing. -/
theorem Signalled.plain (silent : Unsignalled effects)
    (hdata : t.lastDataBlockedSent = s.lastDataBlockedSent)
    (hbidi : t.lastStreamsBlockedBidiSent = s.lastStreamsBlockedBidiSent)
    (huni : t.lastStreamsBlockedUniSent = s.lastStreamsBlockedUniSent)
    (hlimitBidi : t.localMaxStreamsBidi = s.localMaxStreamsBidi)
    (hlimitUni : t.localMaxStreamsUni = s.localMaxStreamsUni) : Signalled op s effects t := by
  refine .unsignalled silent (.of_eq hdata hbidi huni) fun uni => ?_
  unfold localMaxStreams
  rw [hlimitBidi, hlimitUni]

theorem SameCore.localMaxStreams (h : SameCore s t) (uni : Bool) :
    t.localMaxStreams uni = s.localMaxStreams uni := by
  unfold Session.localMaxStreams
  rw [h.localMaxStreamsBidi, h.localMaxStreamsUni]

theorem unsignalled_rounds (h : Chain Round s effects t) : Unsignalled effects := by
  induction h with
  | refl s => exact fun e he => nomatch he
  | head round _ ih =>
    refine Unsignalled.append ?_ ih
    cases round with
    | putBack | stale => exact fun e he => nomatch he
    | flush queue credit present =>
      rw [effects_flushBlockedStream]
      exact .own fun e he => (Stream.silent_flushWrites _ _ e he).1

theorem Move.signalled (h : Move op s effects t) : Signalled op s effects t := by
  cases h with
  | calm core quiet marks => exact .unsignalled (.quiet quiet) marks core.localMaxStreams
  | refuse streamId named refusal =>
    exact .plain (fun e he => Effect.not_isSignal_of_refuses (refusal e he)) rfl rfl rfl rfl rfl
  | notice => exact .plain (by simp [Unsignalled, Effect.isSignal]) rfl rfl rfl rfl rfl
  | grantData =>
    refine .plain (fun e he => ?_) rfl rfl rfl rfl rfl
    rw [List.mem_singleton.mp he]
    rfl
  | grantStreams uni encoded negotiated may more => exact .maxStreams uni _ encoded more
  | dataBlocked core opened full waiting asked encoded fresh reported kept =>
    exact .dataBlocked asked encoded fresh reported kept core.localMaxStreams
  | streamsBlocked core opened early asked encoded fresh reported kept =>
    exact .streamsBlocked _ asked encoded fresh reported kept core.localMaxStreams
  | accepted headers data requestId server waiting core marks
  | confirmed data named waiting core marks =>
    refine .unsignalled ?_ marks fun uni => core.localMaxStreams uni
    simp [Unsignalled, Effect.isSignal]
  | drained capsules established capsule =>
    refine .plain ?_ rfl rfl rfl rfl rfl
    rcases capsule with rfl | rfl
    · simp [Unsignalled, Effect.isSignal]
    · intro e he
      rcases List.mem_cons.mp he with rfl | he
      · rfl
      · rw [List.mem_singleton.mp he]
        rfl
  | closed => exact .plain (fun e he => nomatch he) rfl rfl rfl rfl rfl
  | @method streamId stream call present plain =>
    exact .plain ((Unsignalled.own stream.receive_own).suppressed s streamId) rfl rfl rfl
      rfl rfl
  | @dropped streamId stream present gone =>
    obtain ⟨_, _, hshape⟩ := s.dropped_shape
    rw [hshape]
    refine .plain (Unsignalled.suppressed ?_ s streamId) rfl rfl rfl rfl rfl
    simp [Unsignalled, Effect.isSignal]
  | @written streamId stream result present named method =>
    obtain ⟨_, _, hshape⟩ := s.written_shape result
    rw [hshape]
    refine .plain ?_ rfl rfl rfl rfl rfl
    rcases method with rfl | ⟨requestId, data, endStream, rfl⟩
    · exact .own fun e he => (stream.silent_completeWrite e he).1
    · exact .own fun e he => (stream.silent_write e he).1
  | maxDataRaised limit =>
    have hsilent := unsignalled_rounds (s.rounds_maxDataRaised limit)
    obtain ⟨_, _, _, _, hshape⟩ := s.maxDataRaised_shape
    rw [hshape]
    exact .plain hsilent rfl rfl rfl rfl rfl
  | announced =>
    refine .plain (fun e he => ?_) rfl rfl rfl rfl rfl
    obtain ⟨k, -, rfl⟩ := List.mem_map.mp he
    rfl
  | cleared gone empty core quiet marks =>
    exact .unsignalled (.quiet quiet) marks fun uni => core.localMaxStreams uni

theorem Opening.signalled (h : Opening op s effects t) : Signalled op s effects t := by
  cases h with
  | bound => exact .plain (by simp [Unsignalled, Effect.isSignal]) rfl rfl rfl rfl rfl
  | @admitted streamId now direction =>
    obtain ⟨_, _, hshape⟩ := s.admitted_shape
    rw [hshape]
    refine .plain ?_ rfl rfl rfl rfl rfl
    split <;> simp [Unsignalled, Effect.isSignal]
  | @turnedAway _ streamId now direction named waiting directed incoming within refusal =>
    obtain ⟨_, _, _, _, hshape⟩ := s.turnedAway_shape
    rw [hshape]
    exact .plain (fun e he => Effect.not_isSignal_of_refuses (refusal e he)) rfl rfl rfl rfl rfl

theorem Farewell.unsignalled (h : Farewell op s last) : Unsignalled last := by
  cases h with
  | silent => exact fun e he => nomatch he
  | reset | finish => simp [Unsignalled, Effect.isSignal]
  | close named last =>
    intro e he
    rw [List.mem_singleton.mp he]
    rcases last with rfl | ⟨_, rfl⟩ <;> rfl
  | reject => simp [Unsignalled, Effect.isSignal]

/-! ## Calls that report nothing -/

theorem capsuleValues_of_unsignalled (hsignal : ∀ sessionId value fin,
      (Effect.sendH3Capsule sessionId capsuleType value fin).isSignal = true)
    (h : Unsignalled effects) : capsuleValues capsuleType effects = [] := by
  refine List.filterMap_eq_nil_iff.mpr fun e he => ?_
  cases e with
  | sendH3Capsule sessionId kind value fin =>
    refine if_neg ?_
    rintro rfl
    have hno := h _ he
    rw [hsignal] at hno
    cases hno
  | _ => rfl

theorem Farewell.unsignalled_all {answers : List Effect} {data : SessionEventData}
    (h : Farewell op s last) (hquiet : ∀ e ∈ answers, e.isQuiet = true) :
    Unsignalled (last ++ .emitSessionEvent s.id .sessionClosed data :: answers) :=
  h.unsignalled.append (.cons rfl (.quiet hquiet))

/-- Capsules that no move of a call sends are not sent by the call. -/
theorem Outcome.absent (hsignal : ∀ sessionId value fin,
      (Effect.sendH3Capsule sessionId capsuleType value fin).isSignal = true)
    (hsignalled : ∀ {s effects t}, Signalled op s effects t →
      capsuleValues capsuleType effects = []) (h : Outcome op s effects t) : capsuleValues capsuleType effects = [] := by
  refine h.carries (P := fun _ history => capsuleValues capsuleType history = []) [] ?_ ?_ ?_ ?_ ?_
    rfl
  · intro u effects v history hmove hhistory
    rw [capsuleValues_append, hhistory, hsignalled hmove.signalled]
    rfl
  · exact fun _ _ hfirst => hsignalled hfirst.signalled
  · exact fun _ _ _ _ _ _ _ _ hhistory => hhistory
  · intro u last data answers v history hfarewell hquiet hhistory
    rw [capsuleValues_append, hhistory,
      capsuleValues_of_unsignalled hsignal (hfarewell.unsignalled_all hquiet)]
    rfl
  · exact capsuleValues_of_unsignalled hsignal (by simp [Unsignalled, Effect.isSignal])

theorem Outcome.absent_dataBlocked (h : Outcome op s effects t) (hwrites : op.writesTo = none)
    (htakes : op.takesCapsules = false) : capsuleValues wtCapsuleTypeDataBlocked effects = [] := by
  refine h.absent (fun _ _ _ => rfl) fun hsignalled => ?_
  cases hsignalled with
  | unsignalled silent => exact capsuleValues_of_unsignalled (fun _ _ _ => rfl) silent
  | maxStreams uni => cases uni <;> rfl
  | dataBlocked asked => simp [hwrites, htakes] at asked
  | streamsBlocked uni => cases uni <;> rfl

theorem Outcome.absent_streamsBlocked (uni : Bool) (h : Outcome op s effects t)
    (hasks : op.asksForStreams = false) (htakes : op.takesCapsules = false) :
    capsuleValues (if uni then wtCapsuleTypeStreamsBlockedUni else wtCapsuleTypeStreamsBlockedBidi)
      effects = [] := by
  refine h.absent (fun _ _ _ => by cases uni <;> rfl) fun hsignalled => ?_
  cases hsignalled with
  | unsignalled silent =>
    exact capsuleValues_of_unsignalled (fun _ _ _ => by cases uni <;> rfl) silent
  | maxStreams other => cases uni <;> cases other <;> rfl
  | dataBlocked => cases uni <;> rfl
  | streamsBlocked other asked => simp [hasks, htakes] at asked

/-! ## Limits that climb with their mark -/

/-- A kind of capsule that reports limits, and the mark they rise above. -/
structure Signal where
  capsuleType : Nat
  mark : Session → WithBot Nat

namespace Signal

def maxStreams (uni : Bool) : Signal where
  capsuleType := if uni then wtCapsuleTypeMaxStreamsUni else wtCapsuleTypeMaxStreamsBidi
  mark s := (s.localMaxStreams uni : WithBot Nat)

def dataBlocked : Signal where
  capsuleType := wtCapsuleTypeDataBlocked
  mark := dataMark

def streamsBlocked (uni : Bool) : Signal where
  capsuleType := if uni then wtCapsuleTypeStreamsBlockedUni else wtCapsuleTypeStreamsBlockedBidi
  mark s := s.streamsMark uni

/-- The limits that were reported from `s` to `t` climb with the mark. -/
def Reports (signal : Signal) (s : Session) (effects : List Effect) (t : Session) : Prop :=
  ∃ limits, List.Forall₂ Encodes limits (capsuleValues signal.capsuleType effects) ∧
    Climbs (signal.mark s) limits (signal.mark t)

variable {signal : Signal}

/-- No capsule of this kind is sent. -/
theorem Reports.silent (hnone : capsuleValues signal.capsuleType effects = [])
    (hmark : signal.mark s ≤ signal.mark t) : signal.Reports s effects t :=
  ⟨[], by rw [hnone]; exact .nil, .silent hmark⟩

theorem Reports.one {limit : Nat} {value : Bytes}
    (hvalue : capsuleValues signal.capsuleType effects = [value]) (hencoded : Encodes limit value)
    (hfresh : signal.mark s < limit) (hmark : signal.mark t = limit) :
    signal.Reports s effects t := by
  refine ⟨[limit], ?_, ?_⟩
  · rw [hvalue]
    exact .cons hencoded .nil
  · rw [hmark]
    exact .report hfresh

theorem Reports.trans (h₁ : signal.Reports s first t) (h₂ : signal.Reports t second u) :
    signal.Reports s (first ++ second) u := by
  obtain ⟨earlier, hearlier, hclimb₁⟩ := h₁
  obtain ⟨later, hlater, hclimb₂⟩ := h₂
  refine ⟨earlier ++ later, ?_, hclimb₁.append hclimb₂⟩
  rw [capsuleValues_append]
  exact List.rel_append hearlier hlater

end Signal

/-- Moves that report a limit of this kind report it above the mark, and the
others let the mark stand. -/
structure Signal.Sound (signal : Signal) : Prop where
  signalled : ∀ {op s effects t}, Signalled op s effects t → signal.Reports s effects t
  isSignal : ∀ sessionId value fin,
    (Effect.sendH3Capsule sessionId signal.capsuleType value fin).isSignal = true
  marked : ∀ s closeCode closeReason closedAt state,
    signal.mark (s.marked closeCode closeReason closedAt state) = signal.mark s

theorem Signal.Sound.outcome {signal : Signal} (h : signal.Sound)
    (houtcome : Outcome op s effects t) : signal.Reports s effects t := by
  have hsilent : ∀ {u history later}, signal.Reports s history u → Unsignalled later →
      signal.Reports s (history ++ later) u := fun hhistory hlater =>
    hhistory.trans (.silent (capsuleValues_of_unsignalled h.isSignal hlater) (le_refl _))
  refine houtcome.carries (P := fun u history => signal.Reports s history u) [] ?_ ?_ ?_ ?_ ?_
    (.silent rfl (le_refl _))
  · exact fun _ _ _ _ hmove hhistory => hhistory.trans (h.signalled hmove.signalled)
  · exact fun _ _ hfirst => h.signalled hfirst.signalled
  · intro u closeCode closeReason closedAt state history _ _ hhistory
    obtain ⟨limits, hlimits, hclimb⟩ := hhistory
    refine ⟨limits, hlimits, ?_⟩
    rw [h.marked]
    exact hclimb
  · intro u last data answers v history hfarewell hquiet hhistory
    exact hsilent hhistory (hfarewell.unsignalled_all hquiet)
  · exact hsilent (.silent rfl (le_refl _)) (by simp [Unsignalled, Effect.isSignal])

theorem mark_maxStreams_eq (h : ∀ uni, t.localMaxStreams uni = s.localMaxStreams uni) :
    (Signal.maxStreams uni).mark s ≤ (Signal.maxStreams uni).mark t :=
  le_of_eq (congrArg ((↑) : Nat → WithBot Nat) (h uni).symm)

theorem sound_maxStreams : (Signal.maxStreams uni).Sound where
  isSignal _ _ _ := by cases uni <;> rfl
  marked _ _ _ _ _ := rfl
  signalled h := by
    cases h with
    | unsignalled silent marks limits =>
      refine .silent (capsuleValues_of_unsignalled (fun _ _ _ => ?_) silent)
        (mark_maxStreams_eq limits)
      cases uni <;> rfl
    | maxStreams other limit encoded more =>
      by_cases hother : other = uni
      · subst hother
        refine .one ?_ encoded (WithBot.coe_lt_coe.mpr more) ?_ <;> cases other <;> rfl
      · -- the limit of the other direction
        refine .silent ?_ (le_of_eq ?_) <;> cases other <;> cases uni <;>
          first | rfl | exact absurd rfl hother
    | dataBlocked asked encoded fresh reported kept limits =>
      refine .silent ?_ (mark_maxStreams_eq limits)
      cases uni <;> rfl
    | streamsBlocked other asked encoded fresh reported kept limits =>
      refine .silent ?_ (mark_maxStreams_eq limits)
      cases uni <;> cases other <;> rfl

theorem sound_dataBlocked : Signal.dataBlocked.Sound where
  isSignal _ _ _ := rfl
  marked _ _ _ _ _ := rfl
  signalled h := by
    cases h with
    | unsignalled silent marks =>
      exact .silent (capsuleValues_of_unsignalled (fun _ _ _ => rfl) silent) marks.data
    | maxStreams other limit =>
      refine .silent ?_ (le_of_eq ?_) <;> cases other <;> rfl
    | dataBlocked asked encoded fresh reported => exact .one rfl encoded fresh reported
    | streamsBlocked other asked encoded fresh reported kept =>
      refine .silent ?_ kept.data
      cases other <;> rfl

theorem sound_streamsBlocked : (Signal.streamsBlocked uni).Sound where
  isSignal _ _ _ := by cases uni <;> rfl
  marked _ _ _ _ _ := by cases uni <;> rfl
  signalled h := by
    cases h with
    | unsignalled silent marks =>
      refine .silent (capsuleValues_of_unsignalled (fun _ _ _ => ?_) silent) (marks.streams uni)
      cases uni <;> rfl
    | maxStreams other limit =>
      refine .silent ?_ (le_of_eq ?_) <;> cases uni <;> cases other <;> rfl
    | dataBlocked asked encoded fresh reported kept =>
      refine .silent ?_ (kept uni)
      cases uni <;> rfl
    | streamsBlocked other asked encoded fresh reported kept =>
      by_cases hother : other = uni
      · subst hother
        refine .one ?_ encoded fresh reported
        cases other <;> rfl
      · refine .silent ?_ (kept.streams uni)
        cases other <;> cases uni <;> first | rfl | exact absurd rfl hother

end Session

/-! ## Whole runs -/

namespace Life

open Session

/-- In every run the limits that a session reports climb with their mark. -/
theorem reports_run {signal : Signal} (hsound : signal.Sound) {ok : Life → SessionOp → Prop}
    {session : Session} (hs : session.Settled) {w : Life}
    (hrun : Relation.ReflTransGen (Step ok) (start session) w) :
    signal.Reports session w.trace w.session := by
  have h : w.session.Settled ∧ signal.Reports session w.trace w.session := by
    refine run_invariant (P := fun w => w.session.Settled ∧
      signal.Reports session w.trace w.session) ?_ ⟨hs, .silent rfl (le_refl _)⟩ hrun
    rintro w op ⟨hsettled, hreports⟩ -
    exact ⟨(evolves_exec w.session op).settled hsettled,
      hreports.trans (hsound.outcome (exec_outcome w.session hsettled op))⟩
  exact h.2

end Life

end PyWebTransport

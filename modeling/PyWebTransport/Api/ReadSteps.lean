/-
PyWebTransport.Api.ReadSteps — where the bytes of a stream are while it is
read.

At any moment the bytes the core has delivered are in one of four places:
returned to the caller, handed out with an `IncompleteReadError`, taken by
the call in progress, or still on the stream. `content` lists them in this
order. `step_shift` says what one action can do to the list: keep it, add
what the core delivers at the end, push the end of a chunk back behind other
bytes of the buffer (`readuntil`), or drop what the call had taken (a call
that is interrupted). The last two are the defects of the code: `Tidy` and
`Spares` say, by the state and the action, when nothing comes of them.

The argument goes from the inside out: `Reads` is what one `read` can come
to, `Call.Fed` what the calling loop does with a chunk, `Shift` what follows
for the whole.
-/
import PyWebTransport.Api.ReceiveStream
import Mathlib.Tactic.Common

namespace PyWebTransport.Api

/-! ## What is on the stream -/

namespace ReceiveStream

/-- The data of a task that has its outcome and was not taken yet. -/
def arrived (s : ReceiveStream) : Bytes :=
  match s.readTask with
  | none => []
  | some task => (task.outcome.map Outcome.bytes).getD []

/-- What later calls can still read, without another request. -/
def unread (s : ReceiveStream) : Bytes := s.buffer ++ s.arrived

end ReceiveStream

/-- The front of the bytes a `read` finds, and what it leaves of them. -/
def cut (maxSize : Int) (source : Bytes) : Bytes :=
  if maxSize < 0 then source else source.take maxSize.toNat

def uncut (maxSize : Int) (source : Bytes) : Bytes :=
  if maxSize < 0 then [] else source.drop maxSize.toNat

theorem cut_append_uncut (maxSize : Int) (source : Bytes) :
    cut maxSize source ++ uncut maxSize source = source := by
  unfold cut uncut
  split
  · exact List.append_nil source
  · exact List.take_append_drop _ _

theorem cut_ne_nil {maxSize : Int} (h : maxSize ≠ 0) {source : Bytes} (hne : source ≠ []) :
    cut maxSize source ≠ [] := by
  unfold cut
  split
  · exact hne
  · intro hnil
    rcases List.take_eq_nil_iff.mp hnil with hzero | hsource
    · omega
    · exact hne hsource

/-- How far a `read` gets that finds `source` in front of it: in the buffer,
or as the outcome it waited for. `broken` is the case in which it raises. -/
inductive Reads (s : ReceiveStream) (maxSize : Int) (source : Bytes) (broken : Prop) :
    Pass → ReceiveStream → Prop
  | chunk {s' : ReceiveStream} (found : source ≠ []) (split : s.unread = source ++ s'.arrived)
      (rest : s'.buffer = uncut maxSize source) (more : s.eof = false) (eof : s'.eof = s.eof) :
      Reads s maxSize source broken (.returned (cut maxSize source)) s'
  | ended {s' : ReceiveStream} (none_left : s.unread = []) (buffer : s'.buffer = [])
      (task : s'.readTask = none) (atEnd : s'.eof = true) :
      Reads s maxSize source broken (.returned []) s'
  | waits {s' : ReceiveStream} {id : Nat} (same : s'.unread = s.unread) (buffer : s'.buffer = [])
      (more : s.eof = false) (eof : s'.eof = s.eof)
      (task : ∃ task, s'.readTask = some task ∧ task.id = id) :
      Reads s maxSize source broken (.awaiting id) s'
  | probes (size : maxSize = 0) (more : s.eof = false) :
      Reads s maxSize source broken .probing s
  | fails {s' : ReceiveStream} {error : ReadError} (same : s'.unread = s.unread)
      (more : s.eof = false) (eof : s'.eof = s.eof) (why : broken) (nothing : source = [])
      (kind : error = .resolveFailed ∨ error = .receiveFailed ∨ ∃ e, error = .core e) :
      Reads s maxSize source broken (.raised error) s'

namespace ReceiveStream

variable {s : ReceiveStream}

/-- The stream is closed, and a `read` would need a new request. -/
def Closed (s : ReceiveStream) (maxSize : Int) : Prop :=
  s.buffer = [] ∧ s.eof = false ∧ s.isClosed = true ∧ (s.readTask = none ∨ maxSize = 0)

/-- The request in flight has failed. -/
def Failed (s : ReceiveStream) : Prop :=
  ∃ task error, s.readTask = some task ∧ task.outcome = some (.failed error)

theorem reads_request (hbuffer : s.buffer = []) (heof : s.eof = false) {maxSize : Int}
    (htask : s.readTask = none ∨ maxSize = 0) :
    Reads s maxSize s.buffer (s.Closed maxSize) (s.request maxSize).1 (s.request maxSize).2 := by
  unfold request
  split
  · rename_i hclosed
    exact .fails rfl heof rfl ⟨hbuffer, heof, hclosed, htask⟩ hbuffer (.inl rfl)
  · split
    · rename_i hzero
      exact .probes hzero heof
    · rename_i hzero
      have htask : s.readTask = none := htask.resolve_right hzero
      refine .waits ?_ hbuffer heof rfl ⟨_, rfl, rfl⟩
      simp [unread, arrived, htask]

/-- A turn of the loop, from a stream that holds nothing behind its end. -/
theorem reads_pass (hend : s.eof = true → s.unread = [] ∧ s.readTask = none) (maxSize : Int) :
    Reads s maxSize s.buffer (s.Closed maxSize) (s.pass maxSize).1 (s.pass maxSize).2 := by
  unfold pass
  split
  · rename_i hbuffer
    have heof : s.eof = false := by
      cases heof : s.eof with
      | false => rfl
      | true => exact absurd (List.append_eq_nil_iff.mp (hend heof).1).1 hbuffer
    have hchunk : ∀ s' : ReceiveStream, s' = { s with buffer := uncut maxSize s.buffer } →
        Reads s maxSize s.buffer (s.Closed maxSize) (.returned (cut maxSize s.buffer)) s' := by
      rintro s' rfl
      exact .chunk hbuffer rfl rfl heof rfl
    split
    · rename_i hneg
      have := hchunk _ rfl
      rwa [cut, uncut, if_pos hneg, if_pos hneg] at this
    · rename_i hneg
      have := hchunk _ rfl
      rwa [cut, uncut, if_neg hneg, if_neg hneg] at this
  · rename_i hbuffer
    have hbuffer : s.buffer = [] := not_not.mp hbuffer
    split
    · rename_i heof
      obtain ⟨hunread, htask⟩ := hend heof
      exact .ended hunread hbuffer htask heof
    · rename_i heof
      have heof : s.eof = false := Bool.eq_false_iff.mpr heof
      cases htask : s.readTask with
      | none => exact reads_request hbuffer heof (.inl htask)
      | some task =>
        dsimp only
        split
        · rename_i hzero
          exact reads_request hbuffer heof (.inr hzero)
        · exact .waits rfl hbuffer heof rfl ⟨task, htask, rfl⟩

/-- The outcome of the task a `read` waited for. -/
theorem reads_takeOutcome {task : ReadTask} {outcome : Outcome} (htask : s.readTask = some task)
    (houtcome : task.outcome = some outcome) (hbuffer : s.buffer = []) (heof : s.eof = false)
    (maxSize : Int) :
    Reads s maxSize s.arrived s.Failed (s.takeOutcome maxSize outcome).1
      (s.takeOutcome maxSize outcome).2 := by
  have harrived : s.arrived = outcome.bytes := by simp [arrived, htask, houtcome]
  have hunread : s.unread = outcome.bytes := by rw [unread, hbuffer, harrived, List.nil_append]
  have hfails : ∀ (e : CoreError) (error : ReadError), outcome = .failed e →
      (error = .resolveFailed ∨ error = .receiveFailed ∨ ∃ e, error = .core e) →
        Reads s maxSize s.arrived s.Failed (.raised error) { s with readTask := none } := by
    intro e error he hkind
    rw [he] at houtcome hunread harrived
    refine .fails ?_ heof rfl ⟨task, e, htask, houtcome⟩ harrived hkind
    rw [hunread]
    exact (List.append_nil _).trans hbuffer
  cases outcome with
  | failed error =>
    cases error with
    | other => exact hfails .other _ rfl (.inr (.inl rfl))
    | connection => exact hfails .connection _ rfl (.inr (.inr ⟨_, rfl⟩))
    | stream => exact hfails .stream _ rfl (.inr (.inr ⟨_, rfl⟩))
  | data bytes =>
    have harrived : s.arrived = bytes := harrived
    cases bytes with
    | nil => exact .ended hunread hbuffer rfl rfl
    | cons byte bytes =>
      have hchunk : ∀ (data : Bytes) (s' : ReceiveStream), data = cut maxSize s.arrived →
          s' = { s with readTask := none, buffer := uncut maxSize s.arrived } →
            Reads s maxSize s.arrived s.Failed (.returned data) s' := by
        rintro data s' rfl rfl
        refine .chunk (by rw [harrived]; exact List.cons_ne_nil _ _) ?_ rfl heof rfl
        rw [hunread, harrived]
        exact (List.append_nil _).symm
      simp only [takeOutcome]
      rw [← harrived]
      split
      · rename_i hlong
        refine hchunk _ _ ?_ ?_
        · rw [cut, if_neg (by omega)]
        · rw [uncut, if_neg (by omega), hbuffer, List.nil_append]
      · rename_i hlong
        -- all of it fits
        refine hchunk _ _ ?_ ?_
        · unfold cut
          split
          · rfl
          · exact (List.take_of_length_le (by omega)).symm
        · have hnone : uncut maxSize s.arrived = [] := by
            unfold uncut
            split
            · rfl
            · exact List.drop_of_length_le (by omega)
          rw [hnone, hbuffer]

end ReceiveStream

/-! ## A call and a chunk -/

namespace Call

variable {call : Call} {source : Bytes} {s : ReceiveStream}

/-- `readexactly` reads on only while bytes are missing. -/
def Valid : Call → Prop
  | .readexactly size chunks => if size = 0 then chunks = [] else chunks.length < size
  | _ => True

theorem valid_of_start {request : ReadRequest} (h : request.start = .ok call) :
    call.Valid ∧ call.taken = [] := by
  have huntil : ∀ separator maxSize, startUntil separator maxSize = .ok call →
      call.Valid ∧ call.taken = [] := by
    intro separator maxSize h
    unfold startUntil at h
    split at h
    · cases h
    · split at h
      · cases h
      · cases h
        exact ⟨trivial, rfl⟩
  cases request with
  | read maxSize =>
    simp only [ReadRequest.start] at h
    split at h
    · cases h
    · cases h
      exact ⟨trivial, rfl⟩
  | readexactly size =>
    simp only [ReadRequest.start] at h
    split at h
    · cases h
    · cases h
      refine ⟨?_, rfl⟩
      show if size.toNat = 0 then ([] : Bytes) = [] else ([] : Bytes).length < size.toNat
      split
      · rfl
      · exact Nat.pos_of_ne_zero ‹_›
  | readuntil separator maxSize => exact huntil separator maxSize h
  | readline maxSize => exact huntil [0x0A] maxSize h

/-- A call that wants nothing has taken nothing. -/
theorem Valid.taken_of_want (h : call.Valid) (hwant : call.want = 0) : call.taken = [] := by
  cases call with
  | read maxSize => rfl
  | readexactly size chunks =>
    have h : if size = 0 then chunks = [] else chunks.length < size := h
    split at h
    · exact h
    · have : size - chunks.length = 0 := by simpa [want] using hwant
      omega
  | readuntil separator maxSize data => simp [want, readChunkSize] at hwant

/-- The length at which `readuntil` compares with its limit. -/
def reach (separator data : Bytes) : Nat :=
  match findSeparator separator data with
  | some index => index + separator.length
  | none => data.length

/-- With the chunk a `read` would cut from `source`, the call goes over its
limit. -/
def Exceeds (source : Bytes) : Call → Prop
  | .readuntil separator maxSize data =>
    source ≠ [] ∧ 0 ≤ maxSize ∧ maxSize < reach separator (data ++ source.take readChunkSize)
  | _ => False

/-- If the call ends with the chunk a `read` would cut from `source`, then
nothing is left behind the chunk, or nothing of the chunk is pushed back. -/
def Fits (source : Bytes) : Call → Prop
  | .readuntil separator _ data =>
    findSeparator separator (data ++ source.take readChunkSize) = none ∨
      source.length ≤ readChunkSize ∨
      (data ++ source.take readChunkSize).length ≤
        reach separator (data ++ source.take readChunkSize)
  | _ => True

/-- What a call does with the chunk it cut from `source`, when `s` holds the
rest of it. -/
inductive Fed (call : Call) (source : Bytes) (s : ReceiveStream) :
    Verdict → ReceiveStream → Prop
  | again {next : Call} (collected : next.taken = call.taken ++ cut call.want source)
      (valid : next.Valid) : Fed call source s (.again next) s
  | returned (data back : Bytes) {s' : ReceiveStream}
      (split : call.taken ++ cut call.want source = data ++ back)
      (buffer : s'.buffer = s.buffer ++ back) (task : s'.readTask = s.readTask)
      (eof : s'.eof = s.eof) (fits : call.Fits source → back = [] ∨ s.buffer = []) :
      Fed call source s (.returned data) s'
  | exceeded {actual : Nat} {limit : Int} (excess : call.Exceeds source)
      (nonempty : cut call.want source ≠ []) :
      Fed call source s (.raised (.exceeded actual limit)) s

theorem fed_readuntil (separator : Bytes) (maxSize : Int) (data : Bytes) (hne : source ≠ [])
    (hrest : s.buffer = source.drop readChunkSize) :
    Fed (.readuntil separator maxSize data) source s
      (feed s (source.take readChunkSize) (.readuntil separator maxSize data)).1
      (feed s (source.take readChunkSize) (.readuntil separator maxSize data)).2 := by
  have hcut : cut (Call.readuntil separator maxSize data).want source =
      source.take readChunkSize := by
    rw [cut, want, if_neg (by simp), Int.toNat_natCast]
  have hchunk : source.take readChunkSize ≠ [] := by
    rw [← hcut]
    exact cut_ne_nil (by simp [want, readChunkSize]) hne
  simp only [feed, if_neg hchunk]
  cases hfind : findSeparator separator (data ++ source.take readChunkSize) with
  | none =>
    have hreach : reach separator (data ++ source.take readChunkSize) =
        (data ++ source.take readChunkSize).length := by rw [reach, hfind]
    dsimp only
    split
    · rename_i hover
      refine .exceeded ⟨hne, hover.1, ?_⟩ (by rw [hcut]; exact hchunk)
      rw [hreach]
      exact hover.2
    · exact .again (by rw [hcut]; rfl) trivial
  | some index =>
    have hreach : reach separator (data ++ source.take readChunkSize) =
        index + separator.length := by rw [reach, hfind]
    dsimp only
    split
    · rename_i hover
      refine .exceeded ⟨hne, hover.1, ?_⟩ (by rw [hcut]; exact hchunk)
      rw [hreach]
      exact hover.2
    · refine .returned _ ((data ++ source.take readChunkSize).drop (index + separator.length))
        ?_ rfl rfl rfl ?_
      · rw [hcut]
        exact (List.take_append_drop _ _).symm
      · rintro (hnone | hshort | hend)
        · rw [hnone] at hfind
          cases hfind
        · right
          rw [hrest]
          exact List.drop_of_length_le hshort
        · left
          rw [hreach] at hend
          exact List.drop_of_length_le hend

/-- Every call either collects the chunk, ends with it, or goes over its
limit with it. -/
theorem fed_feed (hvalid : call.Valid) (hne : source ≠ [])
    (hrest : s.buffer = uncut call.want source) :
    Fed call source s (feed s (cut call.want source) call).1
      (feed s (cut call.want source) call).2 := by
  have hwhole : ∀ data, call.taken ++ cut call.want source = data →
      Fed call source s (.returned data) s := fun data hdata =>
    .returned data [] (by rw [hdata, List.append_nil]) (List.append_nil _).symm rfl rfl
      fun _ => .inl rfl
  cases call with
  | read maxSize => exact hwhole _ (List.nil_append _)
  | readexactly size chunks =>
    have hvalid : if size = 0 then chunks = [] else chunks.length < size := hvalid
    simp only [feed]
    split at hvalid
    · rename_i hzero
      rw [if_pos hzero]
      subst hzero hvalid
      exact hwhole _ (by simp [taken, cut, want])
    · rename_i hzero
      have hchunk : cut (Call.readexactly size chunks).want source ≠ [] :=
        cut_ne_nil (by simp only [want]; omega) hne
      rw [if_neg hzero, if_neg hchunk]
      split
      · rename_i hmissing
        refine .again rfl ?_
        show if size = 0 then _ else _
        rw [if_neg hzero]
        exact hmissing
      · exact hwhole _ rfl
  | readuntil separator maxSize data =>
    have hwant : (Call.readuntil separator maxSize data).want = (readChunkSize : Nat) := rfl
    rw [hwant, uncut, if_neg (by simp), Int.toNat_natCast] at hrest
    have hfed := fed_readuntil separator maxSize data hne hrest
    rwa [hwant, cut, if_neg (by simp), Int.toNat_natCast]

end Call

/-! ## One action -/

namespace Reader

/-- What the call in progress has collected. -/
def taken (r : Reader) : Bytes :=
  match r.call with
  | none => []
  | some (call, _) => call.taken

/-- All bytes the core delivered that are not lost, by where they are. -/
def content (r : Reader) : Bytes := r.returned ++ r.handed ++ r.taken ++ r.stream.unread

/-- What the next `read` of the call cuts its chunk from. -/
def source (r : Reader) : ReadAction → Bytes
  | .turn => r.stream.buffer
  | .resume => r.stream.arrived
  | _ => []

/-- The next `read` of the call raises. -/
def Broken (r : Reader) (call : Call) : ReadAction → Prop
  | .turn => r.stream.Closed call.want
  | .resume => r.stream.Failed
  | _ => False

/-- Nothing is pushed back behind other bytes. -/
def Tidy (r : Reader) (action : ReadAction) : Prop :=
  ∀ call phase, r.call = some (call, phase) → call.Fits (r.source action)

/-- No call that has taken bytes is interrupted: by cancellation or timeout,
by going over its limit, or by an error of the stream. -/
def Spares (r : Reader) (action : ReadAction) : Prop :=
  (action = .cancel ∨ action = .timeout → r.taken = []) ∧
    ∀ call phase, r.call = some (call, phase) →
      ¬call.Exceeds (r.source action) ∧ (r.Broken call action → call.taken = [])

/-- What is known of a reader between two actions. -/
structure Coherent (r : Reader) : Prop where
  ended : r.stream.eof = true → r.stream.unread = [] ∧ r.stream.readTask = none ∧ r.taken = []
  handed : r.handed ≠ [] → r.stream.eof = true
  valid : ∀ call phase, r.call = some (call, phase) → call.Valid
  awaiting : ∀ call id, r.call = some (call, .awaiting id) →
    r.stream.buffer = [] ∧ r.stream.eof = false ∧
      ∃ task, r.stream.readTask = some task ∧ task.id = id
  probing : ∀ call, r.call = some (call, .probing) → call.want = 0 ∧ r.stream.eof = false

end Reader

/-- The exceptions that interrupt a call which may go on later. -/
def ReadError.interrupts : ReadError → Bool
  | .exceeded _ _ | .timeout | .cancelled => true
  | _ => false

/-- What an action can do to the bytes. -/
inductive Shift (r : Reader) (action : ReadAction) (r' : Reader) (ending : Option Ending) : Prop
  | kept (content : r'.content = r.content) (delivered : r'.delivered = r.delivered)
      (calm : ∀ error, ending = some (.raised error) → error.interrupts = false)
  | grew (data : Bytes) (content : r'.content = r.content ++ data)
      (delivered : r'.delivered = r.delivered ++ data) (calm : ending = none)
  | pushedBack (front back between rest : Bytes)
      (before : r.content = front ++ back ++ between ++ rest)
      (after : r'.content = front ++ between ++ back ++ rest)
      (delivered : r'.delivered = r.delivered) (calm : ∃ data, ending = some (.returned data))
      (tidy : r.Tidy action → back = [] ∨ between = [])
  | dropped (front lost : Bytes) (before : r.content = front ++ lost ++ r'.stream.unread)
      (after : r'.content = front ++ r'.stream.unread) (delivered : r'.delivered = r.delivered)
      (held : r.taken ++ r.stream.unread = lost ++ r'.stream.unread)
      (spared : r.Spares action ↔ lost = [])

namespace Reader

section Settle

variable {r : Reader} {action : ReadAction} {call : Call} {phase : Phase} {s' : ReceiveStream}
  {error : ReadError}

theorem taken_eq (hcall : r.call = some (call, phase)) : r.taken = call.taken := by
  rw [taken, hcall]

theorem content_eq (hcall : r.call = some (call, phase)) :
    r.content = r.returned ++ r.handed ++ call.taken ++ r.stream.unread := by
  rw [content, taken_eq hcall]

theorem Coherent.handed_eq_nil (h : Coherent r) (heof : r.stream.eof = false) : r.handed = [] := by
  by_contra hne
  rw [h.handed hne] at heof
  cases heof

/-- A reader whose stream has not ended and whose call, if it has one, is
about to read. -/
theorem Coherent.of_running (h : Coherent r) (heof : r.stream.eof = false)
    (hsame : s'.eof = r.stream.eof) {next : Option Call} (hvalid : ∀ c ∈ next, c.Valid)
    (returned : Bytes) :
    Coherent { r with stream := s', call := next.map (·, .running), returned } where
  ended hend := by
    have hend : s'.eof = true := hend
    rw [hsame, heof] at hend
    cases hend
  handed hne := absurd (h.handed_eq_nil heof) hne
  valid c p hc := by
    obtain ⟨c', hmem, heq⟩ := Option.map_eq_some_iff.mp hc
    cases heq
    exact hvalid c hmem
  awaiting c id hc := by
    obtain ⟨c', -, heq⟩ := Option.map_eq_some_iff.mp hc
    cases heq
  probing c hc := by
    obtain ⟨c', -, heq⟩ := Option.map_eq_some_iff.mp hc
    cases heq

theorem raise_eq (hdata : ∀ data expected, error ≠ .incomplete data expected) :
    r.raise error = ({ r with call := none }, some (.raised error)) := by
  cases error with
  | incomplete data expected => exact absurd rfl (hdata data expected)
  | _ => simp [raise]

/-- A call that raises, and so loses what it has taken. -/
theorem shift_raise (hcall : r.call = some (call, phase))
    (hdata : ∀ data expected, error ≠ .incomplete data expected) (lost : Bytes)
    (hheld : call.taken ++ r.stream.unread = lost ++ s'.unread)
    (hspared : r.Spares action ↔ lost = []) :
    Shift r action ({ r with stream := s' }.raise error).1
      ({ r with stream := s' }.raise error).2 := by
  rw [raise_eq hdata]
  refine .dropped (r.returned ++ r.handed) lost ?_ ?_ rfl ?_ hspared
  · rw [content_eq hcall, List.append_assoc, hheld, List.append_assoc _ lost]
  · exact congrArg (· ++ s'.unread) (List.append_nil _)
  · rw [taken_eq hcall]
    exact hheld

theorem coherent_raise (h : Coherent r) (heof : r.stream.eof = false)
    (hsame : s'.eof = r.stream.eof) (hdata : ∀ data expected, error ≠ .incomplete data expected) :
    Coherent ({ r with stream := s' }.raise error).1 := by
  rw [raise_eq hdata]
  have hnone : ∀ c ∈ (none : Option Call), c.Valid := nofun
  exact h.of_running heof hsame hnone r.returned

/-- What a step comes to: a coherent reader, and a shift of the bytes. -/
structure Steady (r : Reader) (action : ReadAction) (next : Reader × Option Ending) : Prop where
  coherent : Coherent next.1
  shift : Shift r action next.1 next.2

theorem Steady.of_step {next : Reader × Option Ending} {r' : Reader} {ending : Option Ending}
    (h : Steady r action next) (hstep : some next = some (r', ending)) :
    Steady r action (r', ending) :=
  Option.some.inj hstep ▸ h

/-- The call gets a chunk. -/
theorem settle_chunk (h : Coherent r) (hcall : r.call = some (call, phase))
    (hne : r.source action ≠ []) (hsplit : r.stream.unread = r.source action ++ s'.arrived)
    (hrest : s'.buffer = uncut call.want (r.source action)) (heof : r.stream.eof = false)
    (hsame : s'.eof = r.stream.eof) :
    Steady r action (r.settle call (.returned (cut call.want (r.source action)), s')) := by
  have hfed := Call.fed_feed (h.valid call phase hcall) hne hrest
  have hcut := cut_append_uncut call.want (r.source action)
  have hunread : r.stream.unread = cut call.want (r.source action) ++ s'.unread := by
    rw [hsplit, ReceiveStream.unread, hrest, ← List.append_assoc, hcut]
  unfold settle
  dsimp only
  generalize call.feed s' (cut call.want (r.source action)) = fed at hfed ⊢
  obtain ⟨verdict, s''⟩ := fed
  dsimp only at hfed ⊢
  cases hfed with
  | @again next hcollected hvalid =>
    refine ⟨h.of_running heof hsame (fun c hc => Option.some.inj hc ▸ hvalid) r.returned,
      .kept ?_ rfl nofun⟩
    rw [content_eq hcall, content, hunread, ← List.append_assoc, List.append_assoc _ call.taken,
      ← hcollected]
    rfl
  | returned data back hdata hbuffer htask heof' hfits =>
    have hnone : ∀ c ∈ (none : Option Call), c.Valid := nofun
    refine ⟨h.of_running heof (heof'.trans hsame) hnone _, .pushedBack (r.returned ++ data) back
      s'.buffer s'.arrived ?_ ?_ rfl ⟨data, rfl⟩ ?_⟩
    · rw [content_eq hcall, h.handed_eq_nil heof, hunread, List.append_nil,
        List.append_assoc r.returned, ← List.append_assoc call.taken, hdata,
        ReceiveStream.unread]
      simp only [List.append_assoc]
    · have harrived : s''.arrived = s'.arrived := by
        rw [ReceiveStream.arrived, ReceiveStream.arrived, htask]
      rw [content, ReceiveStream.unread]
      simp only [h.handed_eq_nil heof, hbuffer, harrived, taken, List.append_nil,
        List.append_assoc]
    · exact fun htidy => hfits (htidy call phase hcall)
  | @exceeded actual limit hover hchunk =>
    refine ⟨coherent_raise h heof hsame nofun,
      shift_raise hcall nofun (call.taken ++ cut call.want (r.source action)) ?_ ?_⟩
    · rw [hunread, List.append_assoc]
    · constructor
      · exact fun hspares => absurd hover (hspares.2 call phase hcall).1
      · exact fun hnil => absurd (List.append_eq_nil_iff.mp hnil).2 hchunk

/-- A reader whose stream has ended and that has no call. -/
theorem coherent_over (hbuffer : s'.buffer = []) (htask : s'.readTask = none)
    (hover : s'.eof = true) (returned handed : Bytes) :
    Coherent { r with stream := s', call := none, returned, handed } where
  ended _ := ⟨by simp [ReceiveStream.unread, ReceiveStream.arrived, hbuffer, htask], htask, rfl⟩
  handed _ := hover
  valid := nofun
  awaiting := nofun
  probing := nofun

/-- The call finds the end of the stream. -/
theorem settle_ended (h : Coherent r) (hcall : r.call = some (call, phase))
    (hnothing : r.stream.unread = []) (hbuffer : s'.buffer = []) (htask : s'.readTask = none)
    (hover : s'.eof = true) :
    Steady r action (r.settle call (.returned [], s')) := by
  have hunread : s'.unread = [] := by
    simp [ReceiveStream.unread, ReceiveStream.arrived, hbuffer, htask]
  have hvalid := h.valid call phase hcall
  have hreturned : call.taken = [] → r.settle call (.returned [], s') =
      ({ r with stream := s', call := none, returned := r.returned ++ [] },
        some (.returned [])) →
      Steady r action (r.settle call (.returned [], s')) := by
    intro htaken heq
    rw [heq]
    refine ⟨coherent_over hbuffer htask hover _ _, .kept ?_ rfl nofun⟩
    rw [content_eq hcall, htaken, hnothing, content, taken]
    simp [hunread]
  -- what the call had collected goes out with the exception
  have hincomplete : ∀ expected, r.settle call (.returned [], s') =
      ({ r with stream := s', call := none, handed := r.handed ++ call.taken },
        some (.raised (.incomplete call.taken expected))) →
      Steady r action (r.settle call (.returned [], s')) := by
    intro expected heq
    rw [heq]
    refine ⟨coherent_over hbuffer htask hover _ _, .kept ?_ rfl ?_⟩
    · rw [content_eq hcall, hnothing, content, taken]
      simp [hunread]
    · intro error herror
      cases herror
      rfl
  cases call with
  | read maxSize => exact hreturned rfl rfl
  | readexactly size chunks =>
    have hvalid : if size = 0 then chunks = [] else chunks.length < size := hvalid
    split at hvalid
    · rename_i hzero
      refine hreturned hvalid ?_
      simp only [settle, Call.feed, if_pos hzero]
    · rename_i hzero
      refine hincomplete (some size) ?_
      simp only [settle, Call.feed, if_neg hzero, if_true]
      rfl
  | readuntil separator maxSize data =>
    refine hincomplete none ?_
    simp only [settle, Call.feed, if_true]
    rfl

/-- Whatever a `read` comes to, the call goes on with it or ends. -/
theorem settle_reads (h : Coherent r) (hcall : r.call = some (call, phase)) {p : Pass}
    (hreads : Reads r.stream call.want (r.source action) (r.Broken call action) p s') :
    Steady r action (r.settle call (p, s')) := by
  cases hreads with
  | chunk hne hsplit hrest heof hsame => exact settle_chunk h hcall hne hsplit hrest heof hsame
  | ended hnothing hbuffer htask hover => exact settle_ended h hcall hnothing hbuffer htask hover
  | @waits s' id hunread hbuffer heof hsame htask =>
    refine ⟨⟨?_, fun hne => absurd (h.handed_eq_nil heof) hne, ?_, ?_, nofun⟩,
      .kept ?_ rfl nofun⟩
    · intro hend
      have hend : s'.eof = true := hend
      rw [hsame, heof] at hend
      cases hend
    · intro c p hc
      cases hc
      exact h.valid call phase hcall
    · intro c id' hc
      cases hc
      exact ⟨hbuffer, hsame.trans heof, htask⟩
    · rw [content_eq hcall, ← hunread]
      rfl
  | probes hsize heof =>
    refine ⟨⟨?_, fun hne => absurd (h.handed_eq_nil heof) hne, ?_, nofun, ?_⟩,
      .kept ?_ rfl nofun⟩
    · intro hend
      have hend : r.stream.eof = true := hend
      rw [heof] at hend
      cases hend
    · intro c p hc
      cases hc
      exact h.valid call phase hcall
    · intro c hc
      cases hc
      exact ⟨hsize, heof⟩
    · rw [content_eq hcall]
      rfl
  | @fails s' error hunread heof hsame hbroken hsource hkind =>
    have hdata : ∀ data expected, error ≠ .incomplete data expected := by
      rintro data expected rfl
      rcases hkind with hkind | hkind | ⟨e, hkind⟩ <;> cases hkind
    refine ⟨coherent_raise h heof hsame hdata,
      shift_raise hcall hdata call.taken (by rw [hunread]) ?_⟩
    constructor
    · exact fun hspares => (hspares.2 call phase hcall).2 hbroken
    · intro htaken
      refine ⟨fun _ => by rw [taken_eq hcall, htaken], fun c p hc => ?_⟩
      obtain rfl : c = call := by
        rw [hcall] at hc
        cases hc
        rfl
      refine ⟨?_, fun _ => htaken⟩
      rw [hsource]
      cases c with
      | readuntil separator maxSize data => exact fun hover => hover.1 rfl
      | _ => exact id

/-- A call that waits loses what it has taken when it is interrupted. -/
theorem interrupt (h : Coherent r) (hcall : r.call = some (call, phase))
    (heof : r.stream.eof = false) (error : ReadError)
    (haction : action = .cancel ∨ action = .timeout)
    (hdata : ∀ data expected, error ≠ .incomplete data expected) :
    Steady r action (r.raise error) := by
  refine ⟨coherent_raise h heof rfl hdata, shift_raise hcall hdata call.taken rfl ?_⟩
  have hsource : r.source action = [] := by rcases haction with rfl | rfl <;> rfl
  have hbroken : ∀ c, ¬r.Broken c action := by rcases haction with rfl | rfl <;> exact fun _ => id
  constructor
  · intro hspares
    rw [← taken_eq hcall]
    exact hspares.1 haction
  · intro htaken
    refine ⟨fun _ => by rw [taken_eq hcall, htaken], fun c p _ => ⟨?_, fun hb => ?_⟩⟩
    · rw [hsource]
      cases c with
      | readuntil separator maxSize data => exact fun hover => hover.1 rfl
      | _ => exact id
    · exact absurd hb (hbroken c)

/-- The answer to a request for no bytes ends the call. -/
theorem settle_probe (h : Coherent r) (hcall : r.call = some (call, .probing)) :
    Steady r action (r.settle call (.returned [], r.stream)) := by
  obtain ⟨hwant, heof⟩ := h.probing call hcall
  have hvalid := h.valid call _ hcall
  have heq : r.settle call (.returned [], r.stream) =
      ({ r with call := none, returned := r.returned ++ [] }, some (.returned [])) := by
    cases call with
    | read maxSize => rfl
    | readexactly size chunks =>
      have hvalid : if size = 0 then chunks = [] else chunks.length < size := hvalid
      split at hvalid
      · rename_i hzero
        simp only [settle, Call.feed, if_pos hzero]
      · have : size - chunks.length = 0 := by simpa [Call.want] using hwant
        omega
    | readuntil separator maxSize data => simp [Call.want, readChunkSize] at hwant
  rw [heq]
  have hnone : ∀ c ∈ (none : Option Call), c.Valid := nofun
  refine ⟨h.of_running heof rfl hnone _, .kept ?_ rfl nofun⟩
  rw [content_eq hcall, hvalid.taken_of_want hwant]
  simp [content, taken]

end Settle

section Step

variable {r r' : Reader} {action : ReadAction} {ending : Option Ending}

section

variable (h : Coherent r)
include h

theorem step_call {request : ReadRequest} (hstep : r.step (.call request) = some (r', ending)) :
    Steady r (.call request) (r', ending) := by
  simp only [step] at hstep
  cases hcall : r.call with
  | some pending =>
    rw [hcall] at hstep
    cases hstep
  | none =>
    rw [hcall] at hstep
    dsimp only at hstep
    cases hstart : request.start with
    | error error =>
      rw [hstart] at hstep
      have hkind : (∃ actual, error = .invalidSize actual) ∨ error = .invalidSeparator := by
        cases request <;> simp only [ReadRequest.start, startUntil] at hstart <;>
          split at hstart <;> (try split at hstart) <;> cases hstart <;> simp
      have hdata : ∀ data expected, error ≠ .incomplete data expected := by
        rintro data expected rfl
        rcases hkind with ⟨actual, hkind⟩ | hkind <;> cases hkind
      dsimp only at hstep
      rw [raise_eq hdata] at hstep
      have hsame : ({ r with call := none } : Reader) = r := by
        cases r
        cases hcall
        rfl
      rw [hsame] at hstep
      cases hstep
      refine ⟨h, .kept rfl rfl ?_⟩
      intro e he
      cases he
      rcases hkind with ⟨actual, rfl⟩ | rfl <;> rfl
    | ok call =>
      rw [hstart] at hstep
      obtain ⟨hvalid, htaken⟩ := Call.valid_of_start hstart
      cases hstep
      refine ⟨⟨fun hend => ?_, h.handed, ?_, nofun, nofun⟩, .kept ?_ rfl nofun⟩
      · obtain ⟨hunread, htask, -⟩ := h.ended hend
        exact ⟨hunread, htask, htaken⟩
      · intro c p hc
        cases hc
        exact hvalid
      · simp [content, taken, hcall, htaken]

theorem step_answer {outcome : Outcome} (hstep : r.step (.answer outcome) = some (r', ending)) :
    Steady r (.answer outcome) (r', ending) := by
  simp only [step] at hstep
  cases htask : r.stream.readTask with
  | none =>
    rw [htask] at hstep
    cases hstep
  | some task =>
    rw [htask] at hstep
    dsimp only at hstep
    split at hstep
    · rename_i hnone
      have heof : r.stream.eof = false := by
        cases heof : r.stream.eof with
        | false => rfl
        | true =>
          rw [(h.ended heof).2.1] at htask
          cases htask
      cases hstep
      refine ⟨⟨fun hend => ?_, h.handed, h.valid, ?_, h.probing⟩, .grew outcome.bytes ?_ rfl rfl⟩
      · have hend : r.stream.eof = true := hend
        rw [heof] at hend
        cases hend
      · intro c id hc
        obtain ⟨hbuffer, hmore, task', htask', hid⟩ := h.awaiting c id hc
        rw [htask] at htask'
        cases htask'
        exact ⟨hbuffer, hmore, _, rfl, hid⟩
      · simp [content, taken, ReceiveStream.unread, ReceiveStream.arrived, htask, hnone]
    · cases hstep

theorem step_answerProbe {error : Option CoreError}
    (hstep : r.step (.answerProbe error) = some (r', ending)) :
    Steady r (.answerProbe error) (r', ending) := by
  simp only [step] at hstep
  split at hstep
  · rename_i call hcall
    obtain ⟨hwant, heof⟩ := h.probing call hcall
    have htaken := (h.valid call _ hcall).taken_of_want hwant
    have hraise : ∀ e : ReadError, (e = .receiveFailed ∨ ∃ c, e = .core c) →
        some (r.raise e) = some (r', ending) →
          Steady r (.answerProbe error) (r', ending) := by
      intro e hkind heq
      have hdata : ∀ data expected, e ≠ .incomplete data expected := by
        rintro data expected rfl
        rcases hkind with hkind | ⟨c, hkind⟩ <;> cases hkind
      have hcoherent := coherent_raise h heof rfl hdata
      rw [raise_eq hdata] at hcoherent heq
      cases heq
      refine ⟨hcoherent, .kept ?_ rfl ?_⟩
      · rw [content_eq hcall, htaken]
        rfl
      · intro e' he'
        cases he'
        rcases hkind with rfl | ⟨c, rfl⟩ <;> rfl
    cases error with
    | none =>
      exact (settle_probe h hcall).of_step hstep
    | some error =>
      cases error with
      | other => exact hraise _ (.inl rfl) hstep
      | connection | stream => exact hraise _ (.inr ⟨_, rfl⟩) hstep
  · cases hstep

theorem step_turn (hstep : r.step .turn = some (r', ending)) :
    Steady r .turn (r', ending) := by
  simp only [step] at hstep
  split at hstep
  · rename_i call hcall
    have hreads := ReceiveStream.reads_pass (s := r.stream)
      (fun heof => ⟨(h.ended heof).1, (h.ended heof).2.1⟩) call.want
    have hsettle : Steady r .turn _ := settle_reads h hcall hreads
    exact hsettle.of_step hstep
  · cases hstep

theorem step_resume (hstep : r.step .resume = some (r', ending)) :
    Steady r .resume (r', ending) := by
  simp only [step] at hstep
  split at hstep
  · rename_i call id hcall
    -- with one call at a time, nobody else has taken the task
    obtain ⟨hbuffer, heof, task, htask, hid⟩ := h.awaiting call id hcall
    have hresume : r.stream.resume call.want id =
        task.outcome.map (r.stream.takeOutcome call.want) := by
      rw [ReceiveStream.resume, htask]
      exact if_pos hid
    rw [hresume] at hstep
    cases houtcome : task.outcome with
    | none =>
      rw [houtcome] at hstep
      cases hstep
    | some outcome =>
      rw [houtcome] at hstep
      have hreads := ReceiveStream.reads_takeOutcome htask houtcome hbuffer heof call.want
      have hsettle : Steady r .resume _ := settle_reads h hcall hreads
      exact hsettle.of_step hstep
  · cases hstep

theorem step_cancel (hstep : r.step .cancel = some (r', ending)) :
    Steady r .cancel (r', ending) := by
  simp only [step] at hstep
  split at hstep
  · rename_i call id hcall
    exact (interrupt h hcall (h.awaiting call id hcall).2.1 .cancelled (.inl rfl) nofun).of_step
      hstep
  · rename_i call hcall
    exact (interrupt h hcall (h.probing call hcall).2 .cancelled (.inl rfl) nofun).of_step hstep
  · cases hstep

theorem step_timeout (hstep : r.step .timeout = some (r', ending)) :
    Steady r .timeout (r', ending) := by
  simp only [step] at hstep
  split at hstep
  · rename_i call id hcall
    split at hstep
    · exact (interrupt h hcall (h.awaiting call id hcall).2.1 .timeout (.inr rfl) nofun).of_step
        hstep
    · cases hstep
  · cases hstep

/-- Every action does one of the four things to the bytes. -/
theorem step_shift (hstep : r.step action = some (r', ending)) :
    Coherent r' ∧ Shift r action r' ending := by
  have hsteady : Steady r action (r', ending) := by
    cases action with
    | call request => exact step_call h hstep
    | turn => exact step_turn h hstep
    | answer outcome => exact step_answer h hstep
    | answerProbe error => exact step_answerProbe h hstep
    | resume => exact step_resume h hstep
    | cancel => exact step_cancel h hstep
    | timeout => exact step_timeout h hstep
    | close =>
      cases hstep
      exact ⟨⟨h.ended, h.handed, h.valid, h.awaiting, h.probing⟩, .kept rfl rfl nofun⟩
  exact ⟨hsteady.coherent, hsteady.shift⟩

end

end Step

end Reader

end PyWebTransport.Api

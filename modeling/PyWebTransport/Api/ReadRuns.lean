/-
PyWebTransport.Api.ReadRuns — what the callers of a stream get.

Two results over whole runs, both from `step_shift`:

* `reads_in_order` — what calls return is what the core delivered, in order,
  as long as `readuntil` pushes nothing back behind other bytes and no call
  that has taken bytes is interrupted. `readline_reorders` is a run in which
  it does: a cancelled `read` has left an unlimited request in flight, and
  `readline` gets more than a chunk;
* `interrupted_read_keeps_iff` — a call that is interrupted gives its bytes
  back if and only if it had none, and only such interruptions lose data.
  `cancelled_readexactly_drops` is a run with a gap.
-/
import PyWebTransport.Api.ReadSteps
import Mathlib.Data.List.Perm.Basic

namespace PyWebTransport.Api

namespace Reader

variable {r : Reader} {action : ReadAction}

variable {n : Nat}

/-! ## Whole runs -/

/-- The readers that come about from a new stream, one action after another,
each of them allowed. -/
inductive Runs (allowed : Reader → ReadAction → Prop) : Reader → Prop
  | start (streamId : StreamId) : Runs allowed { stream := { streamId } }
  | step {r r' : Reader} {ending : Option Ending} (action : ReadAction) (run : Runs allowed r)
      (may : allowed r action) (taken : r.step action = some (r', ending)) : Runs allowed r'

section Runs

variable {allowed : Reader → ReadAction → Prop} {r r' : Reader}

theorem Runs.coherent (run : Runs allowed r) : Coherent r := by
  induction run with
  | start streamId => exact ⟨nofun, fun hne => absurd rfl hne, nofun, nofun, nofun⟩
  | step action _ _ htaken ih => exact (step_shift ih htaken).1

/-- Where nothing is pushed back behind other bytes and no call that has
taken bytes is interrupted, the content is what was delivered. -/
theorem Runs.content_eq (run : Runs (fun r action => r.Tidy action ∧ r.Spares action) r) :
    r.content = r.delivered := by
  induction run with
  | start streamId => rfl
  | @step r r' ending action run hmay htaken ih =>
    cases (step_shift run.coherent htaken).2 with
    | kept hcontent hdelivered | grew data hcontent hdelivered => rw [hcontent, hdelivered, ih]
    | pushedBack front back between rest hbefore hafter hdelivered _ htidy =>
      rw [hdelivered, ← ih, hbefore, hafter]
      rcases htidy hmay.1 with rfl | rfl <;> simp
    | dropped front lost hbefore hafter hdelivered _ hspared =>
      rw [hdelivered, ← ih, hbefore, hafter, hspared.mp hmay.2, List.append_nil]

/-- Where no call that has taken bytes is interrupted, nothing is lost. -/
theorem Runs.content_perm (run : Runs Spares r) : r.content.Perm r.delivered := by
  induction run with
  | start streamId => exact .refl _
  | @step r r' ending action run hmay htaken ih =>
    cases (step_shift run.coherent htaken).2 with
    | kept hcontent hdelivered => rwa [hcontent, hdelivered]
    | grew data hcontent hdelivered =>
      rw [hcontent, hdelivered]
      exact ih.append_right data
    | pushedBack front back between rest hbefore hafter hdelivered _ _ =>
      rw [hdelivered, hafter]
      rw [hbefore] at ih
      refine List.Perm.trans (List.Perm.append_right rest ?_) ih
      rw [List.append_assoc, List.append_assoc]
      exact List.perm_append_comm.append_left front
    | dropped front lost hbefore hafter hdelivered _ hspared =>
      rw [hdelivered, hafter]
      rwa [hbefore, hspared.mp hmay, List.append_nil] at ih

/-- Reads return the stream in order. In every run in which, at each action,
`readuntil` has nothing to push back behind other bytes and no call that has
taken bytes is interrupted, the concatenation of what calls returned is a
prefix of what the core delivered. -/
theorem reads_in_order (run : Runs (fun r action => r.Tidy action ∧ r.Spares action) r) :
    r.returned <+: r.delivered := by
  rw [← run.content_eq, content, List.append_assoc, List.append_assoc]
  exact List.prefix_append _ _

/-- An interrupted call and its bytes. A call that ends because its limit is
exceeded, by a timeout or by cancellation, leaves the bytes it had taken to
be read again if and only if it had taken none; and in every run in which no
call that has taken bytes is interrupted, everything delivered is with the
caller, with the call in progress or still to be read. -/
theorem interrupted_read_keeps_iff (allowed : Reader → ReadAction → Prop) (r : Reader) :
    (∀ (r' : Reader) (action : ReadAction) (error : ReadError), Runs allowed r →
      r.step action = some (r', some (.raised error)) → error.interrupts = true →
        (r'.stream.unread = r.taken ++ r.stream.unread ↔ r.Spares action)) ∧
    (Runs Spares r →
      (r.returned ++ r.handed ++ r.taken ++ r.stream.unread).Perm r.delivered) := by
  refine ⟨fun r' action error run hstep hinterrupts => ?_, fun run => run.content_perm⟩
  cases (step_shift run.coherent hstep).2 with
  | kept _ _ hcalm =>
    rw [hcalm error rfl] at hinterrupts
    cases hinterrupts
  | grew _ _ _ hcalm => cases hcalm
  | pushedBack _ _ _ _ _ _ _ hcalm =>
    obtain ⟨data, hdata⟩ := hcalm
    cases hdata
  | dropped front lost _ _ _ hheld hspared =>
    rw [hspared, hheld]
    constructor
    · intro hsame
      exact List.append_left_eq_self.mp hsame.symm
    · intro hnil
      rw [hnil, List.nil_append]

end Runs

/-! ## Two runs -/

/-- What the core and the callers are allowed when reads should be in order:
the core answers with data, within the size asked for, and a call is
cancelled only before it has bytes. -/
def Promised (r : Reader) : ReadAction → Prop
  | .answer outcome => ∃ task data, r.stream.readTask = some task ∧ outcome = .data data ∧
      data ≠ [] ∧ ∀ n ∈ task.size, data.length ≤ n
  | .answerProbe error => error = none
  | .cancel => r.taken = []
  | .timeout => False
  | .close => False
  | _ => True

/-- A call to `readline` that is about to read its first chunk, of a chunk's
size at most. -/
theorem first_chunk_allowed {phase : Phase} {separator : Bytes}
    (hcall : r.call = some (.readuntil separator (-1) [], phase))
    (hshort : (r.source action).length ≤ readChunkSize) : r.Tidy action ∧ r.Spares action := by
  refine ⟨fun c p hc => ?_, fun _ => by rw [taken, hcall]; rfl, fun c p hc => ?_⟩
  · rw [hcall] at hc
    cases hc
    exact .inr (.inl hshort)
  · rw [hcall] at hc
    cases hc
    exact ⟨fun hover => absurd hover.2.1 (by decide), fun _ => rfl⟩

/-- Without a call there is nothing to push back or to lose. -/
theorem no_call_allowed (hcall : r.call = none) : r.Tidy action ∧ r.Spares action := by
  refine ⟨fun c p hc => ?_, fun _ => by rw [taken, hcall], fun c p hc => ?_⟩
  · rw [hcall] at hc
    cases hc
  · rw [hcall] at hc
    cases hc

/-- `readline` on three bytes with a line of two in front. -/
theorem reads_in_order_readline :
    ∃ r : Reader, Runs (fun r action => r.Tidy action ∧ r.Spares action) r ∧
      r.returned = [1, 0x0A] ∧ r.delivered = [1, 0x0A, 2] ∧ r.returned <+: r.delivered :=
  have run : Runs (fun r action => r.Tidy action ∧ r.Spares action)
      { stream := { streamId := 0, buffer := [2], nextTask := 1 }, delivered := [1, 0x0A, 2],
        returned := [1, 0x0A] } :=
    .step .resume
      (.step (.answer (.data [1, 0x0A, 2]))
        (.step .turn (.step (.call (.readline (-1))) (.start 0) (no_call_allowed rfl) rfl)
          (first_chunk_allowed rfl (by decide)) rfl)
        (first_chunk_allowed rfl (by decide)) rfl)
      (first_chunk_allowed rfl (by decide)) rfl
  ⟨_, run, rfl, rfl, reads_in_order run⟩

/-- A `read` is cancelled and leaves an unlimited request in flight, and
`readline` gets more than a chunk, with its separator in front. What is
behind the chunk then stands before what is pushed back. -/
theorem readline_swaps {line tail rest : Bytes} (htake : line.take readChunkSize = 0x0A :: tail)
    (hdrop : line.drop readChunkSize = rest) (hrest : rest ≠ []) :
    ∃ r : Reader, Runs Promised r ∧ r.delivered = line ∧ r.returned = 0x0A :: (rest ++ tail) := by
  have hlong : readChunkSize < line.length := by
    by_contra hshort
    exact hrest (hdrop.symm.trans (List.drop_of_length_le (Nat.not_lt.mp hshort)))
  have hline : line ≠ [] := by
    rintro rfl
    cases htake
  let inFlight : Reader :=
    { stream := { streamId := 0, readTask := some { id := 0, size := none }, nextTask := 1 } }
  let waiting : Reader :=
    { stream := { streamId := 0, nextTask := 1,
                  readTask := some { id := 0, size := none, outcome := some (.data line) } },
      call := some (.readuntil [0x0A] (-1) [], .awaiting 0),
      delivered := line }
  let served : Reader :=
    { stream := { streamId := 0, buffer := rest ++ tail, nextTask := 1 },
      delivered := line,
      returned := [0x0A] }
  have hasked : Runs Promised { inFlight with call := some (.read (-1), .awaiting 0) } :=
    .step .turn (.step (.call (.read (-1))) (.start 0) trivial rfl) trivial rfl
  have hcancelled : Runs Promised inFlight := .step .cancel hasked rfl rfl
  have hwaiting : Runs Promised waiting :=
    .step .turn (.step (.call (.readline (-1)))
      (.step (.answer (.data line)) hcancelled
        ⟨_, line, rfl, rfl, hline, fun _ hn => nomatch hn⟩ rfl) trivial rfl) trivial rfl
  have hresume : waiting.step .resume = some (served, some (.returned [0x0A])) := by
    have htaken : waiting.stream.takeOutcome (readChunkSize : Nat) (.data line) =
        (.returned (0x0A :: tail), { streamId := 0, buffer := rest, nextTask := 1 }) := by
      have hcond : 0 ≤ ((readChunkSize : Nat) : Int) ∧ readChunkSize < line.length :=
        ⟨Int.natCast_nonneg _, hlong⟩
      cases line with
      | nil => exact absurd rfl hline
      | cons byte bytes =>
        simp only [ReceiveStream.takeOutcome, Int.toNat_natCast, htake, hdrop]
        exact if_pos hcond
    have hfind : findSeparator [0x0A] ([] ++ 0x0A :: tail) = some 0 := by simp [findSeparator]
    have hfeed : Call.feed { streamId := 0, buffer := rest, nextTask := 1 } (0x0A :: tail)
        (.readuntil [0x0A] (-1) []) =
        (.returned [0x0A], { streamId := 0, buffer := rest ++ tail, nextTask := 1 }) := by
      simp only [Call.feed, if_neg (List.cons_ne_nil _ _), hfind]
      rfl
    have hresult : waiting.step .resume = some (waiting.settle (.readuntil [0x0A] (-1) [])
        (waiting.stream.takeOutcome (readChunkSize : Nat) (.data line))) := rfl
    rw [hresult, htaken]
    simp only [settle, hfeed]
    rfl
  have hserved : Runs Promised served := .step .resume hwaiting trivial hresume
  have hread : ({ served with call := some (.read (-1), .running) } : Reader).step .turn =
      some ({ served with
        stream := { served.stream with buffer := [] }
        returned := [0x0A] ++ (rest ++ tail) }, some (.returned (rest ++ tail))) := by
    have hbuffer : rest ++ tail ≠ [] := List.append_ne_nil_of_left_ne_nil hrest tail
    have hpass : served.stream.pass (-1) =
        (.returned (rest ++ tail), { served.stream with buffer := [] }) := by
      simp only [ReceiveStream.pass, served, if_pos hbuffer]
      rfl
    simp only [step, Call.want]
    exact congrArg (fun result => some (settle _ _ result)) hpass
  exact ⟨_, .step .turn (.step (.call (.read (-1))) hserved trivial rfl) trivial hread, rfl, rfl⟩

/-- A line feed, more than a chunk of other bytes, and a last one. -/
def longLine (chunk : Nat) : Bytes := 0x0A :: (List.replicate chunk 2 ++ [3])

theorem take_longLine : (longLine (n + 1)).take (n + 1) = 0x0A :: List.replicate n 2 := by
  rw [longLine, List.take_succ_cons, List.take_append_of_le_length (by simp), List.take_replicate,
    Nat.min_eq_left (Nat.le_succ n)]

theorem drop_longLine : (longLine (n + 1)).drop (n + 1) = [2, 3] := by
  rw [longLine, List.drop_succ_cons, List.drop_append_of_le_length (by simp), List.drop_replicate,
    Nat.add_sub_cancel_left]
  rfl

theorem not_prefix_longLine :
    ¬0x0A :: ([2, 3] ++ List.replicate (n + 1) 2) <+: longLine (n + 2) := by
  have hline : longLine (n + 2) = 0x0A :: 2 :: 2 :: (List.replicate n 2 ++ [3]) := rfl
  rw [hline]
  simp [List.cons_prefix_cons]

/-- Reads out of order: behind the line feed, the bytes beyond the first
chunk are returned before the rest of that chunk. -/
theorem readline_reorders :
    ∃ r : Reader, Runs Promised r ∧ r.delivered = longLine readChunkSize ∧
      ¬r.returned <+: r.delivered := by
  obtain ⟨r, run, hdelivered, hreturned⟩ :=
    readline_swaps take_longLine drop_longLine (List.cons_ne_nil _ _)
  refine ⟨r, run, hdelivered, ?_⟩
  rw [hdelivered, hreturned]
  exact not_prefix_longLine

/-- Data lost: `readexactly` has two of three bytes when it is cancelled, and
the next `read` goes on behind them. -/
theorem cancelled_readexactly_drops :
    ∃ r r' last : Reader, Runs (fun _ _ => True) r ∧ r.taken = [1, 2] ∧
      r.step .cancel = some (r', some (.raised .cancelled)) ∧ r'.stream.unread = [] ∧
      Runs (fun _ _ => True) last ∧ last.delivered = [1, 2, 3] ∧ last.returned = [3] ∧
      last.handed = [] :=
  have run : Runs (fun _ _ => True)
      { stream := { streamId := 0, nextTask := 2, readTask := some { id := 1, size := some 1 } },
        call := some (.readexactly 3 [1, 2], .awaiting 1), delivered := [1, 2] } :=
    .step .turn (.step .resume (.step (.answer (.data [1, 2])) (.step .turn
      (.step (.call (.readexactly 3)) (.start 0) trivial rfl) trivial rfl) trivial rfl)
        trivial rfl) trivial rfl
  have later : Runs (fun _ _ => True)
      { stream := { streamId := 0, nextTask := 2 }, delivered := [1, 2, 3], returned := [3] } :=
    .step .resume (.step .turn (.step (.call (.read (-1))) (.step (.answer (.data [3]))
      (.step .cancel run trivial rfl) trivial rfl) trivial rfl) trivial rfl) trivial rfl
  ⟨_, _, _, run, rfl, rfl, rfl, later, rfl, rfl, rfl⟩

end Reader

end PyWebTransport.Api

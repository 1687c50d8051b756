/-
PyWebTransport.Api.ReceiveStream — reading from a stream in Python
(`pywebtransport/stream.py`, `WebTransportReceiveStream`).

`read` asks the core for data and waits. A call that is cancelled while it
waits leaves its request in flight; the next call waits for the same
request, whatever size it wants itself, and puts what is too much into a
local buffer. `readexactly`, `readuntil` and `readline` call `read` in a loop
and collect the chunks in a local variable.

The code is cut where it can be interrupted, at its awaits. `pass` is a turn
of `read`'s loop up to the await and `takeOutcome` what follows it; `feed` is
what the calling loop does with a chunk. A `Reader` is a stream with the
call that is running on it, together with a record of the bytes the core
delivered and of those the caller got.
-/
import PyWebTransport.Common.Types

namespace PyWebTransport.Api

/-! ## The stream -/

/-- The exceptions a request to the core can end with. -/
inductive CoreError where
  | connection
  | stream
  | other
deriving DecidableEq

inductive Outcome where
  | data (bytes : Bytes)
  | failed (error : CoreError)
deriving DecidableEq

def Outcome.bytes : Outcome → Bytes
  | .data bytes => bytes
  | .failed _ => []

/-- `_read_task`: a request to the core, known by its identity. -/
structure ReadTask where
  id : Nat
  /-- `None` asks for any amount. -/
  size : Option Nat
  outcome : Option Outcome := none
deriving DecidableEq

structure ReceiveStream where
  streamId : StreamId
  buffer : Bytes := []
  eof : Bool := false
  isClosed : Bool := false
  readTask : Option ReadTask := none
  /-- The identity of the next task. -/
  nextTask : Nat := 0
deriving DecidableEq

inductive ReadError where
  | invalidSize (actual : Int)
  | invalidSeparator
  | resolveFailed
  | receiveFailed
  | exceeded (actual : Nat) (limit : Int)
  | core (error : CoreError)
  | incomplete (partialData : Bytes) (expected : Option Nat)
  | timeout
  | cancelled
deriving DecidableEq

/-- The texts of the exceptions that are raised here. -/
def ReadError.message (streamId : StreamId) : ReadError → Option String
  | .invalidSize actual => some s!"wt_stream validate invalid actual={actual}"
  | .invalidSeparator => some "wt_stream validate invalid actual=b''"
  | .resolveFailed => some s!"wt_stream resolve failed stream_id={streamId}"
  | .receiveFailed => some s!"wt_stream receive failed stream_id={streamId}"
  | .exceeded actual limit =>
    some s!"wt_stream receive exceeded actual={actual} limit={limit} stream_id={streamId}"
  | .timeout => some s!"wt_stream receive failed stream_id={streamId}"
  | .core _ | .incomplete _ _ | .cancelled => none

/-- How far a turn of `read`'s loop gets. -/
inductive Pass where
  | returned (data : Bytes)
  | raised (error : ReadError)
  /-- Waiting for a task. -/
  | awaiting (task : Nat)
  /-- Waiting for the answer to a request for no bytes. -/
  | probing
deriving DecidableEq

namespace ReceiveStream

/-- A new request; one for no bytes is not kept as the stream's task. -/
def request (s : ReceiveStream) (maxSize : Int) : Pass × ReceiveStream :=
  if s.isClosed then (.raised .resolveFailed, s)
  else if maxSize = 0 then (.probing, s)
  else
    let size := if 0 ≤ maxSize then some maxSize.toNat else none
    (.awaiting s.nextTask,
      { s with readTask := some { id := s.nextTask, size }, nextTask := s.nextTask + 1 })

/-- A turn of the loop in `read`, up to the await. -/
def pass (s : ReceiveStream) (maxSize : Int) : Pass × ReceiveStream :=
  if s.buffer ≠ [] then
    if maxSize < 0 then (.returned s.buffer, { s with buffer := [] })
    else
      (.returned (s.buffer.take maxSize.toNat),
        { s with buffer := s.buffer.drop maxSize.toNat })
  else if s.eof then (.returned [], s)
  else
    match s.readTask with
    | none => s.request maxSize
    | some task => if maxSize = 0 then s.request maxSize else (.awaiting task.id, s)

/-- What `read` does with the outcome of the stream's task. -/
def takeOutcome (s : ReceiveStream) (maxSize : Int) (outcome : Outcome) : Pass × ReceiveStream :=
  let s := { s with readTask := none }
  match outcome with
  | .failed .other => (.raised .receiveFailed, s)
  | .failed error => (.raised (.core error), s)
  | .data [] => (.returned [], { s with eof := true })
  | .data bytes =>
    if 0 ≤ maxSize ∧ maxSize.toNat < bytes.length then
      (.returned (bytes.take maxSize.toNat),
        { s with buffer := s.buffer ++ bytes.drop maxSize.toNat })
    else (.returned bytes, s)

/-- After the await: the loop starts over if another call has taken the
task, and waits on while the task has no outcome. -/
def resume (s : ReceiveStream) (maxSize : Int) (awaited : Nat) : Option (Pass × ReceiveStream) :=
  match s.readTask with
  | none => some (s.pass maxSize)
  | some task =>
    if task.id = awaited then task.outcome.map (s.takeOutcome maxSize)
    else some (s.pass maxSize)

end ReceiveStream

/-! ## The calls -/

inductive ReadRequest where
  | read (maxSize : Int)
  | readexactly (size : Int)
  | readuntil (separator : Bytes) (maxSize : Int)
  | readline (maxSize : Int)
deriving DecidableEq

/-- A call in progress, with what it has collected. -/
inductive Call where
  | read (maxSize : Int)
  | readexactly (size : Nat) (chunks : Bytes)
  | readuntil (separator : Bytes) (maxSize : Int) (data : Bytes)
deriving DecidableEq

def readChunkSize : Nat := 65536

/-- `data.find(separator)`: where the separator first stands. -/
def findSeparator (separator : Bytes) : Bytes → Option Nat
  | [] => if separator = [] then some 0 else none
  | byte :: rest =>
    if separator.isPrefixOf (byte :: rest) then some 0
    else (findSeparator separator rest).map (· + 1)

def startUntil (separator : Bytes) (maxSize : Int) : Except ReadError Call :=
  if separator = [] then .error .invalidSeparator
  else if maxSize < -1 then .error (.invalidSize maxSize)
  else .ok (.readuntil separator maxSize [])

def ReadRequest.start : ReadRequest → Except ReadError Call
  | .read maxSize => if maxSize < -1 then .error (.invalidSize maxSize) else .ok (.read maxSize)
  | .readexactly size =>
    if size < 0 then .error (.invalidSize size) else .ok (.readexactly size.toNat [])
  | .readuntil separator maxSize => startUntil separator maxSize
  | .readline maxSize => startUntil [0x0A] maxSize

/-- What a call does with a chunk: it ends, or reads on. -/
inductive Verdict where
  | returned (data : Bytes)
  | raised (error : ReadError)
  | again (call : Call)
deriving DecidableEq

namespace Call

/-- The `max_size` of the call's next `read`. -/
def want : Call → Int
  | .read maxSize => maxSize
  | .readexactly size chunks => (size - chunks.length : Nat)
  | .readuntil _ _ _ => (readChunkSize : Nat)

/-- The bytes a call has taken and not handed out. -/
def taken : Call → Bytes
  | .read _ => []
  | .readexactly _ chunks => chunks
  | .readuntil _ _ data => data

/-- Only the loops run under `asyncio.timeout`. -/
def timed : Call → Bool
  | .read _ => false
  | .readexactly size _ => size ≠ 0
  | .readuntil _ _ _ => true

def feed (s : ReceiveStream) (chunk : Bytes) : Call → Verdict × ReceiveStream
  | .read _ => (.returned chunk, s)
  | .readexactly size chunks =>
    if size = 0 then (.returned [], s)
    else if chunk = [] then (.raised (.incomplete chunks (some size)), s)
    else if (chunks ++ chunk).length < size then (.again (.readexactly size (chunks ++ chunk)), s)
    else (.returned (chunks ++ chunk), s)
  | .readuntil separator maxSize data =>
    if chunk = [] then (.raised (.incomplete data none), s)
    else
      let data := data ++ chunk
      match findSeparator separator data with
      | some index =>
        let stop := index + separator.length
        if 0 ≤ maxSize ∧ maxSize < stop then (.raised (.exceeded stop maxSize), s)
        else
          (.returned (data.take stop), { s with buffer := s.buffer ++ data.drop stop })
      | none =>
        if 0 ≤ maxSize ∧ maxSize < data.length then
          (.raised (.exceeded data.length maxSize), s)
        else (.again (.readuntil separator maxSize data), s)

end Call

/-! ## A stream with its reader -/

inductive Phase where
  /-- About to call `read`. -/
  | running
  | awaiting (task : Nat)
  | probing
deriving DecidableEq

/-- A stream and the call on it. `delivered` is what the core answered,
`returned` what successful calls returned, `handed` what
`IncompleteReadError` carried. -/
structure Reader where
  stream : ReceiveStream
  call : Option (Call × Phase) := none
  delivered : Bytes := []
  returned : Bytes := []
  handed : Bytes := []

inductive ReadAction where
  | call (request : ReadRequest)
  /-- The call reads: its code runs up to the next await, or to its end. -/
  | turn
  /-- The core answers the request in flight. -/
  | answer (outcome : Outcome)
  /-- The core answers a request for no bytes. -/
  | answerProbe (error : Option CoreError)
  /-- The call goes on with the outcome it waited for. -/
  | resume
  | cancel
  | timeout
  | close
deriving DecidableEq

/-- How a call ended. -/
inductive Ending where
  | returned (data : Bytes)
  | raised (error : ReadError)
deriving DecidableEq

namespace Reader

def raise (r : Reader) (error : ReadError) : Reader × Option Ending :=
  let handed :=
    match error with
    | .incomplete data _ => data
    | _ => []
  ({ r with call := none, handed := r.handed ++ handed }, some (.raised error))

/-- What becomes of a call when its `read` has come this far. -/
def settle (r : Reader) (call : Call) (result : Pass × ReceiveStream) : Reader × Option Ending :=
  match result.1 with
  | .awaiting task =>
    ({ r with stream := result.2, call := some (call, .awaiting task) }, none)
  | .probing => ({ r with stream := result.2, call := some (call, .probing) }, none)
  | .raised error => { r with stream := result.2 }.raise error
  | .returned chunk =>
    let fed := call.feed result.2 chunk
    match fed.1 with
    | .again call => ({ r with stream := fed.2, call := some (call, .running) }, none)
    | .raised error => { r with stream := fed.2 }.raise error
    | .returned data =>
      ({ r with stream := fed.2, call := none, returned := r.returned ++ data },
        some (.returned data))

/-- One action; `none` where it does not apply. Calls are made one after
another. -/
def step (r : Reader) : ReadAction → Option (Reader × Option Ending)
  | .call request =>
    match r.call with
    | some _ => none
    | none =>
      match request.start with
      | .error error => some (r.raise error)
      | .ok call => some ({ r with call := some (call, .running) }, none)
  | .turn =>
    match r.call with
    | some (call, .running) => some (r.settle call (r.stream.pass call.want))
    | _ => none
  | .answer outcome =>
    match r.stream.readTask with
    | some task =>
      if task.outcome = none then
        some ({ r with
          stream := { r.stream with readTask := some { task with outcome := some outcome } }
          delivered := r.delivered ++ outcome.bytes }, none)
      else none
    | none => none
  | .answerProbe error =>
    match r.call with
    | some (call, .probing) =>
      match error with
      | none => some (r.settle call (.returned [], r.stream))
      | some .other => some (r.raise .receiveFailed)
      | some error => some (r.raise (.core error))
    | _ => none
  | .resume =>
    match r.call with
    | some (call, .awaiting task) =>
      (r.stream.resume call.want task).map (r.settle call)
    | _ => none
  | .cancel =>
    match r.call with
    | some (_, .awaiting _) | some (_, .probing) => some (r.raise .cancelled)
    | _ => none
  | .timeout =>
    match r.call with
    | some (call, .awaiting _) => if call.timed then some (r.raise .timeout) else none
    | _ => none
  | .close => some ({ r with stream := { r.stream with isClosed := true } }, none)

end Reader

end PyWebTransport.Api

/-
PyWebTransport.Protocol.Calls — the calls a connection makes on its sessions.

Most events come down to one call: on a session, on the session of a stream,
on a session that takes a new stream, or on every session. `Call` is such a
call and `Connection.perform` makes it. What is proved of `perform` then holds
of all these events at once.
-/
import PyWebTransport.Protocol.Engine

namespace PyWebTransport

open PyWebTransport.Lib

/-- A call of the connection on its sessions. -/
inductive Call where
  | session (sessionId : SessionId) (op : SessionOp)
  | stream (streamId : StreamId) (op : SessionOp)
  | adopt (sessionId : SessionId) (streamId : StreamId) (op : SessionOp)
  | each (op : SessionOp)

namespace Connection

variable {c : Connection} {sessionId : SessionId} {session : Session} {streamId : StreamId}

/-- Make a call; nothing happens when there is no such session or stream. -/
def perform (c : Connection) : Call → Connection × List Effect
  | .session sessionId op => c.onSession sessionId (c, []) (fun session => session.exec op)
  | .stream streamId op => c.onStream streamId (c, []) (fun session => session.exec op)
  | .adopt sessionId streamId op =>
    let called := c.onSession sessionId (c, []) (fun session => session.exec op)
    (called.1.mapStream sessionId streamId, called.2)
  | .each op => c.forEachSession (fun session => session.exec op)

/-- The session of a stream. -/
def streamSession (c : Connection) (streamId : StreamId) : Option (SessionId × Session) :=
  (c.streamMap.get? streamId).bind fun sessionId =>
    (c.sessions.get? sessionId).map fun session => (sessionId, session)

/-- There is something to call. -/
def resolves (c : Connection) : Call → Bool
  | .session sessionId _ => c.sessions.contains sessionId
  | .stream streamId _ => (c.streamSession streamId).isSome
  | .adopt sessionId _ _ => c.sessions.contains sessionId
  | .each _ => true

/-! ## Look-ups -/

theorem onSession_of_get? (h : c.sessions.get? sessionId = some session)
    (absent : Connection × List Effect) (method : Session → Session × List Effect) :
    c.onSession sessionId absent method =
      ({ c with sessions := c.sessions.insert sessionId (method session).1 },
        (method session).2) := by
  simp only [onSession, h]

theorem onSession_of_none (h : c.sessions.get? sessionId = none) (absent : Connection × List Effect)
    (method : Session → Session × List Effect) : c.onSession sessionId absent method = absent := by
  simp only [onSession, h]

theorem onStream_of_session (h : c.streamSession streamId = some (sessionId, session))
    (absent : Connection × List Effect) (method : Session → Session × List Effect) :
    c.onStream streamId absent method =
      ({ c with
          sessions := c.sessions.insert sessionId (method session).1
          streamMap := if (method session).1.hasStream streamId then c.streamMap
            else c.streamMap.erase streamId },
        (method session).2) := by
  obtain ⟨id, hmap, hget⟩ := Option.bind_eq_some_iff.mp h
  obtain ⟨s, hsession, heq⟩ := Option.map_eq_some_iff.mp hget
  cases heq
  simp only [onStream, hmap, hsession]

theorem onStream_of_none (h : c.streamSession streamId = none) (absent : Connection × List Effect)
    (method : Session → Session × List Effect) : c.onStream streamId absent method = absent := by
  unfold onStream
  cases hmap : c.streamMap.get? streamId with
  | none => rfl
  | some sessionId =>
    cases hsession : c.sessions.get? sessionId with
    | none => simp only [hsession]
    | some session => simp [streamSession, hmap, hsession] at h

/-- A call on a session, or the answer when there is none. -/
theorem onSession_eq (c : Connection) (sessionId : SessionId) (absent : Connection × List Effect)
    (op : SessionOp) :
    c.onSession sessionId absent (fun session => session.exec op) =
      if c.resolves (.session sessionId op) then c.perform (.session sessionId op)
      else absent := by
  cases hget : c.sessions.get? sessionId with
  | none => simp [onSession_of_none hget, resolves, OrderedMap.contains, hget]
  | some session =>
    simp [onSession_of_get? hget, resolves, OrderedMap.contains, hget, perform]

/-- A call on the session of a stream, or the answer when there is none. -/
theorem onStream_eq (absent : Connection × List Effect) {op : SessionOp} :
    c.onStream streamId absent (fun session => session.exec op) =
      if c.resolves (.stream streamId op) then c.perform (.stream streamId op) else absent := by
  cases hget : c.streamSession streamId with
  | none => simp [onStream_of_none hget, resolves, hget]
  | some found => simp [onStream_of_session hget, resolves, hget, perform]

/-- What a call on one session does to the table. -/
theorem onSession_cases (c : Connection) (sessionId : SessionId) (op : SessionOp) :
    (c.onSession sessionId (c, []) fun session => session.exec op).1 = c ∨
    ∃ session, c.sessions.get? sessionId = some session ∧
      (c.onSession sessionId (c, []) fun session => session.exec op).1 =
        { c with sessions := c.sessions.insert sessionId (session.exec op).1 } := by
  unfold onSession
  split
  · exact Or.inl rfl
  · rename_i session hget
    exact Or.inr ⟨session, hget, rfl⟩

theorem sessions_mapStream : (c.mapStream sessionId streamId).sessions = c.sessions := by
  unfold mapStream
  split <;> rfl

/-- The stream of the call is forgotten if its session has dropped it; the
map loses nothing else. -/
theorem onStream_cases (c : Connection) (streamId : StreamId) (op : SessionOp) :
    (c.onStream streamId (c, []) fun session => session.exec op).1 = c ∨
    ∃ sessionId session, c.streamMap.get? streamId = some sessionId ∧
      c.sessions.get? sessionId = some session ∧
      (c.onStream streamId (c, []) fun session => session.exec op).1 =
        { c with
          sessions := c.sessions.insert sessionId (session.exec op).1
          streamMap := if (session.exec op).1.hasStream streamId then c.streamMap
            else c.streamMap.erase streamId } := by
  unfold onStream
  split
  · exact Or.inl rfl
  · rename_i sessionId hmap
    split
    · exact Or.inl rfl
    · rename_i session hget
      exact Or.inr ⟨sessionId, session, hmap, hget, rfl⟩

/-- A call changes neither the number of sessions nor the requests. -/
theorem size_perform (c : Connection) (call : Call) :
    (c.perform call).1.sessions.size = c.sessions.size ∧
      (c.perform call).1.sessionRequests = c.sessionRequests ∧
      (c.perform call).1.maxSessions = c.maxSessions ∧
      (c.perform call).1.isClient = c.isClient := by
  have hsession : ∀ sessionId op,
      let called := (c.onSession sessionId (c, []) fun session => session.exec op).1
      called.sessions.size = c.sessions.size ∧ called.sessionRequests = c.sessionRequests ∧
        called.maxSessions = c.maxSessions ∧ called.isClient = c.isClient := by
    intro sessionId op called
    rcases c.onSession_cases sessionId op with h | ⟨session, hget, h⟩
    · simp only [called, h, and_self]
    · simp only [called, h, and_self, and_true]
      exact c.sessions.size_insert_of_get? hget _
  cases call with
  | session => exact hsession ..
  | stream streamId op =>
    rcases c.onStream_cases streamId op with h | ⟨sessionId, session, -, hget, h⟩
    · simp only [perform, h, and_self]
    · simp only [perform, h, and_self, and_true]
      exact c.sessions.size_insert_of_get? hget _
  | adopt sessionId streamId op =>
    have h := hsession sessionId op
    simp only [perform, mapStream]
    split <;> exact h
  | each op => exact ⟨c.sessions.size_map _, rfl, rfl, rfl⟩

end Connection

end PyWebTransport

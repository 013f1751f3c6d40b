import JobWatch.Api.Endpoint

/-!
# Scripted backends

A script says how a backend behaves: replies for each route, taken in order, and streams, taken in
order for each path. A request for which nothing is scripted is answered with HTTP 404 and no body.
Times are milliseconds.
-/

namespace JobWatch.Simulation

/-- A reply, and how long it takes. -/
structure ScriptedReply where
  route : String
  delay : Nat
  reply : Reply

/-- A part of a stream. -/
inductive Part where
  | chunk (bytes : List UInt8)
  /-- The stream ends or breaks down. -/
  | ended

/-- A stream that waits to be opened, with what has been sent on it so far. -/
structure ScriptedStream where
  name : String
  path : String
  delay : Nat
  /-- Whether it can be opened. -/
  outcome : Except ApiError Unit
  parts : List Part

/-- A stream that has been opened by a request. -/
structure OpenStream where
  name : String
  request : Nat
  /-- What has been sent before the opening was complete. -/
  parts : List Part

/-- Everything that is scripted and not used yet. -/
structure Script where
  replies : List ScriptedReply
  streams : List ScriptedStream

namespace Script

def empty : Script := ⟨[], []⟩

/-- What is answered when nothing is scripted. -/
def notFound : ApiError := .http 404 none

def takeReply (s : Script) (route : String) : (Nat × Reply) × Script :=
  match s.replies.find? (·.route == route) with
  | some r => ((r.delay, r.reply), { s with replies := s.replies.eraseP (·.route == route) })
  | none => ((0, .error notFound), s)

def takeStream (s : Script) (path : String) : Option ScriptedStream × Script :=
  match s.streams.find? (·.path == path) with
  | some r => (some r, { s with streams := s.streams.eraseP (·.path == path) })
  | none => (none, s)

end Script

end JobWatch.Simulation

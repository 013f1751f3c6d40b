import JobWatch.Http.Head
import JobWatch.Http.Redirect

/-!
# Exchanges

What comes of a request, and when. The backend is given by its answers, each of which says how long
it takes; times are milliseconds.
-/

namespace JobWatch.Http

/-- An answer, and how it is given. -/
structure Answer extends Head where
  body : List UInt8
  /-- How many octets were promised and are never sent. -/
  missing : Nat
  /-- How long it takes until the answer begins. -/
  delay : Nat
  /-- The parts of a body that is sent bit by bit, each after a time of its own. -/
  parts : Option (List (Nat × List UInt8))
  /-- Whether there is no answer at all. -/
  hangs : Bool
deriving DecidableEq, Repr

/-- A refusal without a body. -/
def Answer.notFound : Answer := ⟨⟨404, []⟩, [], 0, 0, none, false⟩

/-- A body on its way: its parts with their times, and when it ends, in full or not. -/
structure Body where
  parts : List (Nat × List UInt8)
  ends : Nat
  complete : Bool
deriving DecidableEq, Repr

namespace Body

def octets (b : Body) : List UInt8 := b.parts.flatMap (·.2)

/-- Parts that are sent one after the other, from a time on. -/
def ofParts (start : Nat) : List (Nat × List UInt8) → Body
  | [] => ⟨[], start, true⟩
  | (delay, bytes) :: rest =>
    let b := ofParts (start + delay) rest
    { b with parts := (start + delay, bytes) :: b.parts }

/-- The body of an answer that begins at the given time. -/
def ofAnswer (a : Answer) (method : String) (start : Nat) : Body :=
  if a.isBodyless method then ⟨[], start, true⟩
  else
    match a.parts with
    | some parts => ofParts start parts
    | none => ⟨if a.body.isEmpty then [] else [(start, a.body)], start, a.missing = 0⟩

end Body

/-- A request as the backend sees it. -/
structure Seen where
  time : Nat
  request : String
  accept : String
  authorization : Option String
deriving DecidableEq, Repr

/-- A backend that gives each of its answers once. An answer may be for one route only, with the
parameters of the request or without them. -/
structure Backend where
  /-- Whether connections are made at all. -/
  reachable : Bool
  answers : List (Option String × Answer)
deriving DecidableEq, Repr

/-- What comes of a request. -/
inductive Outcome where
  | never
  | failed (time : Nat) (e : ApiError)
  | answered (time : Nat) (a : Answer) (method : String)
deriving DecidableEq, Repr

/-- The route of a request without its parameters. -/
def Outgoing.plainRoute (o : Outgoing) : String := o.method ++ " " ++ String.ofList o.url.path.render

/-- The value of a header without the blanks at its end, as it is received. -/
def receivedValue (s : String) : String :=
  String.ofList (Text.trimEnd (fun c => c == ' ' || c == '\t') s.toList)

/-- The request as the backend sees it. -/
def Outgoing.seen (o : Outgoing) (time : Nat) : Seen :=
  ⟨time, o.route, o.accept, o.authorization.map receivedValue⟩

namespace Backend

/-- The next answer to a request. -/
def take (b : Backend) (o : Outgoing) : Answer × Backend :=
  let isFor (route : Option String) (entry : Option String × Answer) : Bool := entry.1 == route
  match [some o.route, some o.plainRoute, none].find? fun r => b.answers.any (isFor r) with
  | none => (.notFound, b)
  | some r =>
    (((b.answers.find? (isFor r)).map (·.2)).getD .notFound,
      { b with answers := b.answers.eraseP (isFor r) })

/-- Sends a request, and sends it on as often as it may be. -/
def send (b : Backend) (deadline : Option Nat) (authorization : Option String) :
    Nat → Nat → Outgoing → Backend × List Seen × Outcome
  | redirectsLeft, now, o =>
    if b.reachable && o.url.scheme == "http".toList then
      let (a, b) := b.take o
      let start := now + a.delay
      if a.hangs || deadline.any (· < start) then
        (b, [o.seen now], match deadline with
          | some t => .failed t .timeout
          | none => .never)
      else if (a.status < 200 ∧ a.status ≠ 101) ∨ 999 < a.status then
        (b, [o.seen now], .failed start (sendingFailed o.url))
      else
        match redirectsLeft, redirect authorization redirectsLeft o a.status (a.header? "location") with
        | left + 1, .follow next =>
          let (b, seen, outcome) := send b deadline authorization left start next
          (b, o.seen now :: seen, outcome)
        | _, .failed e => (b, [o.seen now], .failed start e)
        | _, _ => (b, [o.seen now], .answered start a o.method)
    else (b, [], .failed now (sendingFailed o.url))

end Backend

/-- The answer to a request and when it is there; nothing if it never is. -/
def Outcome.reply (deadline : Option Nat) : Outcome → Option (Nat × Reply)
  | .never => none
  | .failed time e => some (time, .error e)
  | .answered time a method =>
    let body := Body.ofAnswer a method time
    if deadline.any (· < body.ends) then
      some (deadline.getD 0, .error (if a.isSuccess then .timeout else a.refusal none))
    else if a.isSuccess then
      some (body.ends, if body.complete then .ok body.octets else .error bodyFailed)
    else some (body.ends, .error (a.refusal (if body.complete then some body.octets else none)))

/-- What a stream brings, and when. -/
def Outcome.stream : Outcome → List (Nat × Part)
  | .never => []
  | .failed time e => [(time, .opened (.error e))]
  | .answered time a method =>
    let body := Body.ofAnswer a method time
    if a.isSuccess then
      (time, .opened (.ok ())) :: body.parts.map (fun (t, bytes) => (t, .chunk bytes)) ++
        [(body.ends, .ended (if body.complete then none else some bodyFailed))]
    else [(body.ends, .opened (.error (a.refusal (if body.complete then some body.octets else none))))]

namespace Backend

def request (b : Backend) (c : Client) (now : Nat) (r : Request) :
    Backend × List Seen × Option (Nat × Reply) :=
  let deadline := c.timeout.map (now + ·)
  match c.prepare r anyKind with
  | .error e => (b, [], some (now, .error e))
  | .ok o =>
    let (b, seen, outcome) := b.send deadline o.authorization mostRedirects now o
    (b, seen, outcome.reply deadline)

/-- Opens a stream, from a time on. It may take any time. -/
def openStream (b : Backend) (c : Client) (now : Nat) (r : Request) :
    Backend × List Seen × List (Nat × Part) :=
  match c.prepare r eventStreamKind with
  | .error e => (b, [], [(now, .opened (.error e))])
  | .ok o =>
    let (b, seen, outcome) := b.send none o.authorization mostRedirects now o
    (b, seen, outcome.stream)

end Backend

end JobWatch.Http

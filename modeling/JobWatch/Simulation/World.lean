import JobWatch.Session.Calls
import JobWatch.Simulation.Agenda
import JobWatch.Simulation.Script

/-!
# A session under virtual time

A `World` is a session, a scripted backend and a clock. What is under way, an answer or a timer, is
delivered in the order of time; time moves only when it is told to. Nothing else runs, so that a run
is a function of its actions.
-/

namespace JobWatch.Simulation

/-- A warning that was given: the job and the seconds that remain. -/
structure Notice where
  job : String
  remaining : Int

/-- What has come out of the session since this was last looked at. -/
structure Record where
  /-- The calls of the backend, with their times. -/
  calls : List (Nat × String)
  statusPublished : Bool
  logsPublished : Bool
  previewPublished : Bool
  notices : List Notice
  /-- The results of requests for earlier lines, by request. -/
  loaded : List (Nat × Except ApiError Nat)
  synced : Option Bool

def Record.empty : Record := ⟨[], false, false, false, [], [], none⟩

def Record.note (r : Record) : Session.Output → Record
  | .status (.publish _) => { r with statusPublished := true }
  | .logs (.publish _) => { r with logsPublished := true }
  | .logs (.loaded id added) => { r with loaded := r.loaded ++ [(id, added)] }
  | .preview (.publish _) => { r with previewPublished := true }
  | .preview (.notice job remaining) => { r with notices := r.notices ++ [⟨job, remaining⟩] }
  | .synced started => { r with synced := some started }
  | _ => r

/-- A session, its backend and its clock. -/
structure World where
  now : Nat
  /-- The wall clock at time zero. -/
  epoch : Timestamp
  session : Session
  script : Script
  opened : List OpenStream
  /-- What is under way, in the order in which it set out. -/
  arrivals : List (Arrival Session.Event)
  record : Record

namespace World

def new (epoch : Timestamp) (timing : SessionTiming) : World :=
  ⟨0, epoch, .new timing, .empty, [], [], .empty⟩

def clock (w : World) (t : Nat) : Timestamp := (w.epoch.addMillis? t).getD w.epoch

/-- A request as it is noted down: method, path and parameters. -/
def describe (r : Request) : String :=
  " ".intercalate (r.method :: r.path :: r.query.map fun (k, v) => k ++ "=" ++ v)

/-- Sends a request, whose answer will be the given event. -/
def send (w : World) (r : Request) (event : Reply → Session.Event) : World :=
  let ((delay, reply), script) := w.script.takeReply (r.method ++ " " ++ r.path)
  { w with
    script := script
    arrivals := w.arrivals ++ [⟨w.now + delay, event reply⟩]
    record := { w.record with calls := w.record.calls ++ [(w.now, describe r)] } }

def openStream (w : World) (id : Nat) (r : Request) : World :=
  let (stream, script) := w.script.takeStream r.path
  let w := { w with
    script := script
    record := { w.record with calls := w.record.calls ++ [(w.now, "STREAM " ++ r.path)] } }
  match stream with
  | none =>
    { w with
      arrivals := w.arrivals ++ [⟨w.now, .logs (.opened id (.error Script.notFound))⟩] }
  | some s =>
    { w with
      opened := ⟨s.name, id, s.parts⟩ :: w.opened
      arrivals := w.arrivals ++ [⟨w.now + s.delay, .logs (.opened id s.outcome)⟩] }

/-- Does what the session asks for, and notes down the rest. -/
def take (w : World) (out : Session.Output) : World :=
  match out.request?, out.stream? with
  | some (r, event), _ => w.send r event
  | none, some (id, r) => w.openStream id r
  | none, none => { w with record := w.record.note out }

def deliver (w : World) (e : Session.Event) : World :=
  let (session, out) := w.session.step w.now e
  out.foldl take { w with session := session }

def partEvent (request : Nat) : Part → Session.Event
  | .chunk bytes => .logs (.chunk request bytes)
  | .ended => .logs (.ended request)

/-- Gives an arrival to the session. A stream that has just been opened brings everything that was
sent on it before. -/
def arrive (w : World) (e : Session.Event) : World :=
  let w := w.deliver e
  match e with
  | .logs (.opened id (.ok ())) =>
    match w.opened.find? (·.request == id) with
    | some s =>
      let w := { w with
        opened := w.opened.map fun o => if o.request == id then { o with parts := [] } else o }
      s.parts.foldl (fun w p => w.deliver (partEvent id p)) w
    | none => w
  | _ => w

/-- Lets the next thing happen, if it is due by the given time. -/
def step? (w : World) (limit : Nat) : Option World :=
  (next? w.arrivals (w.session.timers w.clock) limit).map fun (due, event, rest) =>
    { w with now := max w.now due, arrivals := rest }.arrive event

/-- Lets things happen up to the given time, or until nothing is left to wait for. -/
def runWhile (waiting : World → Bool) (limit : Nat) : Nat → World → World
  | 0, w => w
  | fuel + 1, w =>
    if waiting w then
      match w.step? limit with
      | some w => runWhile waiting limit fuel w
      | none => w
    else w

/-- More than everything that can happen up to the given time. In one millisecond each timer fires
once, and a preview is resumed as often as it may be. -/
def events (w : World) (limit : Nat) : Nat :=
  (limit - w.now + 2) * (w.session.preview.timing.resumeMaxAttempts + 8) * 2 +
    4 * w.arrivals.length + 64

/-- Lets everything happen that is due by the given time. -/
def settle (w : World) (limit : Nat) : World :=
  runWhile (fun _ => true) limit (w.events limit) w

def advance (w : World) (ms : Nat) : World :=
  let limit := w.now + ms
  { w.settle limit with now := limit }

/-- Gives an event to the session, and lets everything happen that is due at once. -/
def act (w : World) (e : Session.Event) : World := (w.deliver e).settle w.now

/-- Asks for earlier lines, so many times at once, and waits for the results. -/
def loadEarlier (w : World) (times : Nat) : World × List (Except ApiError Nat) :=
  let first := w.session.logs.requests
  let w := (List.range times).foldl (fun w _ => w.deliver (.logs .loadEarlier)) w
  let ids := (List.range times).map (first + ·)
  let limit := (w.arrivals.map (·.due)).foldl max w.now
  let w := runWhile (fun w => ids.any fun id => (w.record.loaded.find? (·.1 == id)).isNone) limit
    (w.events limit) w
  let w := w.settle w.now
  (w, ids.filterMap fun id => (w.record.loaded.find? (·.1 == id)).map (·.2))

/-! ## Scripting -/

def addReply (w : World) (times : Nat) (r : ScriptedReply) : World :=
  { w with script := { w.script with replies := w.script.replies ++ List.replicate times r } }

/-- Whether somebody reads a stream, or may come to read it. -/
def hasReader (w : World) (name : String) : Bool :=
  w.script.streams.any (·.name == name) ||
    w.opened.any fun o => o.name == name && w.session.logs.isReading o.request

/-- Sends a part on a stream that has a reader; the reader gets it when the stream is open. -/
def sendPart (w : World) (name : String) (part : Part) : World :=
  if w.script.streams.any (·.name == name) then
    { w with script := { w.script with
        streams := w.script.streams.map fun s =>
          if s.name == name then { s with parts := s.parts ++ [part] } else s } }
  else
    match w.opened.find? (·.name == name) with
    | none => w
    | some o =>
      if w.session.logs.isOpening o.request then
        { w with opened := w.opened.map fun p =>
            if p.request == o.request then { p with parts := p.parts ++ [part] } else p }
      else w.act (partEvent o.request part)

/-- Nothing more can be sent on a stream. -/
def forget (w : World) (name : String) : World :=
  { w with
    opened := w.opened.map fun o => if o.name == name then { o with name := "" } else o
    script := { w.script with
      streams := w.script.streams.map fun s => if s.name == name then { s with name := "" } else s } }

def endStream (w : World) (name : String) : World := (w.sendPart name .ended).forget name

def addStream (w : World) (s : ScriptedStream) : World :=
  let w := if s.outcome.isOk then w.endStream s.name else w
  { w with script := { w.script with
      streams := w.script.streams ++ [if s.outcome.isOk then s else { s with name := "" }] } }

/-- What has come out since the last look, and a world that has forgotten it. -/
def look (w : World) : Record × World := (w.record, { w with record := .empty })

end World

end JobWatch.Simulation

import JobWatch.Command.Program
import JobWatch.Http.Exchange
import JobWatch.Simulation.Agenda

/-!
# The program under virtual time

A `Console` is where the program runs without a network: a backend whose answers are known, a clock,
a browser and a user who may want it to stop. Whatever the program asks for is answered at the time
at which it would be answered; time moves on to what happens next.
-/

namespace JobWatch.Simulation

/-- When the user wants the program to stop: so long after so many requests have arrived. -/
structure Patience where
  requests : Nat
  delay : Nat
deriving DecidableEq, Repr

/-- Where the program runs. -/
structure Console where
  now : Nat
  /-- The wall clock at time zero. -/
  epoch : Timestamp
  client : Http.Client
  backend : Http.Backend
  /-- What the browser can open. -/
  canOpen : String → Bool
  patience : Option Patience
  /-- What is under way, in the order in which it set out. -/
  arrivals : List (Arrival Run.Event)
  /-- The requests that the backend sees, some of them in time to come. -/
  seen : List Http.Seen
  said : List Said
  /-- What the browser was told to open. -/
  opened : List String

namespace Console

def clock (c : Console) (t : Nat) : Timestamp := (c.epoch.addMillis? t).getD c.epoch

/-- When the user wants the program to stop, once that is known. -/
def stopTime? (c : Console) : Option Nat :=
  c.patience.bind fun p =>
    if p.requests = 0 then some p.delay
    else (((c.seen.map (·.time)).mergeSort (· ≤ ·))[p.requests - 1]?).map (· + p.delay)

def arrived (c : Console) : List Http.Seen := c.seen.filter (·.time ≤ c.now)

def say (c : Console) (said : List Said) : Console := { c with said := c.said ++ said }

/-! ## Work that asks and waits -/

/-- Work that the user may stop. -/
abbrev Task := ExceptT Ending (StateM Console)

/-- Makes a request and waits for the answer. -/
def ask (r : Request) : Task Reply := do
  let c ← get
  let (backend, seen, reply) := c.backend.request c.client c.now r
  let c := { c with backend := backend, seen := c.seen ++ seen }
  match reply with
  | some (time, reply) =>
    match c.stopTime?.filter (· < time) with
    | some t => set { c with now := t }; throw .stopped
    | none => set { c with now := max c.now time }; return reply
  | none => set c; throw .stopped

/-- Fetches a page of a job's stored log. -/
def askPage (job : String) (limit : Nat) (cursor : Option String) : Task (Except ApiError LogsPage) :=
  return (← ask (.logs job cursor limit)).read

def conclude (report : List Said × Ending) : Task Unit := do
  modify (·.say report.1)
  throw report.2

/-! ## Work that follows a job -/

/-- Sends a request, whose answer will be the given event. -/
def send (c : Console) (r : Request) (event : Reply → Run.Event) : Console :=
  let (backend, seen, reply) := c.backend.request c.client c.now r
  { c with
    backend := backend
    seen := c.seen ++ seen
    arrivals := c.arrivals ++ (reply.map fun (time, reply) => ⟨time, event reply⟩).toList }

def openStream (c : Console) (id : Nat) (r : Request) : Console :=
  let (backend, seen, parts) := c.backend.openStream c.client c.now r
  { c with
    backend := backend
    seen := c.seen ++ seen
    arrivals := c.arrivals ++
      parts.map fun (time, part) => ⟨time, .session (Program.streamEvent id part)⟩ }

/-- Does what a command asks for. -/
def take (c : Console) : Run.Output → Console
  | .ask r => c.send r .answered
  | .tell e => { c with arrivals := c.arrivals ++ [⟨c.now, .session e⟩] }
  | .say s => c.say [s]
  | .browse url => { c with opened := c.opened ++ [url] }
  | .session out =>
    match out.request?, out.stream? with
    | some (r, event), _ => c.send r fun reply => .session (event reply)
    | none, some (id, r) => c.openStream id r
    | none, none => c

/-- Lets a command go on, for so many events at most, until it ends. -/
def goOn : Nat → Run → Console → Console × Option Ending
  | 0, r, c => (c, r.ending?)
  | events + 1, r, c =>
    match r.ending? with
    | some ending => (c, some ending)
    | none =>
      let timers := r.timers c.clock ++ (c.stopTime?.map fun t => (t, Run.Event.interrupted)).toList
      let limit := timers.foldl (fun m t => max m t.1) (c.arrivals.foldl (fun m a => max m a.due) 0)
      match next? c.arrivals timers limit with
      | none => (c, none)
      | some (due, event, arrivals) =>
        let c := { c with now := max c.now due, arrivals := arrivals }
        let (r, out) := r.step c.canOpen c.now event
        goOn events r (out.foldl take c)

def follow (events : Nat) (timing : SessionTiming) (goal : Goal) (job : String) (earlier : Nat) :
    Task Unit := do
  let c ← get
  let (r, out) := Run.start c.canOpen timing c.now goal job earlier
  let (c, ending) := goOn events r (out.foldl take c)
  set c
  throw (ending.getD .stopped)

/-- Does some work, for so many events at most. -/
def perform (events : Nat) (s : Settings) : Work → Task Unit
  | .status job => do
    let reply ← ask (.status job)
    let c ← get
    conclude (Program.statusReport (c.clock c.now) job reply)
  | .storedLogs job pages => do
    let fetched ← LogBuffer.fetchStored (askPage job s.timing.backfillLimit) job pages
    conclude (Program.logReport job fetched)
  | .follow goal job earlier => follow events s.timing.session goal job earlier

def run (c : Console) (events : Nat) (s : Settings) (work : Work) : Console × Ending :=
  match StateT.run (ExceptT.run (perform events s work)) { c with client := Program.client s } with
  | (.ok (), c) => (c, .success)
  | (.error ending, c) => (c, ending)

end Console

end JobWatch.Simulation

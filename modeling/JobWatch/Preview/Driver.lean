import JobWatch.Api.Endpoint
import JobWatch.Preview.State
import JobWatch.Publish.Cell
import JobWatch.Publish.Interval

/-!
# Driving a preview

The driver carries out what the life of a preview asks for. It owns three timers, room for one
request and an inbox for the signals of its host, and turns timers that are due, answers and signals
into events of the machine. A new start tears down everything of the run before.

The driver is a machine itself: `PreviewDriver.step` takes an event at a time. A signal only goes
into the inbox; the driver takes it up in a step of its own. Times are milliseconds of the clock that
drives the timers; the wall clock is read only for the countdown.
-/

namespace JobWatch

namespace PreviewDriver

/-- What a request asks for. -/
inductive Query where
  | check | resume
deriving DecidableEq, Repr

/-- What the host of a preview says to it. -/
inductive Signal where
  /-- The preview is shown. -/
  | markLoaded
  | retry
  | resume
  | reportError (message : String)
deriving DecidableEq, Repr

/-- A signal as an event of the machine. -/
def Signal.event : Signal → PreviewEvent
  | markLoaded => .markLoaded
  | retry => .retry
  | resume => .resumeRequested
  | reportError message => .reportError message

/-- One run: a job, its inbox, its timers and its request. -/
structure Run where
  job : String
  writer : Writer
  /-- The signals that wait to be taken up, in the order in which they came. -/
  inbox : List Signal
  /-- When loading has taken too long. -/
  loadTimeout : Option Nat
  /-- When the remaining time is looked at next. -/
  countdown : Option Nat
  /-- When the sandbox is asked again to resume. -/
  resumeRetry : Option Nat
  /-- The request under way, by number. -/
  inFlight : Option (Nat × Query)
deriving DecidableEq, Repr

/-- What happens to a driver. -/
inductive Event where
  | start (job : String) (params : PreviewParams)
  /-- The sandbox is known to be paused, or not to be. -/
  | setPaused (paused : Bool)
  | dispose
  | markLoaded
  | retry
  | resume
  | reportError (message : String)
  /-- The driver comes to the next signal of its inbox. -/
  | receive
  /-- The timer for loading has come to its end. -/
  | loadTimeout
  /-- The countdown has come to its next tick, by the given wall clock. -/
  | countdown (now : Timestamp)
  /-- The timer for another attempt to resume has come to its end. -/
  | resumeRetry
  /-- The answer to a request. -/
  | reply (request : Nat) (reply : Reply)

/-- What comes out of a driver. -/
inductive Output where
  | request (id : Nat) (query : Query) (job : String)
  | publish (s : PreviewState)
  /-- The sandbox of a job expires soon. -/
  | notice (job : String) (remaining : Int)

end PreviewDriver

/-- A driver. -/
structure PreviewDriver where
  timing : PreviewTiming
  cell : Cell PreviewState
  /-- The job and the parameters of the latest start. -/
  current : Option (String × PreviewParams)
  run : Option PreviewDriver.Run
  /-- The number of requests so far. -/
  requests : Nat

namespace PreviewDriver

def new (timing : PreviewTiming) : PreviewDriver := ⟨timing, Cell.new .empty, none, none, 0⟩

/-- Issues a request, in place of one that may be under way. It counts as issued as soon as it is in
its place, though what the inbox holds may take the place back before anything is sent. -/
def ask (d : PreviewDriver) (r : Run) (query : Query) : PreviewDriver × List Output :=
  ({ d with run := some { r with inFlight := some (d.requests, query) }, requests := d.requests + 1 },
    [.request d.requests query r.job])

/-- Carries out one effect. A countdown with a period of zero cannot be kept and ends the run. -/
def perform (d : PreviewDriver) (now : Nat) (r : Run) : PreviewEffect → PreviewDriver × List Output
  | .checkEligibility => d.ask r .check
  | .requestResume => d.ask r .resume
  | .startLoadTimeout =>
    ({ d with run := some { r with loadTimeout := some (now + d.timing.loadTimeout) } }, [])
  | .cancelLoadTimeout => ({ d with run := some { r with loadTimeout := none } }, [])
  | .startCountdown =>
    if d.timing.countdownTick = 0 then ({ d with run := none }, [])
    else ({ d with run := some { r with countdown := some now } }, [])
  | .stopCountdown => ({ d with run := some { r with countdown := none } }, [])
  | .scheduleResumeRetry =>
    ({ d with run := some { r with resumeRetry := some (now + d.timing.resumeBackoff) } }, [])
  | .cancelAll =>
    ({ d with run := some { r with loadTimeout := none, countdown := none, resumeRetry := none,
                                   inFlight := none } }, [])
  | .expiryWarning remaining => (d, [.notice r.job remaining])

def performAll (d : PreviewDriver) (now : Nat) : List PreviewEffect → PreviewDriver × List Output
  | [] => (d, [])
  | e :: es =>
    match d.run with
    | none => (d, [])
    | some r =>
      let (d, out) := d.perform now r e
      let (d, more) := performAll d now es
      (d, out ++ more)

/-- Starts over with a job. -/
def start (d : PreviewDriver) (now : Nat) (job : String) (params : PreviewParams) :
    PreviewDriver × List Output :=
  let (s, effects) := PreviewState.start job params d.timing
  let (cell, writer) := d.cell.reset s
  let d := { d with
    cell := cell
    current := some (job, params)
    run := some ⟨job, writer, [], none, none, none, none⟩ }
  let (d, out) := d.performAll now effects
  (d, .publish s :: out)

/-- Starts over when the sandbox of the current run is paused and was not, or the other way round. -/
def setPaused (d : PreviewDriver) (now : Nat) (paused : Bool) : PreviewDriver × List Output :=
  match d.current with
  | none => (d, [])
  | some (job, params) =>
    if params.sandboxPaused = paused then (d, [])
    else d.start now job { params with sandboxPaused := paused }

/-- Tears everything down and forgets the job. -/
def dispose (d : PreviewDriver) : PreviewDriver × List Output :=
  ({ d with cell := (d.cell.reset .empty).1, current := none, run := none }, [.publish .empty])

/-- A signal of the host waits in the inbox of the run; without a run it is lost. -/
def send (d : PreviewDriver) (signal : Signal) : PreviewDriver × List Output :=
  match d.run with
  | none => (d, [])
  | some r => ({ d with run := some { r with inbox := r.inbox ++ [signal] } }, [])

/-- What the answer to a request says. -/
def eventOf (query : Query) (reply : Reply) : PreviewEvent :=
  match query with
  | .check =>
    match (reply.read : Except ApiError PreviewCheck) with
    | .ok check => .checkSucceeded check
    | .error e => .checkFailed e
  | .resume =>
    match (reply.read : Except ApiError ResumeResponse) with
    | .ok response => .resumeSucceeded response
    | .error e => .resumeFailed e

/-- What a run takes up, and the run without it: the next signal, a timer that is due, or the answer
that is waited for. -/
def Run.take (r : Run) (timing : PreviewTiming) (now : Nat) : Event → Option (Run × PreviewEvent)
  | .receive =>
    match r.inbox with
    | signal :: rest => some ({ r with inbox := rest }, signal.event)
    | [] => none
  | .loadTimeout =>
    if r.loadTimeout.any (· ≤ now) then some ({ r with loadTimeout := none }, .loadTimedOut) else none
  | .countdown clock =>
    match r.countdown with
    | some due =>
      if due ≤ now then
        some ({ r with countdown := some (nextTick timing.countdownTick due now) },
          .countdownTick clock)
      else none
    | none => none
  | .resumeRetry =>
    if r.resumeRetry.any (· ≤ now) then some ({ r with resumeRetry := none }, .resumeRetryDue)
    else none
  | .reply id reply =>
    match r.inFlight with
    | some (request, query) =>
      if request = id then some ({ r with inFlight := none }, eventOf query reply) else none
    | none => none
  | _ => none

/-- Gives an event of a run to the machine and carries out what it asks for. -/
def apply (d : PreviewDriver) (now : Nat) (r : Run) (event : PreviewEvent) :
    PreviewDriver × List Output :=
  match d.cell.update r.writer (·.apply event) with
  | none => ({ d with run := none }, [])
  | some (cell, effects) =>
    let (d, out) := { d with cell := cell, run := some r }.performAll now effects
    (d, .publish cell.value :: out)

/-- Goes on with a run that has something to take up. -/
def proceed (d : PreviewDriver) (now : Nat) (e : Event) : PreviewDriver × List Output :=
  match d.run with
  | none => (d, [])
  | some r =>
    match r.take d.timing now e with
    | none => (d, [])
    | some (r, event) => d.apply now r event

def step (now : Nat) (d : PreviewDriver) : Event → PreviewDriver × List Output
  | .start job params => d.start now job params
  | .setPaused paused => d.setPaused now paused
  | .dispose => d.dispose
  | .markLoaded => d.send .markLoaded
  | .retry => d.send .retry
  | .resume => d.send .resume
  | .reportError message => d.send (.reportError message)
  | e => d.proceed now e

/-- What the driver is ready for, each event with the time at which it is due: a signal that waits is
due from the beginning, a timer when it comes to its end. -/
def timers (d : PreviewDriver) (clock : Nat → Timestamp) : List (Nat × Event) :=
  match d.run with
  | none => []
  | some r =>
    (r.inbox.head?.map fun _ => (0, Event.receive)).toList ++
    (r.loadTimeout.map fun t => (t, Event.loadTimeout)).toList ++
    (r.countdown.map fun t => (t, Event.countdown (clock t))).toList ++
    (r.resumeRetry.map fun t => (t, Event.resumeRetry)).toList

end PreviewDriver

end JobWatch

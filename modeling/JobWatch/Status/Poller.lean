import JobWatch.Api.Endpoint
import JobWatch.Publish.Cell
import JobWatch.Publish.Interval
import JobWatch.Status.Tracker

/-!
# Polling a job's status

A poller follows the status of one job at a time: it fetches at once, then at regular ticks, and at
once again when its host becomes visible, until the status is final. It has at most one request
under way. A sign of visibility that comes while a request is under way is kept, once, and causes
another request as soon as the answer is there.

The poller is a machine: `Poller.step` takes an event at a time, and gives the new state and what
comes out. Answers carry the number of their request, so that one to a request of an earlier run is
recognised. Times are milliseconds.
-/

namespace JobWatch

/-- How a job is polled. -/
structure PollSettings where
  interval : Nat
  /-- The failures in a row that count as a lost connection. -/
  failureThreshold : Nat
deriving DecidableEq, Repr

/-- The settings where nothing else is said. -/
def PollSettings.standard : PollSettings := ⟨5000, Tracker.defaultThreshold⟩

namespace Poller

/-- What the poller is doing for its job. -/
inductive Stage where
  /-- Waiting for the answer to a request. -/
  | fetching (request : Nat)
  /-- Waiting for the next tick or for visibility. -/
  | waiting
  /-- Nothing; the status is final. -/
  | finished
deriving DecidableEq, Repr

/-- The polling of one job. -/
structure Run where
  job : String
  writer : Writer
  /-- When the next tick is due. -/
  due : Nat
  /-- Whether visibility was signalled and not yet answered by a request. -/
  permit : Bool
  stage : Stage
deriving DecidableEq, Repr

/-- What happens to a poller. -/
inductive Event where
  /-- Follow a job, from now on. -/
  | start (job : String)
  /-- The host has become visible. -/
  | visible
  /-- Stop, and forget the job. -/
  | dispose
  /-- The timer has come to its next tick. -/
  | tick
  /-- The answer to a request. -/
  | reply (request : Nat) (reply : Reply)

/-- What comes out of a poller. -/
inductive Output where
  /-- A request for the status of a job. -/
  | fetch (request : Nat) (job : String)
  | publish (t : Tracker)

end Poller

/-- A poller. -/
structure Poller where
  settings : PollSettings
  cell : Cell Tracker
  run : Option Poller.Run
  /-- The number of requests so far. -/
  requests : Nat

namespace Poller

def new (settings : PollSettings) : Poller :=
  ⟨settings, Cell.new (Tracker.new none settings.failureThreshold), none, 0⟩

/-- Issues the next request of a run. -/
def issue (p : Poller) (r : Run) : Poller × List Output :=
  ({ p with run := some { r with stage := .fetching p.requests }, requests := p.requests + 1 },
    [.fetch p.requests r.job])

/-- Goes on with a run that may issue a request, unless the status is final. -/
def proceed (p : Poller) (r : Run) : Poller × List Output :=
  if p.cell.value.shouldFetch then p.issue r
  else ({ p with run := some { r with stage := .finished } }, [])

/-- Starts over with a job. A poller whose interval is zero keeps no schedule and never fetches. -/
def start (p : Poller) (now : Nat) (job : String) : Poller × List Output :=
  let t := Tracker.new (some job) p.settings.failureThreshold
  let (cell, writer) := p.cell.reset t
  let p := { p with cell := cell, run := none }
  if p.settings.interval = 0 then (p, [.publish t])
  else
    let (p, out) := p.proceed ⟨job, writer, now + p.settings.interval, false, .waiting⟩
    (p, .publish t :: out)

/-- Stops, and forgets the job. -/
def dispose (p : Poller) : Poller × List Output :=
  let t := Tracker.new none p.settings.failureThreshold
  ({ p with cell := (p.cell.reset t).1, run := none }, [.publish t])

/-- The host has become visible: a waiting run fetches at once and counts its interval from now. -/
def visible (p : Poller) (now : Nat) : Poller × List Output :=
  match p.run with
  | none => (p, [])
  | some r =>
    match r.stage with
    | .waiting => p.proceed { r with due := now + p.settings.interval }
    | _ => ({ p with run := some { r with permit := true } }, [])

/-- A tick, if one is due. -/
def tick (p : Poller) (now : Nat) : Poller × List Output :=
  match p.run with
  | none => (p, [])
  | some r =>
    if r.stage = .waiting ∧ r.due ≤ now then
      p.proceed { r with due := nextTick p.settings.interval r.due now }
    else (p, [])

def eventOf (reply : Reply) : StatusEvent :=
  match (reply.read : Except ApiError StatusResponse) with
  | .ok r => .fetched r
  | .error e => .failed e

/-- The answer to the request of a run that is waiting for it. -/
def answered (p : Poller) (now : Nat) (r : Run) (reply : Reply) : Poller × List Output :=
  match p.cell.update r.writer fun t => (t.apply (eventOf reply), ()) with
  | none => ({ p with run := some { r with stage := .finished } }, [])
  | some (cell, _) =>
    let p := { p with cell := cell }
    let (p, out) :=
      if cell.value.isTerminal then ({ p with run := some { r with stage := .finished } }, [])
      else if r.permit then
        p.proceed { r with permit := false, due := now + p.settings.interval }
      else ({ p with run := some { r with stage := .waiting } }, [])
    (p, .publish cell.value :: out)

def step (now : Nat) (p : Poller) : Event → Poller × List Output
  | .start job => p.start now job
  | .visible => p.visible now
  | .dispose => p.dispose
  | .tick => p.tick now
  | .reply id reply =>
    match p.run with
    | some r => if r.stage = .fetching id then p.answered now r reply else (p, [])
    | none => (p, [])

/-- When the timer has to be looked at again. -/
def nextDue (p : Poller) : Option Nat :=
  match p.run with
  | some r => if r.stage = .waiting then some r.due else none
  | none => none

end Poller

end JobWatch

import JobWatch.Logs.Feed
import JobWatch.Preview.Driver
import JobWatch.Status.Poller

/-!
# Watching a job

A session points a poller, a log feed and a preview driver at one job. The three share nothing: the
session hands each of them the job, and starts the preview from the first status that carries one.
`Session.step` takes an event at a time; time is the milliseconds of the clock that drives the
timers.
-/

namespace JobWatch

/-- The timing of a session. -/
structure SessionTiming where
  poll : PollSettings
  preview : PreviewTiming
  /-- The most lines of a page of earlier log lines. -/
  backfillLimit : Nat
deriving DecidableEq, Repr

/-- The timing where nothing else is said. -/
def SessionTiming.standard : SessionTiming := ⟨.standard, .standard, Feed.standardLimit⟩

/-- One watched job. -/
structure Session where
  job : Option String
  status : Poller
  logs : Feed
  preview : PreviewDriver
  /-- Whether the sandbox was paused at the latest start of the preview, if there was one. -/
  previewPaused : Option Bool

namespace Session

/-- What happens to a session. -/
inductive Event where
  /-- Watch another job, or none. -/
  | switchJob (job : Option String)
  /-- Start the preview if the status calls for it. -/
  | syncPreview
  | status (event : Poller.Event)
  | logs (event : Feed.Event)
  | preview (event : PreviewDriver.Event)

/-- What comes out of a session. -/
inductive Output where
  | status (out : Poller.Output)
  | logs (out : Feed.Output)
  | preview (out : PreviewDriver.Output)
  /-- Whether the preview was started or started over. -/
  | synced (started : Bool)

def new (timing : SessionTiming) : Session :=
  ⟨none, .new timing.poll, .new timing.backfillLimit, .new timing.preview, none⟩

def stepStatus (s : Session) (now : Nat) (e : Poller.Event) : Session × List Output :=
  let (status, out) := s.status.step now e
  ({ s with status := status }, out.map .status)

def stepLogs (s : Session) (e : Feed.Event) : Session × List Output :=
  let (logs, out) := s.logs.step e
  ({ s with logs := logs }, out.map .logs)

def stepPreview (s : Session) (now : Nat) (e : PreviewDriver.Event) : Session × List Output :=
  let (preview, out) := s.preview.step now e
  ({ s with preview := preview }, out.map .preview)

/-- Watches another job. Everything that is known of the one before is forgotten. -/
def switchJob (s : Session) (now : Nat) (job : Option String) : Session × List Output :=
  if s.job = job then (s, [])
  else
    let (s, out) := s.stepPreview now .dispose
    let s := { s with previewPaused := none, job := job }
    let (s, more) := s.stepStatus now (match job with | some id => .start id | none => .dispose)
    let (s, rest) := s.stepLogs (match job with | some id => .start id | none => .dispose)
    (s, out ++ more ++ rest)

/-- Whether a status carries a preview. -/
def hasPreview (t : Tracker) : Bool := t.hasData && (t.status == .ready || t.previewUrl.isSome)

/-- What a status tells a preview that starts. -/
def previewParams (t : Tracker) : PreviewParams := ⟨t.previewUrl, t.sandboxExpiresAt, t.sandboxPaused⟩

/-- Starts the preview once the status carries one, and over again when the sandbox is paused and
was not, or the other way round. -/
def syncPreview (s : Session) (now : Nat) : Session × List Output :=
  match s.job with
  | none => (s, [.synced false])
  | some job =>
    let t := s.status.cell.value
    if t.jobId ≠ some job ∨ hasPreview t = false then (s, [.synced false])
    else
      match s.previewPaused with
      | none =>
        let (s, out) := s.stepPreview now (.start job (previewParams t))
        ({ s with previewPaused := some t.sandboxPaused }, out ++ [.synced true])
      | some paused =>
        if paused = t.sandboxPaused then (s, [.synced false])
        else
          let (s, out) := s.stepPreview now (.setPaused t.sandboxPaused)
          ({ s with previewPaused := some t.sandboxPaused }, out ++ [.synced true])

def step (now : Nat) (s : Session) : Event → Session × List Output
  | .switchJob job => s.switchJob now job
  | .syncPreview => s.syncPreview now
  | .status e => s.stepStatus now e
  | .logs e => s.stepLogs e
  | .preview e => s.stepPreview now e

/-- The timers that run, each with its event and the time at which it is due. -/
def timers (s : Session) (clock : Nat → Timestamp) : List (Nat × Event) :=
  (s.status.nextDue.map fun t => (t, Event.status .tick)).toList ++
    (s.preview.timers clock).map fun (t, e) => (t, .preview e)

end Session

end JobWatch

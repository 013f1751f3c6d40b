import JobWatch.Command.LogPrinter
import JobWatch.Command.PreviewHost
import JobWatch.Command.StoredLogs
import JobWatch.Session.Calls

/-!
# Commands about a job

A command about a job runs as a machine: it is given what happens, an answer or a timer of its
session or the wish of the user to stop, and says what it asks of the backend and what it prints.
It looks at the states of its session when one of them is published, and ends when a look says so.

What a look tells the session goes through an inbox: it comes out as `tell`, and comes back as an
event.
-/

namespace JobWatch

/-- What a command follows. -/
inductive Goal where
  | status | logs | watch
  /-- The preview, opened in a browser or not. -/
  | preview (browse : Bool)
deriving DecidableEq, Repr

namespace Run

/-- What a command is doing. -/
inductive Stage where
  /-- It waits for the status that the preview starts from. -/
  | fetchingStatus
  /-- It waits for a page of earlier lines, and then asks for so many more. -/
  | loadingEarlier (more : Nat)
  | following
  | ended (ending : Ending)
deriving DecidableEq, Repr

/-- What happens to a command. -/
inductive Event where
  /-- The answer to the command's own request. -/
  | answered (reply : Reply)
  | session (event : Session.Event)
  /-- The user wants it to stop. -/
  | interrupted

/-- What comes out of a command. -/
inductive Output where
  /-- A request of its own. -/
  | ask (r : Request)
  | session (out : Session.Output)
  /-- Something for the session. -/
  | tell (event : Session.Event)
  | say (s : Said)
  /-- Something that the browser is told to open. -/
  | browse (url : String)

end Run

/-- A command at work. -/
structure Run where
  goal : Goal
  job : String
  session : Session
  printer : LogPrinter
  host : PreviewHost
  /-- Whether the connection was lost at the last look. -/
  offline : Bool
  stage : Run.Stage

namespace Run

def ending? (r : Run) : Option Ending :=
  match r.stage with
  | .ended e => some e
  | _ => none

def finish (r : Run) (said : List Said) (ending : Ending) : Run × List Output :=
  ({ r with stage := .ended ending }, said.map .say)

def pass (r : Run) (now : Nat) (e : Session.Event) : Run × List Session.Output :=
  let (session, out) := r.session.step now e
  ({ r with session := session }, out)

/-- What is said of a job that failed. -/
def jobFailed (job : String) (t : Tracker) : Failure :=
  .plain ("Job " ++ job ++ " failed: " ++ t.error.getD "no error message")

def previewLine (url : Option String) : List Said :=
  (url.map fun u => Said.text ("Preview: " ++ u)).toList

/-! ## Looks -/

def lookStatus (r : Run) : Run × List Output :=
  let t := r.session.status.cell.value
  if t.isTerminal then
    if t.status = .ready then r.finish (.summary true "Build ready" :: previewLine t.previewUrl) .success
    else r.finish [.summary false "Build failed"] (.failure (jobFailed r.job t))
  else (r, [])

def printLog (r : Run) : Run × List Output :=
  let (printer, said) := r.printer.look r.session.logs.cell.value
  ({ r with printer := printer }, said.map .say)

/-- A look at the log, and whether it is over. -/
def lookLogs (r : Run) : Run × List Output :=
  let (r, out) := r.printLog
  match LogPrinter.ending? r.job r.session.logs.cell.value with
  | some (said, ending) =>
    let (r, more) := r.finish said ending
    (r, out ++ more)
  | none => (r, out)

/-- The host's look at the preview. -/
def showPreview (canOpen : String → Bool) (r : Run) : Run × List Output :=
  let (host, reaction) := r.host.look canOpen r.session.preview.cell.value
  ({ r with host := host },
    reaction.opens.map .browse ++ reaction.said.map .say ++
      reaction.signals.map fun e => .tell (.preview e))

/-- A look at the preview, and whether nothing more happens to it. -/
def lookPreview (canOpen : String → Bool) (r : Run) : Run × List Output :=
  let s := r.session.preview.cell.value
  let (r, out) := r.showPreview canOpen
  match PreviewHost.ending? r.job s with
  | some (said, ending) =>
    let (r, more) := r.finish said ending
    (r, out ++ more)
  | none => (r, out)

/-- A look at everything: at the status, from which the preview may start, at the log and at the
preview. It is over when the status is final and the log closed. -/
def lookAll (canOpen : String → Bool) (r : Run) (now : Nat) : Run × List Output :=
  let t := r.session.status.cell.value
  let lost : List Output :=
    if t.connectionFailed && !r.offline then
      [.say (.warning "Lost connection to the build service; still retrying")]
    else []
  let (r, started) := { r with offline := t.connectionFailed }.pass now .syncPreview
  let (r, printed) := r.printLog
  let s := r.session.preview.cell.value
  let (r, shown) := if s.jobId.isSome then r.showPreview canOpen else (r, [])
  let out := lost ++ started.map .session ++ printed ++ shown
  if t.isTerminal && r.session.logs.cell.value.isClosed then
    let (r, more) :=
      if t.status = .failed then
        r.finish [.summary false "Build failed"] (.failure (jobFailed r.job t))
      else
        r.finish (.summary true "Build ready" :: previewLine (s.activePreviewUrl.or t.previewUrl))
          .success
    (r, out ++ more)
  else (r, out)

/-- A look at what the command follows. -/
def look (canOpen : String → Bool) (r : Run) (now : Nat) : Run × List Output :=
  match r.goal with
  | .status => r.lookStatus
  | .logs => r.lookLogs
  | .watch => r.lookAll canOpen now
  | .preview _ => r.lookPreview canOpen

/-! ## Start -/

/-- From now on states are looked at; the first look comes at once. -/
def follow (canOpen : String → Bool) (r : Run) (now : Nat) : Run × List Output :=
  { r with stage := .following }.look canOpen now

/-- Asks for a page of earlier lines, if there are any and pages are left. -/
def loadEarlier (canOpen : String → Bool) (r : Run) (now : Nat) : Nat → Run × List Output
  | 0 => r.follow canOpen now
  | more + 1 =>
    if r.session.logs.cell.value.hasEarlierLines then
      let (r, out) := { r with stage := .loadingEarlier more }.pass now (.logs .loadEarlier)
      (r, out.map .session)
    else r.follow canOpen now

/-- A command that follows something of a job, in a session with the given timing; of its log it
first loads so many pages of earlier lines. -/
def start (canOpen : String → Bool) (timing : SessionTiming) (now : Nat) (goal : Goal) (job : String)
    (earlier : Nat) : Run × List Output :=
  let browse := match goal with
    | .preview browse => browse
    | _ => false
  let r : Run := ⟨goal, job, .new timing, .start, .start browse, false, .following⟩
  let opening (e : Session.Event) (go : Run → Run × List Output) : Run × List Output :=
    let (r, out) := r.pass now e
    let (r, more) := go r
    (r, out.map .session ++ more)
  match goal with
  | .status => opening (.status (.start job)) (·.follow canOpen now)
  | .logs => opening (.logs (.start job)) (·.loadEarlier canOpen now earlier)
  | .watch => opening (.switchJob (some job)) (·.follow canOpen now)
  | .preview _ => ({ r with stage := .fetchingStatus }, [.ask (.status job)])

/-! ## Steps -/

def requestFailed (what : String) (e : ApiError) : Ending := .failure ⟨what, [e.message]⟩

/-- The status that a preview starts from. -/
def startPreview (canOpen : String → Bool) (r : Run) (now : Nat) (reply : Reply) :
    Run × List Output :=
  match (reply.read : Except ApiError StatusResponse) with
  | .error e => r.finish [] (requestFailed ("Failed to fetch status for job " ++ r.job) e)
  | .ok s =>
    if s.previewUrl.isNone && !s.status.isTerminal then
      r.finish [] (.failure (.plain
        ("Job " ++ r.job ++ " has no preview yet (status: " ++ s.status.name ++ ")")))
    else
      let params : PreviewParams := ⟨s.previewUrl, s.sandboxExpiresAt, s.sandboxPaused⟩
      let (r, out) := r.pass now (.preview (.start r.job params))
      let (r, more) := r.follow canOpen now
      (r, out.map .session ++ more)

/-- What is said when the user stops a command. -/
def farewell : Goal → List Said
  | .status => [.summary false "Interrupted"]
  | .logs => []
  | .watch | .preview _ => [.summary true "Stopped"]

/-- What came out of the session, and what the command does about it. -/
def afterSession (canOpen : String → Bool) (r : Run) (now : Nat) (out : List Session.Output) :
    Run × List Output :=
  match r.stage with
  | .loadingEarlier more =>
    match out.findSome? Session.Output.loaded? with
    | some (.ok _) => r.loadEarlier canOpen now more
    | some (.error e) => r.finish [] (requestFailed "Failed to load earlier log lines" e)
    | none => (r, [])
  | .following =>
    let notices := (out.filterMap Session.Output.notice?).map fun s => Output.say (PreviewHost.notice s)
    if out.any (·.isPublication) then
      let (r, more) := r.look canOpen now
      (r, notices ++ more)
    else (r, notices)
  | _ => (r, [])

def step (canOpen : String → Bool) (now : Nat) (r : Run) (e : Event) : Run × List Output :=
  if r.ending?.isSome then (r, [])
  else
    match e with
    | .answered reply =>
      if r.stage = .fetchingStatus then r.startPreview canOpen now reply else (r, [])
    | .session e =>
      let (r, out) := r.pass now e
      let (r, more) := r.afterSession canOpen now out
      (r, out.map .session ++ more)
    | .interrupted =>
      if r.stage = .following then r.finish (farewell r.goal) .success else r.finish [] .stopped

/-- The timers that run, each with its event and the time at which it is due. -/
def timers (r : Run) (clock : Nat → Timestamp) : List (Nat × Event) :=
  (r.session.timers clock).map fun (t, e) => (t, .session e)

end Run

end JobWatch

import JobWatch.Logs.AutoFix
import JobWatch.Logs.StreamEvent

/-!
# Held log lines

What is known of a job's log. Lines enter only at the two ends: live lines are appended in the order
of receipt, pages of earlier lines are put in front in the order of their timestamps. A line id is
held at most once, and what was held stays where it is.
-/

namespace JobWatch

/-- What happens to a log. -/
inductive LogEvent where
  | connected
  | stream (event : StreamEvent)
  | disconnected
  /-- A page of earlier lines. -/
  | backfill (page : LogsPage)
deriving DecidableEq, Repr

/-- The state of a job's log. -/
structure LogBuffer where
  jobId : Option String
  /-- The lines that are held, in order. -/
  lines : List LogLine
  isConnected : Bool
  isDone : Bool
  doneStatus : Option DoneStatus
  hasEarlierLines : Bool
  /-- The id from which the next page goes back. -/
  oldestId : Option String
  autoFixAttempt : Option Nat
  autoFixMax : Option Nat
  /-- The ids of all lines that were taken. -/
  seen : List String
  /-- Whether any page has been taken. -/
  hasBackfilled : Bool
  /-- Whether the stream has ended. -/
  isClosed : Bool
deriving DecidableEq, Repr

namespace LogBuffer

def empty : LogBuffer where
  jobId := none
  lines := []
  isConnected := false
  isDone := false
  doneStatus := none
  hasEarlierLines := false
  oldestId := none
  autoFixAttempt := none
  autoFixMax := none
  seen := []
  hasBackfilled := false
  isClosed := false

/-- The log of a job of which nothing is known yet, so there may be earlier lines. -/
def forJob (job : String) : LogBuffer := { empty with jobId := some job, hasEarlierLines := true }

/-- Where the next page goes back from. -/
def cursor (b : LogBuffer) : Option String := if b.hasBackfilled then b.oldestId else none

/-- The signs of automatic repair in a system line. -/
def noteAutoFix (b : LogBuffer) (text : String) : LogBuffer :=
  match AutoFix.detect text with
  | some (.attempt attempt max) => { b with autoFixAttempt := some attempt, autoFixMax := some max }
  | some .cleared => { b with autoFixAttempt := none, autoFixMax := none }
  | none => b

/-- Appends a live line, unless its id has been taken. -/
def append (b : LogBuffer) (line : LogLine) : LogBuffer :=
  if b.seen.contains line.id then b
  else
    let noted := if line.source = .system then b.noteAutoFix line.text else b
    { noted with lines := b.lines ++ [line], seen := line.id :: b.seen }

/-- An event of the stream; the first end is the last event. -/
def applyStream (b : LogBuffer) (event : StreamEvent) : LogBuffer :=
  if b.isDone then b
  else match event with
    | .heartbeat => b
    | .log line => b.append line
    | .done status => { b with isDone := true, isConnected := false, isClosed := true, doneStatus := status }

/-- The lines whose ids have not been taken, first come first served, and the ids taken then. -/
def takeFresh : List String → List LogLine → List LogLine × List String
  | seen, [] => ([], seen)
  | seen, line :: rest =>
    if seen.contains line.id then takeFresh seen rest
    else
      let (fresh, seen) := takeFresh (line.id :: seen) rest
      (line :: fresh, seen)

/-- Whether a line of a page may stand before the held lines: it is not later than the first. -/
def mayPrecede (b : LogBuffer) (line : LogLine) : Bool :=
  match b.lines with
  | [] => true
  | first :: _ => line.timestamp.le first.timestamp

/-- The lines of a page that are taken, and the ids taken then. -/
def fresh (b : LogBuffer) (page : LogsPage) : List LogLine × List String :=
  takeFresh b.seen (page.lines.filter b.mayPrecede)

/-- Puts a page of earlier lines in front. -/
def prepend (b : LogBuffer) (page : LogsPage) : LogBuffer :=
  let (fresh, seen) := b.fresh page
  let lines := fresh.mergeSort (fun a c => a.timestamp.le c.timestamp) ++ b.lines
  { b with
    lines := lines
    seen := seen
    hasEarlierLines := page.hasMore
    oldestId := (lines.head?.map (·.id)) <|> page.oldestId
    hasBackfilled := true }

def apply (b : LogBuffer) : LogEvent → LogBuffer
  | .connected => if b.isDone then b else { b with isConnected := true }
  | .disconnected => { b with isConnected := false, isClosed := true }
  | .stream event => b.applyStream event
  | .backfill page => b.prepend page

/-- How many lines an event says that it has added. -/
def added (b : LogBuffer) : LogEvent → Nat
  | .stream (.log line) => if b.isDone || b.seen.contains line.id then 0 else 1
  | .backfill page => (b.fresh page).1.length
  | _ => 0

end LogBuffer

end JobWatch

import JobWatch.Time.Timestamp
import JobWatch.Wire.JobStatus

/-!
# Backend messages

The values that the backend of a build service sends: the status of a job, lines of its log and
pages of them, and its answers about the preview.
-/

namespace JobWatch

/-- The status of a job and what is known of its preview. -/
structure StatusResponse where
  status : JobStatus
  stageLabel : String
  previewUrl : Option String
  buildVersion : Option String
  errorMessage : Option String
  debugId : Option String
  sandboxExpiresAt : Option Timestamp
  sandboxPaused : Bool
deriving DecidableEq, Repr

/-- Where a log line was written. -/
inductive LogSource where
  | stdout | stderr | system
deriving DecidableEq, Repr

/-- One line of a build log. -/
structure LogLine where
  id : String
  timestamp : Timestamp
  source : LogSource
  text : String
  phase : Option String
deriving DecidableEq, Repr

/-- Consecutive stored lines. -/
structure LogsPage where
  lines : List LogLine
  hasMore : Bool
  oldestId : Option String
deriving DecidableEq, Repr

/-- How a build ended. -/
inductive DoneStatus where
  | ready | failed
deriving DecidableEq, Repr

/-- Whether the preview can be embedded, and where it is. -/
structure PreviewCheck where
  embeddable : Bool
  previewUrl : String
  reason : Option String
deriving DecidableEq, Repr

/-- A sandbox that runs again. -/
structure ResumeResponse where
  previewUrl : String
  sandboxId : Option String
deriving DecidableEq, Repr

namespace LogSource

def name : LogSource → String
  | stdout => "stdout"
  | stderr => "stderr"
  | system => "system"

def ofName? (s : String) : Option LogSource := [stdout, stderr, system].find? (·.name == s)

@[simp] theorem ofName?_name (s : LogSource) : ofName? s.name = some s := by cases s <;> rfl

end LogSource

namespace DoneStatus

def name : DoneStatus → String
  | ready => "ready"
  | failed => "failed"

def ofName? (s : String) : Option DoneStatus := [ready, failed].find? (·.name == s)

@[simp] theorem ofName?_name (s : DoneStatus) : ofName? s.name = some s := by cases s <;> rfl

end DoneStatus

end JobWatch

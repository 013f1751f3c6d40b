/-!
# Job status

The states that a build job reports. The seven stages of the pipeline, from `queued` to `ready`, are
numbered in order; every other status counts as the first stage.
-/

namespace JobWatch

/-- The status of a build job. -/
inductive JobStatus where
  | queued | starting | scaffold | code | deps | checks | ready
  | failed | scheduled
  /-- A status that this program does not know. -/
  | unknown
deriving DecidableEq, Repr, Inhabited

namespace JobStatus

def name : JobStatus → String
  | queued => "queued"
  | starting => "starting"
  | scaffold => "scaffold"
  | code => "code"
  | deps => "deps"
  | checks => "checks"
  | ready => "ready"
  | failed => "failed"
  | scheduled => "scheduled"
  | unknown => "unknown"

def all : List JobStatus :=
  [queued, starting, scaffold, code, deps, checks, ready, failed, scheduled, unknown]

def ofName? (s : String) : Option JobStatus := all.find? (·.name == s)

/-- The status with the given name; a name of none is the unknown status. -/
def ofNameOrUnknown (s : String) : JobStatus := (ofName? s).getD unknown

def stages : List JobStatus := [queued, starting, scaffold, code, deps, checks, ready]

/-- The place of a status in the pipeline, zero for one that has no place. -/
def stageIndex (s : JobStatus) : Nat := (stages.idxOf? s).getD 0

/-- Whether nothing follows the status. -/
def isTerminal : JobStatus → Bool
  | ready | failed => true
  | _ => false

/-- What is said of a word that is no status. -/
def invalidMessage (s : String) : String := "Invalid job status: " ++ s

@[simp] theorem ofName?_name (s : JobStatus) : ofName? s.name = some s := by cases s <;> rfl

@[simp] theorem ofNameOrUnknown_name (s : JobStatus) : ofNameOrUnknown s.name = s := by
  simp [ofNameOrUnknown]

theorem stageIndex_lt (s : JobStatus) : s.stageIndex < stages.length := by cases s <;> decide

end JobStatus

end JobWatch

import JobWatch.Api.Error

/-!
# Status of a job

What is known of a job from the attempts to fetch its status. A response replaces what was known; a
run of failures is reported as a lost connection when it is long enough; and a status after which
nothing follows is final. The stage, the number of stages and whether the status is final are kept
beside the status and agree with it (`Agrees`).
-/

namespace JobWatch

/-- An attempt to fetch the status. -/
inductive StatusEvent where
  | fetched (response : StatusResponse)
  | failed (error : ApiError)
deriving DecidableEq, Repr

/-- What is known of a job's status. -/
structure Tracker where
  jobId : Option String
  status : JobStatus
  label : String
  previewUrl : Option String
  buildVersion : Option String
  error : Option String
  debugId : Option String
  sandboxExpiresAt : Option Timestamp
  sandboxPaused : Bool
  /-- The stage of the pipeline. -/
  stageIndex : Nat
  totalStages : Nat
  /-- Whether the status is final. -/
  isTerminal : Bool
  connectionFailed : Bool
  /-- Whether any response has come. -/
  hasData : Bool
  /-- The failures since the last response, in a counter of 32 bits. -/
  consecutiveFailures : Nat
  /-- The failures that count as a lost connection. -/
  failureThreshold : Nat
deriving DecidableEq, Repr

namespace Tracker

/-- Nothing is known yet. At least one failure makes a lost connection. -/
def new (job : Option String) (threshold : Nat) : Tracker where
  jobId := job
  status := .queued
  label := ""
  previewUrl := none
  buildVersion := none
  error := none
  debugId := none
  sandboxExpiresAt := none
  sandboxPaused := false
  stageIndex := 0
  totalStages := JobStatus.stages.length
  isTerminal := false
  connectionFailed := false
  hasData := false
  consecutiveFailures := 0
  failureThreshold := max threshold 1

/-- The failures that count as a lost connection where nothing else is said. -/
def defaultThreshold : Nat := 3

/-- Whether another status may be fetched. -/
def shouldFetch (t : Tracker) : Bool := t.jobId.isSome && !t.isTerminal

/-- What an attempt to fetch the status tells. -/
def apply (t : Tracker) (event : StatusEvent) : Tracker :=
  if t.isTerminal then t
  else match event with
    | .fetched r =>
      { t with
        status := r.status
        label := r.stageLabel
        previewUrl := r.previewUrl
        buildVersion := r.buildVersion
        error := r.errorMessage
        debugId := r.debugId
        sandboxExpiresAt := r.sandboxExpiresAt
        sandboxPaused := r.sandboxPaused
        stageIndex := r.status.stageIndex
        isTerminal := r.status.isTerminal
        hasData := true
        consecutiveFailures := 0
        connectionFailed := false }
    | .failed _ =>
      let failures := (t.consecutiveFailures + 1) % 4294967296
      { t with
        consecutiveFailures := failures
        connectionFailed := t.connectionFailed || t.failureThreshold ≤ failures }

/-- What is kept beside the status is what the status says. -/
structure Agrees (t : Tracker) : Prop where
  stageIndex : t.stageIndex = t.status.stageIndex
  totalStages : t.totalStages = JobStatus.stages.length
  isTerminal : t.isTerminal = t.status.isTerminal

theorem agrees_new (job : Option String) (threshold : Nat) : (new job threshold).Agrees :=
  ⟨rfl, rfl, rfl⟩

theorem Agrees.apply {t : Tracker} (h : t.Agrees) (event : StatusEvent) : (t.apply event).Agrees := by
  unfold Tracker.apply
  split
  · exact h
  · cases event with
    | fetched r => exact ⟨rfl, h.totalStages, rfl⟩
    | failed error => exact ⟨h.stageIndex, h.totalStages, h.isTerminal⟩

end Tracker

end JobWatch

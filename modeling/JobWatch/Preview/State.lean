import JobWatch.Api.Error

/-!
# Life of a preview

A preview is checked, loaded and shown until its sandbox expires; a paused sandbox is resumed first.

    checking --embeddable--> loading --loaded--> active --countdown--> expired
       |  \--not embeddable--> blocked
       \--(known to be paused)--> paused --resume--> resuming --ok--> loading
                                                        \--last failure--> resume failed
    any --> error        error, blocked --retry--> checking

The machine touches neither timers nor requests: each event gives the effects that its driver has to
carry out, in order.
-/

namespace JobWatch

/-- The durations and limits of a preview. Durations are in milliseconds. -/
structure PreviewTiming where
  loadTimeout : Nat
  countdownTick : Nat
  /-- The remaining seconds at or below which a warning is due. -/
  expiryWarning : Int
  resumeBackoff : Nat
  /-- How often a sandbox is asked to resume before that counts as failed. -/
  resumeMaxAttempts : Nat
deriving DecidableEq, Repr

/-- The timing where nothing else is said. -/
def PreviewTiming.standard : PreviewTiming := ⟨30000, 30000, 300, 5000, 2⟩

/-- The phase of a preview. -/
inductive PreviewPhase where
  | checking | loading | active | blocked | expired | paused | resuming | resumeFailed | error
deriving DecidableEq, Repr

namespace PreviewPhase

def name : PreviewPhase → String
  | checking => "checking"
  | loading => "loading"
  | active => "active"
  | blocked => "blocked"
  | expired => "expired"
  | paused => "paused"
  | resuming => "resuming"
  | resumeFailed => "resume_failed"
  | error => "error"

def all : List PreviewPhase :=
  [checking, loading, active, blocked, expired, paused, resuming, resumeFailed, error]

def ofName? (s : String) : Option PreviewPhase := all.find? (·.name == s)

instance : Wire PreviewPhase where
  encode p := Json.text p.name
  decode? j := j.constant?.bind ofName?

end PreviewPhase

/-- What is known of a preview when it starts. -/
structure PreviewParams where
  previewUrl : Option String
  sandboxExpiresAt : Option Timestamp
  sandboxPaused : Bool
deriving DecidableEq, Repr

/-- What happens to a preview. -/
inductive PreviewEvent where
  | checkSucceeded (check : PreviewCheck)
  | checkFailed (error : ApiError)
  | loadTimedOut
  /-- The preview is shown. -/
  | markLoaded
  | countdownTick (now : Timestamp)
  | resumeRequested
  | resumeSucceeded (response : ResumeResponse)
  | resumeFailed (error : ApiError)
  | resumeRetryDue
  /-- The user asks to try again. -/
  | retry
  /-- Whoever shows the preview reports a failure. -/
  | reportError (message : String)
deriving DecidableEq, Repr

/-- What has to be done. -/
inductive PreviewEffect where
  | checkEligibility
  | startLoadTimeout | cancelLoadTimeout
  | startCountdown | stopCountdown
  | requestResume | scheduleResumeRetry
  /-- Drop every timer and any request under way. -/
  | cancelAll
  /-- Warn that so many seconds remain. -/
  | expiryWarning (seconds : Int)
deriving DecidableEq, Repr

/-- The state of a preview. -/
structure PreviewState where
  jobId : Option String
  phase : PreviewPhase
  activePreviewUrl : Option String
  blockReason : Option String
  timeRemaining : Option Int
  resumeErrorKind : Option ResumeErrorKind
  errorMessage : Option String
  expiryWarningShown : Bool
  expiresAt : Option Timestamp
  resumeAttempts : Nat
  timing : PreviewTiming
deriving DecidableEq, Repr

namespace PreviewState

def empty : PreviewState where
  jobId := none
  phase := .checking
  activePreviewUrl := none
  blockReason := none
  timeRemaining := none
  resumeErrorKind := none
  errorMessage := none
  expiryWarningShown := false
  expiresAt := none
  resumeAttempts := 0
  timing := .standard

/-- The preview of a job begins paused when its sandbox is, and with a check otherwise. -/
def start (job : String) (params : PreviewParams) (timing : PreviewTiming) :
    PreviewState × List PreviewEffect :=
  ({ empty with
      jobId := some job
      phase := if params.sandboxPaused then .paused else .checking
      activePreviewUrl := params.previewUrl
      expiresAt := params.sandboxExpiresAt
      timing := timing },
    if params.sandboxPaused then [] else [.checkEligibility])

/-- A failure, in whatever phase it comes. -/
def fail (s : PreviewState) (message : String) : PreviewState × List PreviewEffect :=
  ({ s with phase := .error, errorMessage := some message }, [.cancelAll])

/-- The remaining time is looked at. -/
def tick (s : PreviewState) (now : Timestamp) : PreviewState × List PreviewEffect :=
  match s.expiresAt with
  | none => (s, [.stopCountdown])
  | some expires =>
    let remaining := now.secondsUntil expires
    let s := { s with timeRemaining := some (max remaining 0) }
    if remaining ≤ 0 then ({ s with phase := .expired }, [.stopCountdown])
    else if remaining ≤ s.timing.expiryWarning ∧ s.expiryWarningShown = false then
      ({ s with expiryWarningShown := true }, [.expiryWarning remaining])
    else (s, [])

/-- The next phase after a check that succeeded. -/
def checked (s : PreviewState) (check : PreviewCheck) : PreviewState × List PreviewEffect :=
  if check.embeddable then
    ({ s with
        phase := .loading
        activePreviewUrl :=
          if check.previewUrl = "" then s.activePreviewUrl else some check.previewUrl },
      [.startLoadTimeout])
  else ({ s with phase := .blocked, blockReason := check.reason }, [])

/-- What an event does to a preview; an event that the phase does not expect does nothing. -/
def apply (s : PreviewState) (event : PreviewEvent) : PreviewState × List PreviewEffect :=
  match event, s.phase with
  | .reportError message, _ => s.fail message
  | .checkSucceeded check, .checking => s.checked check
  | .checkFailed e, .checking => s.fail ("Preview check failed: " ++ e.message)
  | .loadTimedOut, .loading =>
    s.fail ("Preview did not load within " ++ Text.Decimal.text (s.timing.loadTimeout / 1000) ++ "s")
  | .markLoaded, .loading =>
    ({ s with phase := .active },
      .cancelLoadTimeout :: if s.expiresAt.isSome then [.startCountdown] else [])
  | .countdownTick now, .active => s.tick now
  | .resumeRequested, .paused | .resumeRequested, .resumeFailed =>
    ({ s with phase := .resuming, resumeAttempts := 1, resumeErrorKind := none }, [.requestResume])
  | .resumeSucceeded response, .resuming =>
    ({ s with phase := .loading, activePreviewUrl := some response.previewUrl }, [.startLoadTimeout])
  | .resumeFailed e, .resuming =>
    if s.resumeAttempts < s.timing.resumeMaxAttempts then (s, [.scheduleResumeRetry])
    else ({ s with phase := .resumeFailed, resumeErrorKind := some (.classify e) }, [])
  | .resumeRetryDue, .resuming =>
    ({ s with resumeAttempts := s.resumeAttempts + 1 }, [.requestResume])
  | .retry, .error | .retry, .blocked =>
    ({ s with phase := .checking, blockReason := none, errorMessage := none, timeRemaining := none },
      [.cancelAll, .checkEligibility])
  | _, _ => (s, [])

end PreviewState

end JobWatch

import JobWatch.Preview.State

/-!
# The transitions of a preview

`PreviewState.apply` looks at an event and at the phase. What it does is one of a few transitions,
which `Does` lists with their conditions, with all that they change and with what they ask for. An
invariant of a preview is then a case analysis over `Does`, and what holds of a whole run follows by
induction over the events (`applyAll`, `effects`).
-/

namespace JobWatch

/-- The failure of its own that an event is in a phase, in words. -/
inductive PreviewEvent.FailsWith (s : PreviewState) : PreviewEvent → String → Prop
  | check (e : ApiError) (phase : s.phase = .checking) :
      FailsWith s (.checkFailed e) ("Preview check failed: " ++ e.message)
  | timeout (phase : s.phase = .loading) :
      FailsWith s .loadTimedOut
        ("Preview did not load within " ++ Text.Decimal.text (s.timing.loadTimeout / 1000) ++ "s")
  | report (message : String) : FailsWith s (.reportError message) message

/-- Whether an event has a meaning in a phase. -/
def PreviewEvent.expectedIn : PreviewEvent → PreviewPhase → Bool
  | .reportError _, _ => true
  | .checkSucceeded _, .checking | .checkFailed _, .checking => true
  | .loadTimedOut, .loading | .markLoaded, .loading => true
  | .countdownTick _, .active => true
  | .resumeRequested, .paused | .resumeRequested, .resumeFailed => true
  | .resumeSucceeded _, .resuming | .resumeFailed _, .resuming | .resumeRetryDue, .resuming => true
  | .retry, .error | .retry, .blocked => true
  | _, _ => false

namespace PreviewState

/-- What an event does to a preview: the state after it, and what it asks for. -/
inductive Does (s : PreviewState) : PreviewEvent → PreviewState → List PreviewEffect → Prop
  /-- The preview may be embedded. -/
  | allows (check : PreviewCheck) (phase : s.phase = .checking) (embeddable : check.embeddable) :
      Does s (.checkSucceeded check)
        { s with
          phase := .loading
          activePreviewUrl :=
            if check.previewUrl = "" then s.activePreviewUrl else some check.previewUrl }
        [.startLoadTimeout]
  | blocks (check : PreviewCheck) (phase : s.phase = .checking)
      (refused : check.embeddable = false) :
      Does s (.checkSucceeded check) { s with phase := .blocked, blockReason := check.reason } []
  | fails (event : PreviewEvent) (message : String) (failure : event.FailsWith s message) :
      Does s event { s with phase := .error, errorMessage := some message } [.cancelAll]
  | shows (phase : s.phase = .loading) :
      Does s .markLoaded { s with phase := .active }
        (.cancelLoadTimeout :: if s.expiresAt.isSome then [.startCountdown] else [])
  /-- A look at a preview that is not known to expire. -/
  | lasts (now : Timestamp) (phase : s.phase = .active) (known : s.expiresAt = none) :
      Does s (.countdownTick now) s [.stopCountdown]
  | expires (now expires : Timestamp) (phase : s.phase = .active)
      (known : s.expiresAt = some expires) (elapsed : now.secondsUntil expires ≤ 0) :
      Does s (.countdownTick now) { s with phase := .expired, timeRemaining := some 0 }
        [.stopCountdown]
  /-- The first look at which the time that remains is worth a warning. -/
  | warns (now expires : Timestamp) (phase : s.phase = .active)
      (known : s.expiresAt = some expires) (left : 0 < now.secondsUntil expires)
      (near : now.secondsUntil expires ≤ s.timing.expiryWarning)
      (first : s.expiryWarningShown = false) :
      Does s (.countdownTick now)
        { s with timeRemaining := some (now.secondsUntil expires), expiryWarningShown := true }
        [.expiryWarning (now.secondsUntil expires)]
  | counts (now expires : Timestamp) (phase : s.phase = .active)
      (known : s.expiresAt = some expires) (left : 0 < now.secondsUntil expires)
      (calm : now.secondsUntil expires ≤ s.timing.expiryWarning → s.expiryWarningShown) :
      Does s (.countdownTick now) { s with timeRemaining := some (now.secondsUntil expires) } []
  | resumes (phase : s.phase = .paused ∨ s.phase = .resumeFailed) :
      Does s .resumeRequested
        { s with phase := .resuming, resumeAttempts := 1, resumeErrorKind := none }
        [.requestResume]
  | resumed (response : ResumeResponse) (phase : s.phase = .resuming) :
      Does s (.resumeSucceeded response)
        { s with phase := .loading, activePreviewUrl := some response.previewUrl }
        [.startLoadTimeout]
  | waits (e : ApiError) (phase : s.phase = .resuming)
      (left : s.resumeAttempts < s.timing.resumeMaxAttempts) :
      Does s (.resumeFailed e) s [.scheduleResumeRetry]
  | givesUp (e : ApiError) (phase : s.phase = .resuming)
      (spent : s.timing.resumeMaxAttempts ≤ s.resumeAttempts) :
      Does s (.resumeFailed e)
        { s with phase := .resumeFailed, resumeErrorKind := some (.classify e) } []
  | asksAgain (phase : s.phase = .resuming) :
      Does s .resumeRetryDue { s with resumeAttempts := s.resumeAttempts + 1 } [.requestResume]
  | retries (phase : s.phase = .error ∨ s.phase = .blocked) :
      Does s .retry
        { s with phase := .checking, blockReason := none, errorMessage := none,
                 timeRemaining := none }
        [.cancelAll, .checkEligibility]
  | ignores (event : PreviewEvent) (unexpected : event.expectedIn s.phase = false) :
      Does s event s []

theorem does_checked {s : PreviewState} (hp : s.phase = .checking) (check : PreviewCheck) :
    Does s (.checkSucceeded check) (s.checked check).1 (s.checked check).2 := by
  unfold checked
  split
  next he => exact .allows check hp he
  next he => exact .blocks check hp ((Bool.not_eq_true _).mp he)

theorem does_tick {s : PreviewState} (hp : s.phase = .active) (now : Timestamp) :
    Does s (.countdownTick now) (s.tick now).1 (s.tick now).2 := by
  unfold tick
  split
  next hx => exact .lasts now hp hx
  next expires hx =>
    dsimp only
    split
    next hover =>
      rw [Int.max_eq_right hover]
      exact .expires now expires hp hx hover
    next hleft =>
      have hleft : 0 < now.secondsUntil expires := Int.not_le.1 hleft
      rw [Int.max_eq_left (Int.le_of_lt hleft)]
      split
      next hwarn => exact .warns now expires hp hx hleft hwarn.1 hwarn.2
      next hcalm => exact .counts now expires hp hx hleft fun hnear ↦ by simpa [hnear] using hcalm

/-- Every event does something that is listed. -/
theorem does_apply (s : PreviewState) (event : PreviewEvent) :
    Does s event (s.apply event).1 (s.apply event).2 := by
  unfold apply
  split
  next => exact .fails _ _ (.report _)
  next hp => exact does_checked hp _
  next hp => exact .fails _ _ (.check _ hp)
  next hp => exact .fails _ _ (.timeout hp)
  next hp => exact .shows hp
  next hp => exact does_tick hp _
  next hp => exact .resumes (.inl hp)
  next hp => exact .resumes (.inr hp)
  next hp => exact .resumed _ hp
  next hp =>
    split
    next hleft => exact .waits _ hp hleft
    next hspent => exact .givesUp _ hp (Nat.not_lt.1 hspent)
  next hp => exact .asksAgain hp
  next hp => exact .retries (.inl hp)
  next hp => exact .retries (.inr hp)
  next =>
    refine .ignores _ ?_
    unfold PreviewEvent.expectedIn
    split <;> simp_all

/-! ## Runs -/

def applyAll (s : PreviewState) (es : List PreviewEvent) : PreviewState :=
  es.foldl (fun s e ↦ (s.apply e).1) s

def effects : PreviewState → List PreviewEvent → List PreviewEffect
  | _, [] => []
  | s, e :: es => (s.apply e).2 ++ effects (s.apply e).1 es

section Runs

variable (s : PreviewState) (es fs : List PreviewEvent) (e : PreviewEvent)

@[simp] theorem applyAll_nil : s.applyAll [] = s := rfl

@[simp] theorem applyAll_cons : s.applyAll (e :: es) = (s.apply e).1.applyAll es := rfl

theorem applyAll_append : s.applyAll (es ++ fs) = (s.applyAll es).applyAll fs :=
  List.foldl_append

theorem applyAll_concat : s.applyAll (es ++ [e]) = ((s.applyAll es).apply e).1 :=
  s.applyAll_append es [e]

theorem effects_concat :
    s.effects (es ++ [e]) = s.effects es ++ ((s.applyAll es).apply e).2 := by
  induction es generalizing s with
  | nil => simp [effects]
  | cons x es ih => simp only [List.cons_append, effects, applyAll_cons, ih, List.append_assoc]

/-- What every event keeps, every run keeps. -/
theorem applyAll_of_does {P : PreviewState → Prop}
    (keep : ∀ s e s' effects, Does s e s' effects → P s → P s') {s : PreviewState} (hs : P s)
    (es : List PreviewEvent) : P (s.applyAll es) := by
  induction es generalizing s with
  | nil => exact hs
  | cons e es ih => exact ih (keep s e _ _ (s.does_apply e) hs)

end Runs

end PreviewState

end JobWatch

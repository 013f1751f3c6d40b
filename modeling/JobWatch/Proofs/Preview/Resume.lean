import JobWatch.Proofs.Preview.Resources

/-!
# Asking a sandbox to resume

A signal to resume that is taken up begins an attempt: the sandbox is asked at once, and again some
time after each failure, until it answers, or has failed as often as the timing allows, or the host
reports an error. The phase is `resuming` for as long as that takes.

The machine alone does not bound the requests of an attempt: it counts them, but asks once more
whenever it is told that another one is due. The bound comes from the driver, which tells so once
for each failure. `Attempt` joins the two. It compares the state with what can be seen from outside,
the requests that went out (`posts`) and the failures that came back (`failures`): the count is the
number of requests, and either the last request waits for its answer or the timer is set for a
backoff after the last failure. What a step makes of an attempt is said once, in `Attempt.step`.

The timer may be noticed late, so a request comes a backoff after the failure or later; where no
event comes after the time for which the timer is set, it comes exactly then. The relation between
the two times is a parameter of `Attempt`.
-/

namespace JobWatch

/-- The phases in which the sandbox is not known to run. -/
def PreviewPhase.isSuspended : PreviewPhase → Bool
  | paused | resuming | resumeFailed => true
  | _ => false

/-! ## The machine -/

namespace PreviewState

variable {s : PreviewState} {event : PreviewEvent}

@[simp] theorem timing_tick (s : PreviewState) (now : Timestamp) :
    (s.tick now).1.timing = s.timing := by
  unfold tick
  split
  · rfl
  · dsimp only
    split
    · rfl
    · split <;> rfl

@[simp] theorem timing_checked (s : PreviewState) (check : PreviewCheck) :
    (s.checked check).1.timing = s.timing := by
  unfold checked
  split <;> rfl

/-- A preview keeps its timing. -/
@[simp] theorem timing_apply (s : PreviewState) (event : PreviewEvent) :
    (s.apply event).1.timing = s.timing := by
  unfold apply
  split <;> try rfl
  · exact timing_checked ..
  · exact timing_tick ..
  · split <;> rfl

/-- A look at the remaining time leaves the phase, unless the sandbox has expired. -/
theorem phase_tick (s : PreviewState) (now : Timestamp) :
    (s.tick now).1.phase = s.phase ∨ (s.tick now).1.phase = .expired := by
  unfold tick
  grind

/-- After a check that succeeded the preview loads or is blocked. -/
theorem phase_checked (s : PreviewState) (check : PreviewCheck) :
    (s.checked check).1.phase = .loading ∨ (s.checked check).1.phase = .blocked := by
  unfold checked
  grind

/-- A request to resume is asked for by a signal to resume in a phase that takes it up, and when
another one is due. -/
theorem asks_of_mem (h : .requestResume ∈ (s.apply event).2) :
    event = .resumeRequested ∧ (s.phase = .paused ∨ s.phase = .resumeFailed) ∨
      event = .resumeRetryDue ∧ s.phase = .resuming := by
  cases event with
  | checkSucceeded check =>
    cases hp : s.phase <;> simp [apply, checked, hp] at h
    split at h <;> simp at h
  | countdownTick now =>
    cases hp : s.phase <;> simp [apply, tick, hp] at h
    grind
  | resumeFailed e =>
    cases hp : s.phase <;> simp [apply, hp] at h
    split at h <;> simp at h
  | _ => cases hp : s.phase <;> simp_all [apply, fail]

/-- An attempt to resume begins with a signal. -/
theorem resuming_of_apply (h : (s.apply event).1.phase = .resuming) :
    event = .resumeRequested ∧ (s.phase = .paused ∨ s.phase = .resumeFailed) ∨
      s.phase = .resuming := by
  cases event with
  | checkSucceeded check =>
    have hc := phase_checked s check
    cases hp : s.phase <;> simp_all [apply]
  | countdownTick now =>
    have ht := phase_tick s now
    cases hp : s.phase <;> simp_all [apply]
  | _ => cases hp : s.phase <;> simp_all [apply, fail]

/-- A sandbox that is known to run, or not asked for, is not resumed later. -/
theorem isSuspended_of_apply (h : (s.apply event).1.phase.isSuspended) : s.phase.isSuspended := by
  cases event with
  | checkSucceeded check =>
    have hc := phase_checked s check
    cases hp : s.phase <;> simp_all [apply, PreviewPhase.isSuspended]
    rcases hc with hc | hc <;> simp [hc] at h
  | countdownTick now =>
    have ht := phase_tick s now
    cases hp : s.phase <;> simp_all [apply, PreviewPhase.isSuspended]
    rcases ht with ht | ht <;> simp [ht] at h
  | _ => cases hp : s.phase <;> simp_all [apply, fail, PreviewPhase.isSuspended]

end PreviewState

namespace PreviewDriver

/-! ## What can be seen of an attempt -/

def Output.post? : Output → Option Nat
  | .request id .resume _ => some id
  | _ => none

def posts (out : List (Nat × Output)) : List (Nat × Nat) :=
  out.filterMap fun x ↦ x.2.post?.map (x.1, ·)

/-- The request to resume that waits for its answer. -/
def asked? (d : PreviewDriver) : Option Nat :=
  match d.run.bind (·.inFlight) with
  | some (id, .resume) => some id
  | _ => none

/-- The time for which the timer of another request is set. -/
def retryAt? (d : PreviewDriver) : Option Nat := d.run.bind (·.resumeRetry)

/-- What an event answers to the request to resume that waits. -/
def answer? (d : PreviewDriver) : Event → Option (Except ApiError ResumeResponse)
  | .reply id reply => if d.asked? = some id then some reply.read else none
  | _ => none

/-- The signal that the driver comes to with an event. -/
def signal? (d : PreviewDriver) : Event → Option Signal
  | .receive => d.run.bind (·.inbox.head?)
  | _ => none

/-- Whether an event brings a signal to resume in a phase that takes it up. -/
def Accepts (d : PreviewDriver) (e : Event) : Prop :=
  d.signal? e = some .resume ∧ (d.cell.value.phase = .paused ∨ d.cell.value.phase = .resumeFailed)

/-- The failed requests to resume that a run hears of, each with its time. -/
def failures : PreviewDriver → List (Nat × Event) → List (Nat × ApiError)
  | _, [] => []
  | d, (now, e) :: es =>
    match d.answer? e with
    | some (.error err) => (now, err) :: failures (step now d e).1 es
    | _ => failures (step now d e).1 es

/-- Whether an event lets a run go on that was started with the sandbox paused, or not: it is no
start, no disposal, and no change of that. -/
def Event.Continues (paused : Bool) : Event → Prop
  | .start _ _ | .dispose => False
  | .setPaused p => p = paused
  | _ => True

@[simp] theorem posts_nil : posts [] = [] := rfl

@[simp] theorem posts_append (out more : List (Nat × Output)) :
    posts (out ++ more) = posts out ++ posts more := List.filterMap_append

theorem posts_timed (now : Nat) (out : List Output) :
    posts (out.map (now, ·)) = (out.filterMap Output.post?).map (now, ·) := by
  rw [posts, List.filterMap_map, List.map_filterMap]
  rfl

/-! ## A run that goes on -/

/-- The driver, with its timing, is in the run of a start. -/
structure Started (timing : PreviewTiming) (job : String) (params : PreviewParams)
    (d : PreviewDriver) : Prop where
  settled : Settled d
  current : d.current = some (job, params)
  timing_eq : d.timing = timing
  value_timing_eq : d.cell.value.timing = timing

def hear (d : PreviewDriver) (more : List Signal) : PreviewDriver :=
  { d with run := d.run.map fun r ↦ { r with inbox := r.inbox ++ more } }

section Hear

variable (d : PreviewDriver) (more : List Signal)

@[simp] theorem hear_nil : d.hear [] = d := by simp [hear]

@[simp] theorem cell_hear : (d.hear more).cell = d.cell := rfl

@[simp] theorem asked?_hear : (d.hear more).asked? = d.asked? := by
  cases hr : d.run <;> simp [hear, asked?, hr]

@[simp] theorem retryAt?_hear : (d.hear more).retryAt? = d.retryAt? := by
  cases hr : d.run <;> simp [hear, retryAt?, hr]

/-- A signal that is sent only waits. -/
theorem send_eq_hear (signal : Signal) : d.send signal = (d.hear [signal], []) := by
  cases hr : d.run with
  | none => cases d; simp_all [send, hear]
  | some r => simp [send, hear, hr]

end Hear

variable {timing : PreviewTiming} {job : String} {params : PreviewParams} {d : PreviewDriver}
  {now : Nat} {e : Event}

theorem started_start (d : PreviewDriver) (now : Nat) (job : String) (params : PreviewParams) :
    Started d.timing job params (d.start now job params).1 where
  settled := settled_start d now job params
  current := by simp [start]
  timing_eq := timing_start d now job params
  value_timing_eq := by simp [start, PreviewState.start]

/-- An event brings the driver no signal, no answer and no end of the backoff. -/
structure Unheard (d : PreviewDriver) (now : Nat) (e : Event) : Prop where
  signal : d.signal? e = none
  answer : d.answer? e = none
  early : e = .resumeRetry → ∀ due, d.retryAt? = some due → now < due

theorem unheard_of_lost (h : d.run = none) (now : Nat) (e : Event) : Unheard d now e := by
  refine ⟨?_, ?_, fun _ due hdue ↦ ?_⟩
  · cases e <;> simp [signal?, h]
  · cases e <;> simp [answer?, asked?, h]
  · simp [retryAt?, h] at hdue

theorem unheard_of_take {r : Run} (hr : d.run = some r) (h : r.take d.timing now e = none) :
    Unheard d now e := by
  cases e with
  | receive =>
    refine ⟨?_, rfl, by simp⟩
    cases hi : r.inbox with
    | nil => simp [signal?, hr, hi]
    | cons signal rest => simp [Run.take, hi] at h
  | reply id reply =>
    refine ⟨rfl, ?_, by simp⟩
    have hne : d.asked? ≠ some id := by
      intro hid
      simp only [asked?, hr, Option.bind_some] at hid
      split at hid <;> simp at hid
      next hflight => simp [Run.take, hflight, hid] at h
    simp [answer?, hne]
  | resumeRetry =>
    refine ⟨rfl, rfl, fun _ due hdue ↦ ?_⟩
    have hset : r.resumeRetry = some due := by simpa [retryAt?, hr] using hdue
    simpa [Run.take, hset] using h
  | _ => exact ⟨rfl, rfl, by simp⟩

/-- In a run that goes on, an event that is not taken up is no more than a signal that has to wait.
-/
theorem Started.step_cases (h : Started timing job params d) (he : e.Continues params.sandboxPaused)
    (now : Nat) :
    (∃ more, step now d e = (d.hear more, []) ∧ Unheard d now e) ∨
    ∃ r r' event, d.run = some r ∧ r.take d.timing now e = some (r', event) ∧
      step now d e = d.apply now r' event := by
  cases e with
  | start | dispose => exact he.elim
  | setPaused paused =>
    have hsame : params.sandboxPaused = paused := he.symm
    exact .inl ⟨[], by simp [step, setPaused, h.current, hsame], rfl, rfl, by simp⟩
  | markLoaded | retry | resume | reportError =>
    exact .inl ⟨_, send_eq_hear d _, rfl, rfl, by simp⟩
  | receive | loadTimeout | countdown | resumeRetry | reply =>
    cases hr : d.run with
    | none => exact .inl ⟨[], by simp [step, proceed, hr], unheard_of_lost hr now _⟩
    | some r =>
      cases ht : r.take d.timing now _ with
      | none => exact .inl ⟨[], by simp [step, proceed, hr, ht], unheard_of_take hr ht⟩
      | some taken => exact .inr ⟨r, taken.1, taken.2, rfl, ht, by simp [step, proceed, hr, ht]⟩

@[simp] theorem current_apply (d : PreviewDriver) (now : Nat) (r : Run) (event : PreviewEvent) :
    (d.apply now r event).1.current = d.current := by
  unfold apply
  split <;> simp

/-- A run that takes up an event gives it to the machine. -/
theorem value_apply {r : Run} (h : d.cell.isCurrent r.writer) (event : PreviewEvent) :
    (d.apply now r event).1.cell.value = (d.cell.value.apply event).1 := by
  simp [apply, Cell.update_of_current _ h]

/-- The writer of what a run takes up is that of the cell. -/
theorem Settled.isCurrent_of_take (h : Settled d) {r r' : Run} {event : PreviewEvent}
    (hr : d.run = some r) (ht : r.take d.timing now e = some (r', event)) :
    d.cell.isCurrent r'.writer := by
  obtain ⟨hw, -, -⟩ := Run.take_fits ht (h.fits r hr)
  exact hw ▸ h.isCurrent r hr

theorem Started.step (h : Started timing job params d) (he : e.Continues params.sandboxPaused)
    (now : Nat) : Started timing job params (step now d e).1 := by
  refine ⟨h.settled.step now e, ?_, (timing_step d now e).trans h.timing_eq, ?_⟩
  · rcases h.step_cases he now with ⟨more, hs, -⟩ | ⟨r, r', event, -, -, hs⟩
    · rw [hs]
      exact h.current
    · rw [hs, current_apply]
      exact h.current
  · rcases h.step_cases he now with ⟨more, hs, -⟩ | ⟨r, r', event, hr, ht, hs⟩
    · rw [hs]
      exact h.value_timing_eq
    · rw [hs, value_apply (h.settled.isCurrent_of_take hr ht), PreviewState.timing_apply]
      exact h.value_timing_eq

/-! ## Where requests come from -/

/-- No other effect makes a request to resume. -/
theorem filterMap_post?_perform {r : Run} {effect : PreviewEffect} (h : effect ≠ .requestResume) :
    (d.perform now r effect).2.filterMap Output.post? = [] := by
  cases effect with
  | requestResume => exact absurd rfl h
  | startCountdown =>
    rw [perform]
    split <;> rfl
  | _ => rfl

theorem filterMap_post?_performAll {effects : List PreviewEffect}
    (h : .requestResume ∉ effects) :
    (d.performAll now effects).2.filterMap Output.post? = [] := by
  induction effects generalizing d with
  | nil => rfl
  | cons effect effects ih =>
    have hne : effect ≠ .requestResume := fun heq ↦ h (heq ▸ List.mem_cons_self)
    have hmem : .requestResume ∉ effects := fun hmem ↦ h (List.mem_cons_of_mem _ hmem)
    rw [performAll]
    split
    · rfl
    · simp only [List.filterMap_append, filterMap_post?_perform hne, ih hmem, List.append_nil]

theorem filterMap_post?_apply {r : Run} {event : PreviewEvent}
    (h : .requestResume ∉ (d.cell.value.apply event).2) :
    (d.apply now r event).2.filterMap Output.post? = [] := by
  by_cases hw : d.cell.isCurrent r.writer
  · simp only [apply, Cell.update_of_current _ hw]
    exact filterMap_post?_performAll h
  · have hw : d.cell.isCurrent r.writer = false := by simpa using hw
    simp [apply, Cell.update_of_stale _ hw]

/-- A run takes up a request to resume only as a signal of its inbox. -/
theorem signal?_of_take {r r' : Run} (hr : d.run = some r)
    (h : r.take d.timing now e = some (r', .resumeRequested)) : d.signal? e = some .resume := by
  rcases Run.take_cases h with ⟨signal, rest, rfl, hi, hevent, -⟩ | ⟨_, -, -, -, hevent, -⟩ |
    ⟨_, _, -, -, -, hevent, -⟩ | ⟨_, -, -, -, hevent, -⟩ | ⟨_, query, reply, -, -, hevent, -⟩
  · cases signal with
    | resume => simp [signal?, hr, hi]
    | _ => cases hevent
  · cases hevent
  · cases hevent
  · cases hevent
  · have hphase := phase?_eventOf query reply
    rw [← hevent] at hphase
    cases hphase

/-- Outside an attempt the sandbox is not asked unless a signal to resume is taken up. -/
theorem Started.quiet (h : Started timing job params d) (he : e.Continues params.sandboxPaused)
    (hp : d.cell.value.phase ≠ .resuming) (hn : ¬ d.Accepts e) (now : Nat) :
    (PreviewDriver.step now d e).2.filterMap Output.post? = [] ∧
      (PreviewDriver.step now d e).1.cell.value.phase ≠ .resuming := by
  rcases h.step_cases he now with ⟨more, hs, -⟩ | ⟨r, r', event, hr, ht, hs⟩
  · rw [hs]
    exact ⟨rfl, hp⟩
  · have hw := h.settled.isCurrent_of_take hr ht
    have hsignal : ¬ (event = .resumeRequested ∧
        (d.cell.value.phase = .paused ∨ d.cell.value.phase = .resumeFailed)) := by
      rintro ⟨rfl, hphase⟩
      exact hn ⟨signal?_of_take hr ht, hphase⟩
    rw [hs]
    refine ⟨filterMap_post?_apply fun hmem ↦ ?_, fun hphase ↦ ?_⟩
    · rcases PreviewState.asks_of_mem hmem with hask | ⟨-, hask⟩
      · exact hsignal hask
      · exact hp hask
    · rw [value_apply hw] at hphase
      rcases PreviewState.resuming_of_apply hphase with hask | hask
      · exact hsignal hask
      · exact hp hask

/-- A preview that is not suspended stays so while the run goes on. -/
theorem Started.isSuspended_of_step (h : Started timing job params d)
    (he : e.Continues params.sandboxPaused) {now : Nat}
    (hs : (PreviewDriver.step now d e).1.cell.value.phase.isSuspended) :
    d.cell.value.phase.isSuspended := by
  rcases h.step_cases he now with ⟨more, heq, -⟩ | ⟨r, r', event, hr, ht, heq⟩
  · rw [heq] at hs
    exact hs
  · rw [heq, value_apply (h.settled.isCurrent_of_take hr ht)] at hs
    exact PreviewState.isSuspended_of_apply hs

/-! ## One step of an attempt -/

/-- What an event does to an attempt with so many requests behind it: the driver after the event,
and the requests that go out. -/
inductive Next (timing : PreviewTiming) (n now : Nat) (d : PreviewDriver) (e : Event)
    (d' : PreviewDriver) : List Nat → Prop
  /-- The sandbox runs again. -/
  | succeeds (response : ResumeResponse) (answered : d.answer? e = some (.ok response))
      (loading : d'.cell.value.phase = .loading)
      (url : d'.cell.value.activePreviewUrl = some response.previewUrl) :
      Next timing n now d e d' []
  /-- Another request is due a backoff from now. -/
  | fails (err : ApiError) (answered : d.answer? e = some (.error err))
      (left : n < timing.resumeMaxAttempts) (value : d'.cell.value = d.cell.value)
      (asked : d'.asked? = none) (retryAt : d'.retryAt? = some (now + timing.resumeBackoff)) :
      Next timing n now d e d' []
  /-- The last request has failed. -/
  | givesUp (err : ApiError) (answered : d.answer? e = some (.error err))
      (spent : timing.resumeMaxAttempts ≤ n) (failed : d'.cell.value.phase = .resumeFailed)
      (kind : d'.cell.value.resumeErrorKind = some (.classify err)) : Next timing n now d e d' []
  /-- The backoff is over. -/
  | asks (due : Nat) (timer : e = .resumeRetry) (retryAt : d.retryAt? = some due) (le : due ≤ now)
      (resuming : d'.cell.value.phase = .resuming)
      (count : d'.cell.value.resumeAttempts = d.cell.value.resumeAttempts + 1)
      (asked : d'.asked? = some d.requests) (stopped : d'.retryAt? = none) :
      Next timing n now d e d' [d.requests]
  /-- The host reports an error. -/
  | breaksOff (message : String) (signal : d.signal? e = some (.reportError message))
      (error : d'.cell.value.phase = .error) (text : d'.cell.value.errorMessage = some message) :
      Next timing n now d e d' []
  /-- Anything else leaves the attempt alone, another signal to resume as well. -/
  | stays (answered : d.answer? e = none)
      (signal : ∀ message, d.signal? e ≠ some (.reportError message))
      (early : e = .resumeRetry → ∀ due, d.retryAt? = some due → now < due)
      (value : d'.cell.value = d.cell.value) (asked : d'.asked? = d.asked?)
      (retryAt : d'.retryAt? = d.retryAt?) : Next timing n now d e d' []

/-- What the machine makes of an event without an effect. -/
theorem apply_of_silent {r : Run} {event : PreviewEvent} {s : PreviewState}
    (hw : d.cell.isCurrent r.writer) (h : d.cell.value.apply event = (s, [])) :
    d.apply now r event =
      ({ d with cell := ⟨s, d.cell.epoch, d.cell.version + 1⟩, run := some r }, [.publish s]) := by
  simp [apply, Cell.update_of_current _ hw, h, performAll]

/-- What the machine makes of an event with one effect. -/
theorem apply_of_effect {r : Run} {event : PreviewEvent} {s : PreviewState} {effect : PreviewEffect}
    (hw : d.cell.isCurrent r.writer) (h : d.cell.value.apply event = (s, [effect])) :
    d.apply now r event =
      let x := perform { d with cell := ⟨s, d.cell.epoch, d.cell.version + 1⟩, run := some r } now r
        effect
      (x.1, .publish s :: x.2) := by
  simp [apply, Cell.update_of_current _ hw, h, performAll]

/-- What a run takes up while the sandbox is asked to resume: a signal, the answer that is waited
for, or the end of the backoff. -/
theorem Settled.take_cases (h : Settled d) (hp : d.cell.value.phase = .resuming) {r r' : Run}
    {event : PreviewEvent} (hr : d.run = some r)
    (ht : r.take d.timing now e = some (r', event)) :
    (∃ signal, d.signal? e = some signal ∧ event = signal.event ∧ d.answer? e = none ∧
      e ≠ .resumeRetry ∧ r'.inFlight = r.inFlight ∧ r'.resumeRetry = r.resumeRetry) ∨
    (∃ answer, d.answer? e = some answer ∧ r'.inFlight = none ∧ r'.resumeRetry = r.resumeRetry ∧
      event = match answer with
        | .ok response => .resumeSucceeded response
        | .error err => .resumeFailed err) ∨
    (∃ due, e = .resumeRetry ∧ d.retryAt? = some due ∧ due ≤ now ∧ event = .resumeRetryDue ∧
      r'.inFlight = r.inFlight ∧ r'.resumeRetry = none) := by
  obtain ⟨-, -, hphase⟩ := Run.take_fits ht (h.fits r hr)
  rw [hp] at hphase
  rcases Run.take_cases ht with ⟨signal, rest, rfl, hi, rfl, rfl⟩ | ⟨due, rfl, -, -, rfl, rfl⟩ |
    ⟨clock, due, rfl, -, -, rfl, rfl⟩ | ⟨due, rfl, hset, hle, rfl, rfl⟩ |
    ⟨id, query, reply, rfl, hflight, rfl, rfl⟩
  · exact .inl ⟨signal, by simp [signal?, hr, hi], rfl, rfl, by simp, rfl, rfl⟩
  · exact absurd (hphase (by simp)) (by decide)
  · exact absurd (hphase (by simp)) (by simp [PreviewEvent.phase?])
  · exact .inr (.inr ⟨due, rfl, by simp [retryAt?, hr, hset], hle, rfl, rfl, rfl⟩)
  · rw [phase?_eventOf] at hphase
    cases query with
    | check => exact absurd (hphase (by simp)) (by decide)
    | resume =>
      exact .inr (.inl ⟨reply.read, by simp [answer?, asked?, hr, hflight], rfl, rfl, rfl⟩)

section Take

variable {r r' : Run} (h : Started timing job params d) (hp : d.cell.value.phase = .resuming)
  (hw : d.cell.isCurrent r'.writer)

include hp hw

/-- While the sandbox is asked to resume, an error that the host reports is the only signal that is
not ignored. -/
theorem next_of_signal (hr : d.run = some r) {signal : Signal} (hsignal : d.signal? e = some signal)
    (hanswer : d.answer? e = none) (hne : e ≠ .resumeRetry) (hflight : r'.inFlight = r.inFlight)
    (hretry : r'.resumeRetry = r.resumeRetry) :
    Next timing d.cell.value.resumeAttempts now d e (d.apply now r' signal.event).1
      ((d.apply now r' signal.event).2.filterMap Output.post?) := by
  cases signal with
  | reportError message =>
    have hfail : d.cell.value.apply (.reportError message) =
      ((d.cell.value.fail message).1, [.cancelAll]) := rfl
    simp only [Signal.event, apply_of_effect hw hfail]
    exact .breaksOff message hsignal rfl rfl
  | markLoaded | retry | resume =>
    have hsame : ∀ event, (event = .markLoaded ∨ event = .retry ∨ event = .resumeRequested) →
        d.cell.value.apply event = (d.cell.value, []) := by
      rintro event (rfl | rfl | rfl) <;> simp [PreviewState.apply, hp]
    rw [apply_of_silent hw (hsame _ (by simp [Signal.event]))]
    refine .stays hanswer (by simp [hsignal]) (fun heq ↦ absurd heq hne) rfl ?_ ?_
    · simp [asked?, hr, hflight]
    · simp [retryAt?, hr, hretry]

/-- A success ends the attempt: no request goes out, and the preview loads. -/
theorem next_of_success {response : ResumeResponse} (hanswer : d.answer? e = some (.ok response)) :
    Next timing d.cell.value.resumeAttempts now d e
      (d.apply now r' (.resumeSucceeded response)).1
      ((d.apply now r' (.resumeSucceeded response)).2.filterMap Output.post?) := by
  have hload : d.cell.value.apply (.resumeSucceeded response) =
      ({ d.cell.value with phase := .loading, activePreviewUrl := some response.previewUrl },
        [.startLoadTimeout]) := by simp [PreviewState.apply, hp]
  simp only [apply_of_effect hw hload]
  exact .succeeds response hanswer rfl rfl

include h in
/-- A failure leaves another request to make, or it is the last. -/
theorem next_of_failure {err : ApiError} (hanswer : d.answer? e = some (.error err))
    (hflight : r'.inFlight = none) :
    Next timing d.cell.value.resumeAttempts now d e (d.apply now r' (.resumeFailed err)).1
      ((d.apply now r' (.resumeFailed err)).2.filterMap Output.post?) := by
  by_cases hleft : d.cell.value.resumeAttempts < timing.resumeMaxAttempts
  · have hwait : d.cell.value.apply (.resumeFailed err) =
        (d.cell.value, [.scheduleResumeRetry]) := by
      simp [PreviewState.apply, hp, h.value_timing_eq, hleft]
    simp only [apply_of_effect hw hwait]
    refine .fails err hanswer hleft rfl ?_ ?_
    · simp [perform, asked?, hflight]
    · simp [perform, retryAt?, h.timing_eq]
  · have hgive : d.cell.value.apply (.resumeFailed err) =
        ({ d.cell.value with phase := .resumeFailed, resumeErrorKind := some (.classify err) },
          []) := by
      simp [PreviewState.apply, hp, h.value_timing_eq, hleft]
    simp only [apply_of_silent hw hgive]
    exact .givesUp err hanswer (Nat.le_of_not_lt hleft) rfl rfl

/-- When the timer is due, the next request is made, and counted. -/
theorem next_of_due {due : Nat} (hset : d.retryAt? = some due) (hle : due ≤ now)
    (hretry : r'.resumeRetry = none) :
    Next timing d.cell.value.resumeAttempts now d .resumeRetry
      (d.apply now r' .resumeRetryDue).1
      ((d.apply now r' .resumeRetryDue).2.filterMap Output.post?) := by
  have hask : d.cell.value.apply .resumeRetryDue =
      ({ d.cell.value with resumeAttempts := d.cell.value.resumeAttempts + 1 },
        [.requestResume]) := by simp [PreviewState.apply, hp]
  simp only [apply_of_effect hw hask]
  exact .asks due rfl hset hle hp rfl rfl hretry

end Take

/-- What a step makes of an attempt. -/
theorem Started.next (h : Started timing job params d) (he : e.Continues params.sandboxPaused)
    (hp : d.cell.value.phase = .resuming) (now : Nat) :
    Next timing d.cell.value.resumeAttempts now d e (PreviewDriver.step now d e).1
      ((PreviewDriver.step now d e).2.filterMap Output.post?) := by
  rcases h.step_cases he now with ⟨more, hs, hun⟩ | ⟨r, r', event, hr, ht, hs⟩
  · rw [hs]
    exact .stays hun.answer (by simp [hun.signal]) hun.early rfl (asked?_hear d more)
      (retryAt?_hear d more)
  · have hw := h.settled.isCurrent_of_take hr ht
    rw [hs]
    rcases h.settled.take_cases hp hr ht with
      ⟨signal, hsignal, rfl, hanswer, hne, hflight, hretry⟩ |
      ⟨answer, hanswer, hflight, -, rfl⟩ | ⟨due, rfl, hset, hle, rfl, -, hretry⟩
    · exact next_of_signal hp hw hr hsignal hanswer hne hflight hretry
    · cases answer with
      | ok response => exact next_of_success hp hw hanswer
      | error err => exact next_of_failure h hp hw hanswer hflight
    · exact next_of_due hp hw hset hle hretry

/-- What a signal that is taken up begins. -/
theorem Started.begin (h : Started timing job params d) (ha : d.Accepts e) (now : Nat) :
    (PreviewDriver.step now d e).2.filterMap Output.post? = [d.requests] ∧
      (PreviewDriver.step now d e).1.cell.value.phase = .resuming ∧
      (PreviewDriver.step now d e).1.cell.value.resumeAttempts = 1 ∧
      (PreviewDriver.step now d e).1.asked? = some d.requests ∧
      (PreviewDriver.step now d e).1.retryAt? = none := by
  obtain ⟨hsignal, hp⟩ := ha
  cases e with
  | receive =>
    cases hr : d.run with
    | none => simp [signal?, hr] at hsignal
    | some r =>
      have hinbox : r.inbox.head? = some .resume := by simpa [signal?, hr] using hsignal
      obtain ⟨rest, hi⟩ := List.head?_eq_some_iff.1 hinbox
      have hw : d.cell.isCurrent r.writer := h.settled.isCurrent r hr
      have hidle : r.resources = .idle := by
        have hfits := h.settled.fits r hr
        rcases hp with hp | hp <;> simpa [Resources.Fits, hp] using hfits
      have hstopped : r.resumeRetry = none := by
        have := congrArg Resources.resumeRetry hidle
        simpa [Run.resources, Resources.idle] using this
      have hask : d.cell.value.apply .resumeRequested =
          ({ d.cell.value with phase := .resuming, resumeAttempts := 1, resumeErrorKind := none },
            [.requestResume]) := by
        rcases hp with hp | hp <;> simp [PreviewState.apply, hp]
      have hstep : PreviewDriver.step now d .receive =
          d.apply now { r with inbox := rest } .resumeRequested := by
        simp [PreviewDriver.step, proceed, hr, Run.take, hi, Signal.event]
      rw [hstep, apply_of_effect (r := { r with inbox := rest }) hw hask]
      exact ⟨rfl, rfl, rfl, rfl, hstopped⟩
  | _ => simp [signal?] at hsignal

/-! ## A whole attempt -/

/-- An attempt to resume that is under way. `P` are the requests that went out and `F` the failures
that came back, the latest last; `onTime due now` is what is known of a request that was due at
`due` and went out at `now`. -/
structure Attempt (onTime : Nat → Nat → Prop) (timing : PreviewTiming) (job : String)
    (params : PreviewParams) (d : PreviewDriver) (P : List (Nat × Nat))
    (F : List (Nat × ApiError)) : Prop extends Started timing job params d where
  resuming : d.cell.value.phase = .resuming
  count : d.cell.value.resumeAttempts = P.length
  bounded : P.length ≤ timing.resumeMaxAttempts
  /-- After a failure the next request is due a backoff later. -/
  spaced : ∀ i f p, F[i]? = some f → P[i + 1]? = some p → onTime (f.1 + timing.resumeBackoff) p.1
  /-- Either the last request waits for its answer, or each has failed and another is due. -/
  waits :
    (∃ p, P.getLast? = some p ∧ d.asked? = some p.2 ∧ d.retryAt? = none ∧
      P.length = F.length + 1) ∨
    ∃ f, F.getLast? = some f ∧ d.asked? = none ∧ d.retryAt? = some (f.1 + timing.resumeBackoff) ∧
      P.length = F.length ∧ P.length < timing.resumeMaxAttempts

/-- The sandbox is being asked to resume after every event of a run. -/
def Resuming : PreviewDriver → List (Nat × Event) → Prop :=
  Machine.Along step fun now d e ↦ (step now d e).1.cell.value.phase = .resuming

/-- No event of a run comes after the time for which the timer of another request is set. -/
def Punctual : PreviewDriver → List (Nat × Event) → Prop :=
  Machine.Along step fun now d _ ↦ ∀ due, d.retryAt? = some due → now ≤ due

theorem failures_cons (d : PreviewDriver) (now : Nat) (e : Event) (es : List (Nat × Event)) :
    failures d ((now, e) :: es) = failures d [(now, e)] ++ failures (step now d e).1 es := by
  simp only [failures]
  split <;> rfl

variable {onTime : Nat → Nat → Prop} {P : List (Nat × Nat)} {F : List (Nat × ApiError)}

/-- An attempt begins with one request. -/
theorem Attempt.begin (onTime : Nat → Nat → Prop) (h : Started timing job params d)
    (ha : d.Accepts e) (he : e.Continues params.sandboxPaused) (hm : 1 ≤ timing.resumeMaxAttempts)
    (now : Nat) :
    Attempt onTime timing job params (PreviewDriver.step now d e).1 [(now, d.requests)] [] := by
  obtain ⟨-, hp, hcount, hasked, hretry⟩ := h.begin ha now
  exact ⟨h.step he now, hp, hcount, hm, by simp, .inl ⟨_, rfl, hasked, hretry, rfl⟩⟩

section Step

variable {d' : PreviewDriver} (h : Attempt onTime timing job params d P F)
  (hstarted : Started timing job params d') (hp : d'.cell.value.phase = .resuming)

include h hstarted hp

/-- After a failure that is not the last the timer is set. -/
theorem Attempt.failed {err : ApiError} (hanswer : d.answer? e = some (.error err))
    (hleft : d.cell.value.resumeAttempts < timing.resumeMaxAttempts)
    (hvalue : d'.cell.value = d.cell.value) (hasked : d'.asked? = none)
    (hretry : d'.retryAt? = some (now + timing.resumeBackoff)) :
    Attempt onTime timing job params d' P (F ++ [(now, err)]) := by
  have hlast : P.length = F.length + 1 := by
    rcases h.waits with ⟨-, -, -, -, hlen⟩ | ⟨-, -, hnone, -⟩
    · exact hlen
    · cases e <;> simp [answer?, hnone] at hanswer
  refine ⟨hstarted, hp, by rw [hvalue, h.count], h.bounded, ?_, .inr ?_⟩
  · -- No request follows the failure that has just come.
    intro i f p hf hpost
    have hi : i + 1 < P.length := (List.getElem?_eq_some_iff.1 hpost).1
    rw [List.getElem?_append_left (by omega)] at hf
    exact h.spaced i f p hf hpost
  · exact ⟨(now, err), by simp, hasked, hretry, by simp [hlast], h.count ▸ hleft⟩

/-- When the timer is over another request goes out. -/
theorem Attempt.asked_again {due id : Nat} (hset : d.retryAt? = some due) (htime : onTime due now)
    (hcount : d'.cell.value.resumeAttempts = d.cell.value.resumeAttempts + 1)
    (hasked : d'.asked? = some id) (hstopped : d'.retryAt? = none) :
    Attempt onTime timing job params d' (P ++ [(now, id)]) F := by
  obtain ⟨f, hf, -, hretry, hlen, hleft⟩ := h.waits.resolve_left (by simp [hset])
  have hdue : due = f.1 + timing.resumeBackoff := Option.some.inj (hset.symm.trans hretry)
  have hgrown : (P ++ [(now, id)]).length = P.length + 1 := List.length_append
  refine ⟨hstarted, hp, by rw [hcount, h.count, hgrown], by rw [hgrown]; exact hleft, ?_, .inl ?_⟩
  · intro i f' p hf' hpost
    have hi : i < F.length := (List.getElem?_eq_some_iff.1 hf').1
    by_cases hlast : i + 1 < P.length
    · rw [List.getElem?_append_left hlast] at hpost
      exact h.spaced i f' p hf' hpost
    · -- The new request follows the last failure.
      obtain rfl : i = F.length - 1 := by omega
      rw [← List.getLast?_eq_getElem?, hf] at hf'
      obtain rfl := Option.some.inj hf'
      have hend : F.length - 1 + 1 = P.length := by omega
      rw [hend, List.getElem?_concat_length] at hpost
      obtain rfl := Option.some.inj hpost
      exact hdue ▸ htime
  · exact ⟨_, List.getLast?_concat, hasked, hstopped, by rw [hgrown, hlen]⟩

end Step

/-- What a step that does not end an attempt makes of it. -/
theorem Attempt.step (h : Attempt onTime timing job params d P F)
    (he : e.Continues params.sandboxPaused)
    (hdue : ∀ due, d.retryAt? = some due → due ≤ now → onTime due now)
    (hp : (PreviewDriver.step now d e).1.cell.value.phase = .resuming) :
    Attempt onTime timing job params (PreviewDriver.step now d e).1
      (P ++ posts ((PreviewDriver.step now d e).2.map (now, ·))) (F ++ failures d [(now, e)]) := by
  have hstarted := h.toStarted.step he now
  have hnext := h.toStarted.next he h.resuming now
  rw [posts_timed]
  generalize (PreviewDriver.step now d e).2.filterMap Output.post? = out at hnext
  cases hnext with
  | succeeds _ _ hload => rw [hload] at hp; contradiction
  | givesUp _ _ _ hfailed => rw [hfailed] at hp; contradiction
  | breaksOff _ _ herror => rw [herror] at hp; contradiction
  | stays hanswer _ _ hvalue hasked hretry =>
    have hF : failures d [(now, e)] = [] := by simp [failures, hanswer]
    rw [hF, List.append_nil, List.map_nil, List.append_nil]
    refine ⟨hstarted, hp, by rw [hvalue, h.count], h.bounded, h.spaced, ?_⟩
    rw [hasked, hretry]
    exact h.waits
  | fails err hanswer hleft hvalue hasked hretry =>
    have hF : failures d [(now, e)] = [(now, err)] := by simp [failures, hanswer]
    rw [hF, List.map_nil, List.append_nil]
    exact h.failed hstarted hp hanswer hleft hvalue hasked hretry
  | asks due htimer hset hle _ hcount hasked hstopped =>
    subst htimer
    have hF : failures d [(now, .resumeRetry)] = [] := rfl
    rw [hF, List.append_nil, List.map_singleton]
    exact h.asked_again hstarted hp hset (hdue due hset hle) hcount hasked hstopped

/-- What an attempt has come to after a run in which it does not end. -/
theorem Attempt.run (h : Attempt onTime timing job params d P F) {es : List (Nat × Event)}
    (hes : ∀ x ∈ es, x.2.Continues params.sandboxPaused) (hp : Resuming d es)
    (hdue : Machine.Along PreviewDriver.step (fun now d _ ↦
      ∀ due, d.retryAt? = some due → due ≤ now → onTime due now) d es) :
    Attempt onTime timing job params (Machine.after PreviewDriver.step d es)
      (P ++ posts (Machine.outputs PreviewDriver.step d es)) (F ++ failures d es) := by
  induction es generalizing d P F with
  | nil => simpa [failures] using h
  | cons x es ih =>
    obtain ⟨now, e⟩ := x
    have hstep := h.step (hes _ List.mem_cons_self) hdue.1 hp.1
    have hrest := ih hstep (fun y hy ↦ hes y (List.mem_cons_of_mem _ hy)) hp.2 hdue.2
    rw [Machine.outputs_cons, posts_append, failures_cons, Machine.after_cons, ← List.append_assoc,
      ← List.append_assoc]
    exact hrest

/-! ## Every run -/

section Outside

variable (h : Started timing job params d) {es : List (Nat × Event)}
  (hes : ∀ x ∈ es, x.2.Continues params.sandboxPaused)

include h hes

theorem Started.run : Started timing job params (Machine.after PreviewDriver.step d es) :=
  Machine.after_of_step (fun _ _ _ he h ↦ h.step he _) h hes

/-- Outside an attempt nothing goes out until a signal to resume is taken up. -/
theorem Started.posts_eq_nil (hp : d.cell.value.phase ≠ .resuming)
    (hn : Machine.Along PreviewDriver.step (fun _ d e ↦ ¬ d.Accepts e) d es) :
    posts (Machine.outputs PreviewDriver.step d es) = [] := by
  induction es generalizing d with
  | nil => rfl
  | cons x es ih =>
    obtain ⟨now, e⟩ := x
    have he : e.Continues params.sandboxPaused := hes _ List.mem_cons_self
    obtain ⟨hnone, hphase⟩ := h.quiet he hp hn.1 now
    rw [Machine.outputs_cons, posts_append, posts_timed, hnone,
      ih (h.step he now) (fun y hy ↦ hes y (List.mem_cons_of_mem _ hy)) hphase hn.2]
    rfl

/-- A preview that is not suspended does not take up a signal to resume while the run goes on. -/
theorem Started.along_not_accepts (hp : ¬ d.cell.value.phase.isSuspended) :
    Machine.Along PreviewDriver.step (fun _ d e ↦ ¬ d.Accepts e) d es := by
  induction es generalizing d with
  | nil => trivial
  | cons x es ih =>
    have he : x.2.Continues params.sandboxPaused := hes x List.mem_cons_self
    refine ⟨fun ha ↦ hp ?_, ih (h.step he x.1) (fun y hy ↦ hes y (List.mem_cons_of_mem _ hy)) ?_⟩
    · rcases ha.2 with hphase | hphase <;> simp [hphase, PreviewPhase.isSuspended]
    · exact fun hs ↦ hp (h.isSuspended_of_step he hs)

end Outside

/-- How a run of a driver asks a sandbox to resume, from one start to the next start or disposal.

A signal to resume that is taken up, in phase `paused` or `resumeFailed`, sends a request out at
once and begins an attempt. While the attempt lasts, no more requests go out than the timing allows, none
before the one before it has failed and the backoff is over, and where no event comes after the time
for which the timer is set, exactly then. An attempt ends with an answer, with the failure of the
last request that the timing allows, or with an error that the host reports; another signal to
resume leaves it alone. Outside an attempt no request goes out until a signal is taken up, and none
at all once the preview is not suspended. -/
theorem resume_requests_bounded (d₀ : PreviewDriver) (t₀ : Nat) (job : String)
    (params : PreviewParams) (hm : 1 ≤ d₀.timing.resumeMaxAttempts) {before : List (Nat × Event)}
    (hbefore : ∀ x ∈ before, x.2.Continues params.sandboxPaused) :
    let d := Machine.after step (d₀.start t₀ job params).1 before
    (∀ now e, e.Continues params.sandboxPaused → d.Accepts e →
      let d₁ := (step now d e).1
      posts (Machine.outputs step d [(now, e)]) = [(now, d.requests)] ∧
      ∀ es, (∀ x ∈ es, x.2.Continues params.sandboxPaused) → Resuming d₁ es →
        let P := (now, d.requests) :: posts (Machine.outputs step d₁ es)
        let d₂ := Machine.after step d₁ es
        Attempt (· ≤ ·) d₀.timing job params d₂ P (failures d₁ es) ∧
        (Punctual d₁ es → Attempt (· = ·) d₀.timing job params d₂ P (failures d₁ es)) ∧
        ∀ t e', e'.Continues params.sandboxPaused →
          Next d₀.timing P.length t d₂ e' (step t d₂ e').1
            ((step t d₂ e').2.filterMap Output.post?)) ∧
    ∀ es, (∀ x ∈ es, x.2.Continues params.sandboxPaused) →
      (d.cell.value.phase ≠ .resuming ∧ Machine.Along step (fun _ d e ↦ ¬ d.Accepts e) d es ∨
        ¬ d.cell.value.phase.isSuspended) →
      posts (Machine.outputs step d es) = [] := by
  intro d
  have h : Started d₀.timing job params d := (started_start d₀ t₀ job params).run hbefore
  refine ⟨fun now e he ha ↦ ?_, fun es hes hout ↦ ?_⟩
  · intro d₁
    obtain ⟨hpost, -⟩ := h.begin ha now
    refine ⟨?_, fun es hes hres ↦ ?_⟩
    · rw [Machine.outputs_cons, Machine.outputs_nil, List.append_nil, posts_timed, hpost]
      rfl
    · intro P d₂
      have hlate : Attempt (· ≤ ·) d₀.timing job params d₂ P (failures d₁ es) :=
        (Attempt.begin _ h ha he hm now).run hes hres
          (Machine.along_of_forall (fun _ _ _ _ _ hle ↦ hle) d₁ es)
      refine ⟨hlate, fun hpunctual ↦ ?_, fun t e' he' ↦ ?_⟩
      · have hexact := hpunctual.imp fun now d _ hle due hset hdue ↦
          Nat.le_antisymm hdue (hle due hset)
        exact (Attempt.begin _ h ha he hm now).run hes hres hexact
      · exact hlate.count ▸ hlate.toStarted.next he' hlate.resuming t
  · rcases hout with ⟨hp, hn⟩ | hs
    · exact h.posts_eq_nil hes hp hn
    · have hp : d.cell.value.phase ≠ .resuming := by
        intro hp
        simp [hp, PreviewPhase.isSuspended] at hs
      exact h.posts_eq_nil hes hp (h.along_not_accepts hes hs)

/-- A paused sandbox is asked to resume and does not answer in time, and five seconds after that it
is asked for the second and last time. The next failure is what is said of it. -/
theorem sandbox_given_up_after_second_failure :
    let timing := PreviewTiming.standard
    let params : PreviewParams := ⟨none, none, true⟩
    let d := Machine.after step ((new timing).start 0 "j1" params).1 [(1, .resume)]
    let d₁ := (step 2 d .receive).1
    let es : List (Nat × Event) := [(30002, .reply 0 (.error .timeout)), (35002, .resumeRetry)]
    let d₂ := Machine.after step d₁ es
    1 ≤ timing.resumeMaxAttempts ∧ d.Accepts .receive ∧ Resuming d₁ es ∧ Punctual d₁ es ∧
    Attempt (· = ·) timing "j1" params d₂ [(2, 0), (35002, 1)] [(30002, .timeout)] ∧
    Next timing 2 65002 d₂ (.reply 1 (.error .timeout))
      (step 65002 d₂ (.reply 1 (.error .timeout))).1 [] := by
  intro timing params d d₁ es d₂
  have hm : 1 ≤ timing.resumeMaxAttempts := by decide
  have haccepts : d.Accepts .receive := ⟨by decide +kernel, .inl (by decide +kernel)⟩
  have hresuming : Resuming d₁ es := ⟨by decide +kernel, by decide +kernel, trivial⟩
  have hunset : d₁.retryAt? = none := by decide +kernel
  have hset : (step 30002 d₁ (.reply 0 (.error .timeout))).1.retryAt? = some 35002 := by
    decide +kernel
  have hpunctual : Punctual d₁ es := by
    refine ⟨fun due hdue ↦ ?_, fun due hdue ↦ ?_, trivial⟩
    · rw [hunset] at hdue
      contradiction
    · rw [hset] at hdue
      exact Option.some.inj hdue ▸ Nat.le_refl _
  have hbefore : ∀ x ∈ [((1 : Nat), Event.resume)], x.2.Continues params.sandboxPaused := by
    simp [Event.Continues]
  obtain ⟨accepted, -⟩ := resume_requests_bounded (new timing) 0 "j1" params hm hbefore
  obtain ⟨-, attempt⟩ := accepted 2 .receive trivial haccepts
  obtain ⟨-, onTime, next⟩ := attempt es (by simp [es, Event.Continues]) hresuming
  have hfirst : d.requests = 0 := by decide +kernel
  have hsecond : posts (Machine.outputs step d₁ es) = [(35002, 1)] := by decide +kernel
  have hfailures : failures d₁ es = [(30002, .timeout)] := by decide +kernel
  have hlast : (step 65002 d₂ (.reply 1 (.error .timeout))).2.filterMap Output.post? = [] := by
    decide +kernel
  have honTime := onTime hpunctual
  have hnext := next 65002 (.reply 1 (.error .timeout)) trivial
  rw [hfirst, hsecond, hfailures] at honTime
  rw [hfirst, hsecond, hlast] at hnext
  exact ⟨hm, haccepts, hresuming, hpunctual, honTime, hnext⟩

end PreviewDriver

end JobWatch

import JobWatch.Proofs.Preview.Resume

/-!
# A preview on time

How long a preview loads, and when its remaining time is looked at. A run is on schedule if no event
comes after the time for which a timer is set, and at that time none comes from the host
(`OnSchedule`). Then a preview that begins to load is given up exactly the load timeout later,
unless the host ends the loading before; and a preview that expires is looked at when it is first
shown and after every period of the countdown, until the first look that finds less than a second
left.

Timers are set, replaced and dropped all over the life of a preview, but a stay in a phase knows
only its own: what the phase calls for is all that is set (`Settled`), it is set when the phase is
entered (`loadingUntil?_of_enters`, `nextLook?_of_enters`), and a step that does not leave the phase
leaves it alone, except that a look sets the next one (`Followed.loading_step`,
`Followed.active_step`).
-/

namespace JobWatch

/-- No whole second is left exactly if less than a second is left. -/
theorem Timestamp.secondsUntil_nonpos_iff (a b : Timestamp) :
    a.secondsUntil b ≤ 0 ↔ a.nanosUntil b < 1000000000 := by
  rw [secondsUntil]
  generalize a.nanosUntil b = n
  by_cases hn : 0 ≤ n
  · rw [Int.tdiv_eq_ediv_of_nonneg hn]
    omega
  · have hle : 0 ≤ (-n).tdiv 1000000000 := Int.tdiv_nonneg (by omega) (by decide)
    rw [Int.neg_tdiv] at hle
    omega

/-! ## The machine -/

namespace PreviewState

variable {s : PreviewState} {event : PreviewEvent}

/-- A look does not change when the sandbox expires. -/
@[simp] theorem expiresAt_tick (s : PreviewState) (now : Timestamp) :
    (s.tick now).1.expiresAt = s.expiresAt := by
  unfold tick
  split
  · rfl
  · dsimp only
    split
    · rfl
    · split <;> rfl

/-- A preview starts with a check, or paused. -/
theorem phase_start (job : String) (params : PreviewParams) (timing : PreviewTiming) :
    (start job params timing).1.phase = .checking ∨
      (start job params timing).1.phase = .paused := by
  cases hp : params.sandboxPaused <;> simp [start, hp]

/-- What begins the loading of a preview asks for the timer and nothing else. -/
theorem effects_of_loading (hp : s.phase ≠ .loading) (h : (s.apply event).1.phase = .loading) :
    (s.apply event).2 = [.startLoadTimeout] := by
  cases event with
  | checkSucceeded check =>
    cases hs : s.phase <;> simp_all [apply]
    revert h
    unfold checked
    split <;> simp
  | countdownTick now =>
    have ht := phase_tick s now
    cases hs : s.phase <;> simp_all [apply]
  | resumeFailed e =>
    cases hs : s.phase <;> simp_all [apply]
    split at h <;> simp_all
  | _ => cases hs : s.phase <;> simp_all [apply, fail]

/-- A preview is shown once its host has loaded it. -/
theorem markLoaded_of_active (hp : s.phase ≠ .active) (h : (s.apply event).1.phase = .active) :
    event = .markLoaded ∧ s.phase = .loading := by
  cases event with
  | checkSucceeded check =>
    have hc := phase_checked s check
    cases hs : s.phase <;> simp_all [apply]
  | countdownTick now =>
    have ht := phase_tick s now
    cases hs : s.phase <;> simp_all [apply]
  | resumeFailed e =>
    cases hs : s.phase <;> simp_all [apply]
    split at h <;> simp_all
  | _ => cases hs : s.phase <;> simp_all [apply, fail]

/-- A look either finds that the sandbox has expired, or leaves the preview shown and asks for
nothing that has to do with timers. -/
theorem tick_cases {expires : Timestamp} (hx : s.expiresAt = some expires) (now : Timestamp) :
    (now.nanosUntil expires < 1000000000 ∧ (s.tick now).1.phase = .expired ∧
      (s.tick now).1.timeRemaining = some 0) ∨
    (1000000000 ≤ now.nanosUntil expires ∧ (s.tick now).1.phase = s.phase ∧
      ((s.tick now).2 = [] ∨ ∃ remaining, (s.tick now).2 = [.expiryWarning remaining])) := by
  by_cases hle : now.secondsUntil expires ≤ 0
  · left
    refine ⟨(now.secondsUntil_nonpos_iff expires).1 hle, ?_, ?_⟩
    · simp [tick, hx, hle]
    · simp only [tick, hx, hle, if_true, Int.max_eq_right hle]
  · right
    have hlong : 1000000000 ≤ now.nanosUntil expires := by
      have hshort := mt (now.secondsUntil_nonpos_iff expires).2 hle
      omega
    refine ⟨hlong, ?_⟩
    simp only [tick, hx, hle, if_false]
    split
    · exact ⟨rfl, .inr ⟨_, rfl⟩⟩
    · exact ⟨rfl, .inl rfl⟩

end PreviewState

namespace PreviewDriver

/-! ## Runs on schedule -/

def loadingUntil? (d : PreviewDriver) : Option Nat := d.run.bind (·.loadTimeout)

def nextLook? (d : PreviewDriver) : Option Nat := d.run.bind (·.countdown)

/-- The times for which timers are set. -/
def alarms (d : PreviewDriver) : List Nat :=
  d.loadingUntil?.toList ++ d.nextLook?.toList ++ d.retryAt?.toList

/-- Whether an event comes from the host: a call, or a signal that the driver comes to. -/
def Event.isHost : Event → Bool
  | .start _ _ | .setPaused _ | .dispose => true
  | .markLoaded | .retry | .resume | .reportError _ | .receive => true
  | .loadTimeout | .countdown _ | .resumeRetry | .reply _ _ => false

/-- An event is in time for the timers that are set; `clock` is the wall clock. -/
structure OnTime (clock : Nat → Timestamp) (now : Nat) (d : PreviewDriver) (e : Event) : Prop where
  /-- No timer is noticed late. -/
  punctual : ∀ due ∈ d.alarms, now ≤ due
  /-- The host is silent at the very time for which a timer is set. -/
  apart : now ∈ d.alarms → e.isHost = false
  /-- A look reads the wall clock. -/
  reads : ∀ time, e = .countdown time → time = clock now

/-- Every event of a run is in time. -/
def OnSchedule (clock : Nat → Timestamp) : PreviewDriver → List (Nat × Event) → Prop :=
  Machine.Along step (OnTime clock)

/-- The preview is in a phase after every event of a run. -/
def Stays (phase : PreviewPhase) : PreviewDriver → List (Nat × Event) → Prop :=
  Machine.Along step fun now d e ↦ (step now d e).1.cell.value.phase = phase

/-- Whether an event is a look at the remaining time. -/
def looksAt (d : PreviewDriver) (now : Nat) : Event → Bool
  | .countdown _ => d.nextLook?.any (· ≤ now)
  | _ => false

def looks : PreviewDriver → List (Nat × Event) → List Nat
  | _, [] => []
  | d, (now, e) :: es => (if d.looksAt now e then [now] else []) ++ looks (step now d e).1 es

/-- How the host ends what a preview is doing, whatever it is. -/
inductive Interrupts (d : PreviewDriver) (e : Event) (d' : PreviewDriver) : Prop
  | fails (message : String) (signal : d.signal? e = some (.reportError message))
      (error : d'.cell.value.phase = .error) (text : d'.cell.value.errorMessage = some message)
  | startsOver (job : String) (params : PreviewParams)
      (again : e = .start job params ∨ e = .setPaused params.sandboxPaused)
      (value : d'.cell.value = (PreviewState.start job params d.timing).1)
  | disposes (event : e = .dispose) (value : d'.cell.value = .empty)

/-- How an event ends the loading of a preview, for which there is time until `due`. -/
inductive EndsLoading (due now : Nat) (d : PreviewDriver) (e : Event) (d' : PreviewDriver) : Prop
  | shown (before : now < due) (signal : d.signal? e = some .markLoaded)
      (active : d'.cell.value.phase = .active)
  | interrupted (before : now < due) (host : Interrupts d e d')
  | timesOut (exact : now = due) (timer : e = .loadTimeout)
      (error : d'.cell.value.phase = .error)
      (text : d'.cell.value.errorMessage = some ("Preview did not load within " ++
        Text.Decimal.text (d.timing.loadTimeout / 1000) ++ "s"))

/-- How an event ends the showing of a preview that is looked at next at `due`. -/
inductive EndsShowing (clock : Nat → Timestamp) (expires : Timestamp) (due now : Nat)
    (d : PreviewDriver) (e : Event) (d' : PreviewDriver) : Prop
  | interrupted (before : now < due) (host : Interrupts d e d')
  | expired (exact : now = due) (look : e = .countdown (clock now))
      (short : (clock now).nanosUntil expires < 1000000000)
      (expired : d'.cell.value.phase = .expired) (none : d'.cell.value.timeRemaining = some 0)

/-- What a host says comes before the timers that are set. -/
theorem OnTime.before_of_isHost {clock : Nat → Timestamp} {now due : Nat} {d : PreviewDriver}
    {e : Event} (h : OnTime clock now d e) (hset : due ∈ d.alarms) (hhost : e.isHost) :
    now < due := by
  refine Nat.lt_of_le_of_ne (h.punctual due hset) fun heq ↦ ?_
  rw [h.apart (heq ▸ hset)] at hhost
  contradiction

section Phase

variable {d d' : PreviewDriver} {e : Event} {due now : Nat}

/-- The host leaves a preview neither loading nor shown. -/
theorem Interrupts.phase_ne (h : Interrupts d e d') :
    d'.cell.value.phase ≠ .loading ∧ d'.cell.value.phase ≠ .active := by
  cases h with
  | fails message signal error => simp [error]
  | startsOver job params again value =>
    rw [value]
    rcases PreviewState.phase_start job params d.timing with hstart | hstart <;> simp [hstart]
  | disposes event value => simp [value, PreviewState.empty]

theorem EndsLoading.phase_ne (h : EndsLoading due now d e d') :
    d'.cell.value.phase ≠ .loading := by
  cases h with
  | shown _ _ active => simp [active]
  | interrupted _ host => exact host.phase_ne.1
  | timesOut _ _ error => simp [error]

theorem EndsShowing.phase_ne {clock : Nat → Timestamp} {expires : Timestamp}
    (h : EndsShowing clock expires due now d e d') : d'.cell.value.phase ≠ .active := by
  cases h with
  | interrupted _ host => exact host.phase_ne.2
  | expired _ _ _ expired => simp [expired]

end Phase

section Hear

variable (d : PreviewDriver) (more : List Signal)

@[simp] theorem loadingUntil?_hear : (d.hear more).loadingUntil? = d.loadingUntil? := by
  cases hr : d.run <;> simp [hear, loadingUntil?, hr]

@[simp] theorem nextLook?_hear : (d.hear more).nextLook? = d.nextLook? := by
  cases hr : d.run <;> simp [hear, nextLook?, hr]

end Hear

variable {timing : PreviewTiming} {job : String} {params : PreviewParams} {d : PreviewDriver}
  {now : Nat} {e : Event} {clock : Nat → Timestamp}

/-! ## Taking up an event -/

/-- A look that is due is taken up. -/
theorem looksAt_of_untaken (h : ∀ r, d.run = some r → r.take d.timing now e = none) :
    d.looksAt now e = false := by
  cases e with
  | countdown time =>
    cases hr : d.run with
    | none => simp [looksAt, nextLook?, hr]
    | some r =>
      have huntaken := h r hr
      cases hset : r.countdown with
      | none => simp [looksAt, nextLook?, hr, hset]
      | some due => simpa [looksAt, nextLook?, hr, hset, Run.take] using huntaken
  | _ => rfl

theorem step_of_take {r r' : Run} {event : PreviewEvent} (hr : d.run = some r)
    (h : r.take d.timing now e = some (r', event)) : step now d e = d.apply now r' event := by
  rcases Run.take_cases h with ⟨_, _, rfl, -⟩ | ⟨_, rfl, -⟩ | ⟨_, _, rfl, -⟩ | ⟨_, rfl, -⟩ |
    ⟨_, _, _, rfl, -⟩ <;>
  simp [step, proceed, hr, h]

/-! ## Which run a driver is in -/

/-- The driver, with its timing, follows no job or is in the run of a start. -/
def Followed (timing : PreviewTiming) (d : PreviewDriver) : Prop :=
  d.run = none ∧ d.current = none ∧ d.cell.value = .empty ∧ d.timing = timing ∨
    ∃ job params, Started timing job params d

theorem Followed.timing_eq (h : Followed timing d) : d.timing = timing := by
  rcases h with ⟨-, -, -, ht⟩ | ⟨job, params, h⟩
  · exact ht
  · exact h.timing_eq

theorem Followed.settled (h : Followed timing d) : Settled d := by
  rcases h with ⟨hrun, hcurrent, hvalue, -⟩ | ⟨job, params, h⟩
  · exact ⟨fun r hr ↦ by simp [hrun] at hr, fun r hr ↦ by simp [hrun] at hr,
      fun _ ↦ .inl ⟨hcurrent, hvalue⟩⟩
  · exact h.settled

/-- A preview that is more than being checked is that of a run. -/
theorem Followed.started (h : Followed timing d) (hp : d.cell.value.phase ≠ .checking) :
    ∃ job params, Started timing job params d := by
  refine h.resolve_left ?_
  rintro ⟨-, -, hvalue, -⟩
  exact hp (by rw [hvalue]; rfl)

/-- An event with which a run does not go on starts another one or ends it. -/
theorem Started.starts_or_ends (h : Started timing job params d)
    (he : ¬ e.Continues params.sandboxPaused) (now : Nat) :
    (∃ job' params', (e = .start job' params' ∨ e = .setPaused params'.sandboxPaused) ∧
      PreviewDriver.step now d e = d.start now job' params') ∨
    e = .dispose ∧ PreviewDriver.step now d e = d.dispose := by
  cases e with
  | start job' params' => exact .inl ⟨job', params', .inl rfl, rfl⟩
  | dispose => exact .inr ⟨rfl, rfl⟩
  | setPaused paused =>
    have hother : params.sandboxPaused ≠ paused := fun hsame ↦ he hsame.symm
    refine .inl ⟨job, { params with sandboxPaused := paused }, .inr rfl, ?_⟩
    simp [PreviewDriver.step, setPaused, h.current, hother]
  | _ => exact absurd trivial he

/-- What an event can be to a driver: it is not taken up, the run takes it up, or it starts or ends
a run. -/
theorem Followed.step_outcome (h : Followed timing d) (now : Nat) (e : Event) :
    (∃ more, PreviewDriver.step now d e = (d.hear more, []) ∧
      ∀ r, d.run = some r → r.take d.timing now e = none) ∨
    (∃ r r' event, d.run = some r ∧ r.take d.timing now e = some (r', event) ∧
      PreviewDriver.step now d e = d.apply now r' event) ∨
    (∃ job' params', (e = .start job' params' ∨ e = .setPaused params'.sandboxPaused) ∧
      PreviewDriver.step now d e = d.start now job' params') ∨
    e = .dispose ∧ PreviewDriver.step now d e = d.dispose := by
  rcases h with ⟨hrun, hcurrent, -⟩ | ⟨job, params, h⟩
  · have hlost : ∀ r, d.run = some r → r.take d.timing now e = none := by simp [hrun]
    cases e with
    | start job' params' => exact .inr (.inr (.inl ⟨job', params', .inl rfl, rfl⟩))
    | dispose => exact .inr (.inr (.inr ⟨rfl, rfl⟩))
    | setPaused paused =>
      exact .inl ⟨[], by simp [PreviewDriver.step, setPaused, hcurrent], hlost⟩
    | markLoaded | retry | resume | reportError => exact .inl ⟨_, send_eq_hear d _, hlost⟩
    | receive | loadTimeout | countdown | resumeRetry | reply =>
      exact .inl ⟨[], by simp [PreviewDriver.step, proceed, hrun], hlost⟩
  · by_cases htaken : ∀ r, d.run = some r → r.take d.timing now e = none
    · by_cases he : e.Continues params.sandboxPaused
      · rcases h.step_cases he now with ⟨more, hs, -⟩ | ⟨r, r', event, hr, ht, -⟩
        · exact .inl ⟨more, hs, htaken⟩
        · rw [htaken r hr] at ht
          contradiction
      · exact .inr (.inr (h.starts_or_ends he now))
    · obtain ⟨r, hr, htake⟩ : ∃ r, d.run = some r ∧ r.take d.timing now e ≠ none := by
        simpa using htaken
      obtain ⟨⟨r', event⟩, ht⟩ := Option.ne_none_iff_exists'.1 htake
      exact .inr (.inl ⟨r, r', event, hr, ht, step_of_take hr ht⟩)

@[simp] theorem value_start (d : PreviewDriver) (now : Nat) (job : String)
    (params : PreviewParams) :
    (d.start now job params).1.cell.value = (PreviewState.start job params d.timing).1 := by
  simp [start]

theorem followed_start (d : PreviewDriver) (now : Nat) (job : String) (params : PreviewParams) :
    Followed d.timing (d.start now job params).1 :=
  .inr ⟨job, params, started_start d now job params⟩

theorem followed_dispose (d : PreviewDriver) : Followed d.timing d.dispose.1 :=
  .inl ⟨rfl, rfl, rfl, rfl⟩

/-- Whatever happens, the driver follows no job or is in the run of a start. -/
theorem Followed.step (h : Followed timing d) (now : Nat) (e : Event) :
    Followed timing (PreviewDriver.step now d e).1 := by
  have ht : d.timing = timing := h.timing_eq
  rcases h with ⟨hrun, hcurrent, hvalue, -⟩ | ⟨job, params, h⟩
  · have hsame : Followed timing d := .inl ⟨hrun, hcurrent, hvalue, ht⟩
    cases e with
    | start job params => exact ht ▸ followed_start d now job params
    | dispose => exact ht ▸ followed_dispose d
    | setPaused paused => simpa [PreviewDriver.step, setPaused, hcurrent] using hsame
    | markLoaded | retry | resume | reportError =>
      simpa [PreviewDriver.step, send, hrun] using hsame
    | receive | loadTimeout | countdown | resumeRetry | reply =>
      simpa [PreviewDriver.step, proceed, hrun] using hsame
  · by_cases he : e.Continues params.sandboxPaused
    · exact .inr ⟨job, params, h.step he now⟩
    · rcases h.starts_or_ends he now with ⟨job', params', -, hs⟩ | ⟨-, hs⟩
      · exact ht ▸ hs ▸ followed_start d now job' params'
      · exact ht ▸ hs ▸ followed_dispose d

theorem followed_after (timing : PreviewTiming) (es : List (Nat × Event)) :
    Followed timing (Machine.after PreviewDriver.step (new timing) es) :=
  Machine.after_of_every_step (fun now _ e h ↦ h.step now e) (.inl ⟨rfl, rfl, rfl, rfl⟩) es

/-! ## While a preview loads -/

/-- A phase that no run begins with is entered when a run takes something up. -/
theorem Followed.takes_of_enters {phase : PreviewPhase} (h : Followed timing d)
    (hp : d.cell.value.phase ≠ phase)
    (hp' : (PreviewDriver.step now d e).1.cell.value.phase = phase)
    (hc : phase ≠ .checking) (hs : phase ≠ .paused) :
    ∃ r r' event, d.run = some r ∧ r.take d.timing now e = some (r', event) ∧
      d.cell.isCurrent r'.writer ∧ PreviewDriver.step now d e = d.apply now r' event := by
  rcases h.step_outcome now e with ⟨more, heq, -⟩ | ⟨r, r', event, hr, ht, heq⟩ |
    ⟨job', params', -, heq⟩ | ⟨-, heq⟩
  · rw [heq] at hp'
    exact absurd hp' hp
  · exact ⟨r, r', event, hr, ht, h.settled.isCurrent_of_take hr ht, heq⟩
  · rw [heq, value_start] at hp'
    rcases PreviewState.phase_start job' params' d.timing with hstart | hstart <;> simp_all
  · rw [heq] at hp'
    exact absurd hp'.symm hc

/-- The timer for loading is set when the loading begins. -/
theorem loadingUntil?_of_enters (h : Followed timing d) (hp : d.cell.value.phase ≠ .loading)
    (hp' : (step now d e).1.cell.value.phase = .loading) :
    (step now d e).1.loadingUntil? = some (now + timing.loadTimeout) := by
  obtain ⟨r, r', event, -, -, hw, hs⟩ := h.takes_of_enters hp hp' (by decide) (by decide)
  rw [hs] at hp' ⊢
  rw [value_apply hw] at hp'
  have heffects := PreviewState.effects_of_loading hp hp'
  have happly : d.cell.value.apply event = ((d.cell.value.apply event).1, [.startLoadTimeout]) :=
    Prod.ext rfl heffects
  rw [apply_of_effect hw happly]
  simp [perform, loadingUntil?, h.timing_eq]

section Take

variable {r r' : Run} {due : Nat} (hp : d.cell.value.phase = .loading)
  (hw : d.cell.isCurrent r'.writer)

include hp hw

/-- While a preview loads its host may say that it is shown, or report an error; other signals are
ignored. -/
theorem endsLoading_of_signal {signal : Signal} (hsignal : d.signal? e = some signal)
    (hdue : r'.loadTimeout = some due) (hbefore : now < due) :
    (d.apply now r' signal.event).1.cell.value.phase = .loading ∧
        (d.apply now r' signal.event).1.loadingUntil? = some due ∨
      EndsLoading due now d e (d.apply now r' signal.event).1 := by
  cases signal with
  | markLoaded =>
    right
    refine .shown hbefore hsignal ?_
    rw [value_apply hw]
    simp [PreviewState.apply, hp, Signal.event]
  | reportError message =>
    right
    refine .interrupted hbefore (.fails message hsignal ?_ ?_) <;> rw [value_apply hw] <;> rfl
  | retry | resume =>
    left
    have hsame : ∀ event, (event = .retry ∨ event = .resumeRequested) →
        d.cell.value.apply event = (d.cell.value, []) := by
      rintro event (rfl | rfl) <;> simp [PreviewState.apply, hp]
    rw [apply_of_silent hw (hsame _ (by simp [Signal.event]))]
    exact ⟨hp, hdue⟩

/-- A preview that is not loaded in time is given up. -/
theorem endsLoading_of_timeout (ht : d.cell.value.timing = d.timing) (hexact : now = due) :
    EndsLoading due now d .loadTimeout (d.apply now r' .loadTimedOut).1 := by
  refine .timesOut hexact rfl ?_ ?_ <;> rw [value_apply hw]
  · simp [PreviewState.apply, hp, PreviewState.fail]
  · simp [PreviewState.apply, hp, PreviewState.fail, ht]

end Take

/-- What an event makes of a preview that loads. -/
theorem Followed.loading_step {due : Nat} (h : Followed timing d)
    (hp : d.cell.value.phase = .loading) (hdue : d.loadingUntil? = some due)
    (htime : OnTime clock now d e) :
    now ≤ due ∧
    ((PreviewDriver.step now d e).1.cell.value.phase = .loading ∧
        (PreviewDriver.step now d e).1.loadingUntil? = some due ∨
      EndsLoading due now d e (PreviewDriver.step now d e).1) := by
  have hset : due ∈ d.alarms := by simp [alarms, hdue]
  have hle : now ≤ due := htime.punctual due hset
  have hbefore : e.isHost → now < due := htime.before_of_isHost hset
  refine ⟨hle, ?_⟩
  rcases h.step_outcome now e with ⟨more, hs, -⟩ | ⟨r, r', event, hr, ht, hs⟩ |
    ⟨job', params', hagain, hs⟩ | ⟨rfl, hs⟩
  · left
    rw [hs]
    exact ⟨hp, by simpa using hdue⟩
  · have hw := h.settled.isCurrent_of_take hr ht
    have hphase := (Run.take_fits ht (h.settled.fits r hr)).2.2
    have hdue : r.loadTimeout = some due := by simpa [loadingUntil?, hr] using hdue
    rw [hp] at hphase
    rw [hs]
    rcases Run.take_cases ht with ⟨signal, rest, rfl, hi, rfl, rfl⟩ |
      ⟨due', rfl, hset', hdue', rfl, rfl⟩ | ⟨time, due', rfl, -, -, rfl, -⟩ |
      ⟨due', rfl, -, -, rfl, -⟩ | ⟨id, query, reply, rfl, -, rfl, -⟩
    · exact endsLoading_of_signal hp hw (by simp [signal?, hr, hi]) hdue (hbefore rfl)
    · obtain rfl : due = due' := Option.some.inj (hdue.symm.trans hset')
      obtain ⟨job, params, hstarted⟩ := h.started (by simp [hp])
      have htiming := hstarted.value_timing_eq.trans hstarted.timing_eq.symm
      exact .inr (endsLoading_of_timeout hp hw htiming (Nat.le_antisymm hle hdue'))
    · exact absurd (hphase (by simp)) (by simp [PreviewEvent.phase?])
    · exact absurd (hphase (by simp)) (by simp [PreviewEvent.phase?])
    · rw [phase?_eventOf] at hphase
      exact absurd (hphase (by simp)) (by cases query <;> simp [Query.phase])
  · right
    refine .interrupted (hbefore ?_) (.startsOver job' params' hagain ?_)
    · rcases hagain with rfl | rfl <;> rfl
    · rw [hs, value_start]
  · right
    exact .interrupted (hbefore rfl) (.disposes rfl (by rw [hs]; rfl))

/-! ## While a preview is shown -/

/-- How an event leaves a preview shown that is looked at next at `due`. -/
inductive KeepsShowing (clock : Nat → Timestamp) (expires : Timestamp) (due now : Nat)
    (d : PreviewDriver) (e : Event) (d' : PreviewDriver) : Prop
  | untouched (quiet : d.looksAt now e = false) (next : d'.nextLook? = some due)
  | looked (exact : now = due) (look : d.looksAt now e = true)
      (long : 1000000000 ≤ (clock now).nanosUntil expires)
      (next : d'.nextLook? = some (due + d.timing.countdownTick))

/-- The first look comes when the preview is shown. -/
theorem nextLook?_of_enters (h : Followed timing d) (htick : 0 < timing.countdownTick)
    (hp : d.cell.value.phase ≠ .active) (hp' : (step now d e).1.cell.value.phase = .active)
    (hx : (step now d e).1.cell.value.expiresAt.isSome) :
    (step now d e).1.nextLook? = some now := by
  obtain ⟨r, r', event, -, -, hw, hs⟩ := h.takes_of_enters hp hp' (by decide) (by decide)
  rw [hs] at hp' hx ⊢
  rw [value_apply hw] at hp' hx
  obtain ⟨rfl, hloading⟩ := PreviewState.markLoaded_of_active hp hp'
  have htick' : d.timing.countdownTick ≠ 0 := by rw [h.timing_eq]; omega
  have hx : d.cell.value.expiresAt.isSome := by simpa [PreviewState.apply, hloading] using hx
  simp [apply, Cell.update_of_current _ hw, PreviewState.apply, hloading, hx, performAll, perform,
    htick', nextLook?]

section Take

variable {r r' : Run} {due : Nat} {expires : Timestamp} (hp : d.cell.value.phase = .active)
  (hx : d.cell.value.expiresAt = some expires) (hw : d.cell.isCurrent r'.writer)

include hp hx hw

/-- While a preview is shown its host may report an error; other signals are ignored. -/
theorem showing_of_signal {signal : Signal} (hsignal : d.signal? e = some signal)
    (hdue : r'.countdown = some due) (hquiet : d.looksAt now e = false) (hbefore : now < due) :
    ((d.apply now r' signal.event).1.cell.value.phase = .active ∧
        (d.apply now r' signal.event).1.cell.value.expiresAt = some expires ∧
        KeepsShowing clock expires due now d e (d.apply now r' signal.event).1) ∨
      EndsShowing clock expires due now d e (d.apply now r' signal.event).1 := by
  cases signal with
  | reportError message =>
    right
    refine .interrupted hbefore (.fails message hsignal ?_ ?_) <;> rw [value_apply hw] <;> rfl
  | markLoaded | retry | resume =>
    left
    have hsame : ∀ event, (event = .markLoaded ∨ event = .retry ∨ event = .resumeRequested) →
        d.cell.value.apply event = (d.cell.value, []) := by
      rintro event (rfl | rfl | rfl) <;> simp [PreviewState.apply, hp]
    rw [apply_of_silent hw (hsame _ (by simp [Signal.event]))]
    exact ⟨hp, hx, .untouched hquiet hdue⟩

/-- A look either finds that less than a second is left, or leaves the next one set. -/
theorem showing_of_look (hexact : now = due) (hlook : d.looksAt now (.countdown (clock now)) = true)
    (hnext : r'.countdown = some (due + d.timing.countdownTick)) :
    ((d.apply now r' (.countdownTick (clock now))).1.cell.value.phase = .active ∧
        (d.apply now r' (.countdownTick (clock now))).1.cell.value.expiresAt = some expires ∧
        KeepsShowing clock expires due now d (.countdown (clock now))
          (d.apply now r' (.countdownTick (clock now))).1) ∨
      EndsShowing clock expires due now d (.countdown (clock now))
        (d.apply now r' (.countdownTick (clock now))).1 := by
  have htick : d.cell.value.apply (.countdownTick (clock now)) = d.cell.value.tick (clock now) := by
    simp [PreviewState.apply, hp]
  have hvalue : (d.apply now r' (.countdownTick (clock now))).1.cell.value =
      (d.cell.value.tick (clock now)).1 := by rw [value_apply hw, htick]
  rcases PreviewState.tick_cases hx (clock now) with ⟨hshort, hphase, hnone⟩ |
    ⟨hlong, hphase, heffects⟩
  · right
    exact .expired hexact rfl hshort (hvalue ▸ hphase) (hvalue ▸ hnone)
  · left
    rw [hp] at hphase
    refine ⟨hvalue ▸ hphase, by rw [hvalue, PreviewState.expiresAt_tick, hx],
      .looked hexact hlook hlong ?_⟩
    rcases heffects with hnone | ⟨remaining, hwarn⟩
    · rw [apply_of_silent hw (htick.trans (Prod.ext rfl hnone))]
      exact hnext
    · rw [apply_of_effect hw (htick.trans (Prod.ext rfl hwarn))]
      exact hnext

end Take

/-- What an event makes of a preview that is shown. -/
theorem Followed.active_step {due : Nat} {expires : Timestamp} (h : Followed timing d)
    (hp : d.cell.value.phase = .active) (hx : d.cell.value.expiresAt = some expires)
    (hdue : d.nextLook? = some due) (htime : OnTime clock now d e) :
    now ≤ due ∧
    ((PreviewDriver.step now d e).1.cell.value.phase = .active ∧
        (PreviewDriver.step now d e).1.cell.value.expiresAt = some expires ∧
        KeepsShowing clock expires due now d e (PreviewDriver.step now d e).1 ∨
      EndsShowing clock expires due now d e (PreviewDriver.step now d e).1) := by
  have hset : due ∈ d.alarms := by simp [alarms, hdue]
  have hle : now ≤ due := htime.punctual due hset
  have hbefore : e.isHost → now < due := htime.before_of_isHost hset
  refine ⟨hle, ?_⟩
  rcases h.step_outcome now e with ⟨more, hs, huntaken⟩ | ⟨r, r', event, hr, ht, hs⟩ |
    ⟨job', params', hagain, hs⟩ | ⟨rfl, hs⟩
  · left
    rw [hs]
    exact ⟨hp, hx, .untouched (looksAt_of_untaken huntaken) (by simpa using hdue)⟩
  · have hw := h.settled.isCurrent_of_take hr ht
    have hphase := (Run.take_fits ht (h.settled.fits r hr)).2.2
    have hrun : r.countdown = some due := by simpa [nextLook?, hr] using hdue
    rw [hp] at hphase
    rw [hs]
    rcases Run.take_cases ht with ⟨signal, rest, rfl, hi, rfl, rfl⟩ | ⟨due', rfl, -, -, rfl, -⟩ |
      ⟨time, due', rfl, hset', hdue', rfl, rfl⟩ | ⟨due', rfl, -, -, rfl, -⟩ |
      ⟨id, query, reply, rfl, -, rfl, -⟩
    · exact showing_of_signal hp hx hw (by simp [signal?, hr, hi]) hrun rfl (hbefore rfl)
    · exact absurd (hphase (by simp)) (by simp [PreviewEvent.phase?])
    · obtain rfl : due = due' := Option.some.inj (hrun.symm.trans hset')
      obtain rfl : now = due := Nat.le_antisymm hle hdue'
      obtain rfl : time = clock now := htime.reads time rfl
      refine showing_of_look hp hx hw rfl (by simp [looksAt, hdue]) ?_
      simp [nextTick]
    · exact absurd (hphase (by simp)) (by simp [PreviewEvent.phase?])
    · rw [phase?_eventOf] at hphase
      exact absurd (hphase (by simp)) (by cases query <;> simp [Query.phase])
  · right
    refine .interrupted (hbefore ?_) (.startsOver job' params' hagain ?_)
    · rcases hagain with rfl | rfl <;> rfl
    · rw [hs, value_start]
  · right
    exact .interrupted (hbefore rfl) (.disposes rfl (by rw [hs]; rfl))

/-! ## Stays -/

/-- A stay in loading is that of a timer which nothing moves. -/
theorem Followed.loading_run {due : Nat} (h : Followed timing d)
    (hp : d.cell.value.phase = .loading) (hdue : d.loadingUntil? = some due)
    {es : List (Nat × Event)} (hstays : Stays .loading d es) (htime : OnSchedule clock d es) :
    (Machine.after PreviewDriver.step d es).cell.value.phase = .loading ∧
      (Machine.after PreviewDriver.step d es).loadingUntil? = some due := by
  induction es generalizing d with
  | nil => exact ⟨hp, hdue⟩
  | cons x es ih =>
    obtain ⟨now, e⟩ := x
    rcases (h.loading_step hp hdue htime.1).2 with ⟨hp', hdue'⟩ | hends
    · exact ih (h.step now e) hp' hdue' hstays.2 htime.2
    · exact absurd hstays.1 hends.phase_ne

/-- The looks of a stay in which the preview is shown come after every period, and each finds more
than a second left. -/
theorem Followed.active_run {due : Nat} {expires : Timestamp} (h : Followed timing d)
    (hp : d.cell.value.phase = .active) (hx : d.cell.value.expiresAt = some expires)
    (hdue : d.nextLook? = some due) {es : List (Nat × Event)} (hstays : Stays .active d es)
    (htime : OnSchedule clock d es) :
    ∃ n, looks d es = (List.range n).map (due + timing.countdownTick * ·) ∧
      (∀ time ∈ looks d es, 1000000000 ≤ (clock time).nanosUntil expires) ∧
      (Machine.after PreviewDriver.step d es).cell.value.phase = .active ∧
      (Machine.after PreviewDriver.step d es).cell.value.expiresAt = some expires ∧
      (Machine.after PreviewDriver.step d es).nextLook? =
        some (due + timing.countdownTick * n) := by
  induction es generalizing d due with
  | nil => exact ⟨0, rfl, by simp [looks], hp, hx, hdue⟩
  | cons x es ih =>
    obtain ⟨now, e⟩ := x
    rcases (h.active_step hp hx hdue htime.1).2 with ⟨hp', hx', hkeeps⟩ | hends
    · cases hkeeps with
      | untouched hquiet hnext =>
        simp only [looks, hquiet]
        exact ih (h.step now e) hp' hx' hnext hstays.2 htime.2
      | looked hexact hlook hlong hnext =>
        rw [h.timing_eq] at hnext
        obtain ⟨n, hlooks, hleft, hrest⟩ := ih (h.step now e) hp' hx' hnext hstays.2 htime.2
        have hcons : looks d ((now, e) :: es) = due :: looks (PreviewDriver.step now d e).1 es := by
          rw [looks, hlook, hexact]
          rfl
        have hend : due + timing.countdownTick + timing.countdownTick * n =
            due + timing.countdownTick * (n + 1) := by rw [Nat.mul_succ]; omega
        refine ⟨n + 1, ?_, ?_, hend ▸ hrest⟩
        · rw [hcons, hlooks, List.range_succ_eq_map, List.map_cons, List.map_map]
          refine congrArg _ (List.map_congr_left fun i _ ↦ ?_)
          rw [Function.comp_apply, Nat.mul_succ]
          omega
        · rw [hcons]
          exact List.forall_mem_cons.2 ⟨hexact ▸ hlong, hleft⟩
    · exact absurd hstays.1 hends.phase_ne

/-- The remaining time is looked at only while the preview is shown. -/
theorem Settled.looksAt_eq_false (h : Settled d) (hp : d.cell.value.phase ≠ .active) :
    d.looksAt now e = false := by
  cases e with
  | countdown time =>
    cases hset : d.nextLook? with
    | none => simp [looksAt, hset]
    | some due =>
      obtain ⟨r, hr, hset⟩ := Option.bind_eq_some_iff.1 hset
      have harmed : r.resources.countdown := by simp [Run.resources, hset]
      exact absurd ((h.fits r hr).active_of_countdown harmed).1 hp
  | _ => rfl

/-- Where a preview is not shown, the remaining time is not looked at. -/
theorem Followed.looks_eq_nil (h : Followed timing d) {es : List (Nat × Event)}
    (hp : Machine.Along PreviewDriver.step (fun _ d _ ↦ d.cell.value.phase ≠ .active) d es) :
    looks d es = [] := by
  induction es generalizing d with
  | nil => rfl
  | cons x es ih =>
    rw [looks, h.settled.looksAt_eq_false hp.1, ih (h.step x.1 x.2) hp.2]
    rfl

/-- When the time for loading is over, the preview is given up. -/
theorem Followed.times_out {due : Nat} (h : Followed timing d) (hp : d.cell.value.phase = .loading)
    (hdue : d.loadingUntil? = some due) :
    (PreviewDriver.step due d .loadTimeout).1.cell.value.phase = .error := by
  obtain ⟨r, hr, hset⟩ := Option.bind_eq_some_iff.1 hdue
  have ht : r.take d.timing due .loadTimeout =
      some ({ r with loadTimeout := none }, .loadTimedOut) := by simp [Run.take, hset]
  rw [step_of_take hr ht, value_apply (h.settled.isCurrent_of_take hr ht)]
  simp [PreviewState.apply, hp, PreviewState.fail]

/-- A look that finds less than a second left is the last. -/
theorem Followed.expires_at_look {due : Nat} {expires time : Timestamp} (h : Followed timing d)
    (hp : d.cell.value.phase = .active) (hx : d.cell.value.expiresAt = some expires)
    (hdue : d.nextLook? = some due) (hshort : time.nanosUntil expires < 1000000000) :
    (PreviewDriver.step due d (.countdown time)).1.cell.value.phase = .expired := by
  obtain ⟨r, hr, hset⟩ := Option.bind_eq_some_iff.1 hdue
  have ht : r.take d.timing due (.countdown time) =
      some ({ r with countdown := some (nextTick d.timing.countdownTick due due) },
        .countdownTick time) := by simp [Run.take, hset]
  rw [step_of_take hr ht, value_apply (h.settled.isCurrent_of_take hr ht)]
  rcases PreviewState.tick_cases hx time with ⟨-, hphase, -⟩ | ⟨hlong, -, -⟩
  · simpa [PreviewState.apply, hp] using hphase
  · omega

/-- How a preview keeps to time in runs on schedule, whatever happened before.

A stay in loading that begins at some time lasts until a load timeout later at the most, and then it
ends in an error; before that only its host can end it. A stay in which a preview that expires is
shown has looks at the remaining time when it begins and after each period of the countdown, and it
lasts until the first look that finds less than a second left, unless the host ends it before. Where
no preview is shown, nothing is looked at. -/
theorem preview_keeps_to_time (timing : PreviewTiming) (htick : 0 < timing.countdownTick)
    (clock : Nat → Timestamp) (before : List (Nat × Event)) :
    let d := Machine.after step (new timing) before
    (∀ now e, let d₁ := (step now d e).1
      (d.cell.value.phase ≠ .loading → d₁.cell.value.phase = .loading →
        ∀ es, Stays .loading d₁ es → OnSchedule clock d₁ es →
          let d₂ := Machine.after step d₁ es
          let due := now + timing.loadTimeout
          (∀ t e', OnTime clock t d₂ e' → t ≤ due ∧
            ((step t d₂ e').1.cell.value.phase ≠ .loading →
              EndsLoading due t d₂ e' (step t d₂ e').1)) ∧
          (step due d₂ .loadTimeout).1.cell.value.phase = .error) ∧
      ∀ expires, d.cell.value.phase ≠ .active → d₁.cell.value.phase = .active →
        d₁.cell.value.expiresAt = some expires →
        ∀ es, Stays .active d₁ es → OnSchedule clock d₁ es →
          let d₂ := Machine.after step d₁ es
          ∃ n, looks d₁ es = (List.range n).map (now + timing.countdownTick * ·) ∧
            (∀ t ∈ looks d₁ es, 1000000000 ≤ (clock t).nanosUntil expires) ∧
            let due := now + timing.countdownTick * n
            (∀ t e', OnTime clock t d₂ e' → t ≤ due ∧
              ((step t d₂ e').1.cell.value.phase ≠ .active →
                EndsShowing clock expires due t d₂ e' (step t d₂ e').1)) ∧
            ((clock due).nanosUntil expires < 1000000000 →
              (step due d₂ (.countdown (clock due))).1.cell.value.phase = .expired)) ∧
    ∀ es, Machine.Along step (fun _ d _ ↦ d.cell.value.phase ≠ .active) d es →
      looks d es = [] := by
  intro d
  have h : Followed timing d := followed_after timing before
  refine ⟨fun now e ↦ ?_, fun es hes ↦ h.looks_eq_nil hes⟩
  intro d₁
  have h₁ : Followed timing d₁ := h.step now e
  have h₂ : ∀ es, Followed timing (Machine.after step d₁ es) :=
    Machine.after_of_every_step (fun now _ e h ↦ h.step now e) h₁
  refine ⟨fun hp hp₁ es hstays htime ↦ ?_, fun expires hp hp₁ hx es hstays htime ↦ ?_⟩
  · have hset : d₁.loadingUntil? = some (now + timing.loadTimeout) :=
      loadingUntil?_of_enters h hp hp₁
    obtain ⟨hp₂, hdue⟩ := h₁.loading_run hp₁ hset hstays htime
    refine ⟨fun t e' htime' ↦ ?_, (h₂ es).times_out hp₂ hdue⟩
    obtain ⟨hle, hstep⟩ := (h₂ es).loading_step hp₂ hdue htime'
    exact ⟨hle, fun hne ↦ hstep.resolve_left fun hsame ↦ hne hsame.1⟩
  · have hexpires : d₁.cell.value.expiresAt.isSome := by rw [hx]; rfl
    have hfirst : d₁.nextLook? = some now := nextLook?_of_enters h htick hp hp₁ hexpires
    obtain ⟨n, hlooks, hleft, hp₂, hx₂, hdue⟩ := h₁.active_run hp₁ hx hfirst hstays htime
    refine ⟨n, hlooks, hleft, fun t e' htime' ↦ ?_, (h₂ es).expires_at_look hp₂ hx₂ hdue⟩
    obtain ⟨hle, hstep⟩ := (h₂ es).active_step hp₂ hx₂ hdue htime'
    exact ⟨hle, fun hne ↦ hstep.resolve_left fun hsame ↦ hne hsame.1⟩

/-- A preview whose sandbox expires in 45 seconds is shown after ten seconds. It is looked at then
and half a minute later, when five seconds are left, and has expired at the look after that. -/
theorem expired_at_third_look :
    let timing := PreviewTiming.standard
    let clock (t : Nat) : Timestamp := (Timestamp.epoch.addMillis? t).getD .epoch
    let d := Machine.after step (new timing)
      [(0, .start "j1" ⟨none, some (clock 45000), false⟩),
        (0, .reply 0 (.ok "[true]".toUTF8.toList)), (10000, .markLoaded)]
    let d₁ := (step 10000 d .receive).1
    let es : List (Nat × Event) :=
      [(10000, .countdown (clock 10000)), (40000, .countdown (clock 40000))]
    0 < timing.countdownTick ∧ d.cell.value.phase = .loading ∧ Stays .active d₁ es ∧
      OnSchedule clock d₁ es ∧ looks d₁ es = [10000, 40000] ∧
      (step 70000 (Machine.after step d₁ es) (.countdown (clock 70000))).1.cell.value.phase =
        .expired := by
  intro timing clock d d₁ es
  have htick : 0 < timing.countdownTick := by decide
  have hloading : d.cell.value.phase = .loading := by decide +kernel
  have hactive : d₁.cell.value.phase = .active := by decide +kernel
  have hexpires : d₁.cell.value.expiresAt = some (clock 45000) := by decide +kernel
  have hstays : Stays .active d₁ es := ⟨by decide +kernel, by decide +kernel, trivial⟩
  have honTime : ∀ (t : Nat) (d : PreviewDriver), d.alarms = [t] →
      OnTime clock t d (.countdown (clock t)) := by
    intro t d hset
    exact ⟨by simp [hset], fun _ ↦ rfl, fun time heq ↦ by cases heq; rfl⟩
  have hschedule : OnSchedule clock d₁ es :=
    ⟨honTime _ _ (by decide +kernel), honTime _ _ (by decide +kernel), trivial⟩
  obtain ⟨hruns, -⟩ := preview_keeps_to_time timing htick clock
    [(0, .start "j1" ⟨none, some (clock 45000), false⟩),
      (0, .reply 0 (.ok "[true]".toUTF8.toList)), (10000, .markLoaded)]
  obtain ⟨-, hshown⟩ := hruns 10000 .receive
  obtain ⟨n, hlooks, -, -, hexpired⟩ :=
    hshown (clock 45000) (by rw [hloading]; decide) hactive hexpires es hstays hschedule
  have hcount : looks d₁ es = [10000, 40000] := by decide +kernel
  have hn : n = 2 := by
    have hlength := congrArg List.length (hlooks.symm.trans hcount)
    rw [List.length_map, List.length_range] at hlength
    exact hlength
  subst hn
  have hshort : (clock 70000).nanosUntil (clock 45000) < 1000000000 := by decide +kernel
  have hdue : 10000 + timing.countdownTick * 2 = 70000 := by decide +kernel
  rw [hdue] at hexpired
  exact ⟨htick, hloading, hstays, hschedule, hcount, hexpired hshort⟩

end PreviewDriver

end JobWatch

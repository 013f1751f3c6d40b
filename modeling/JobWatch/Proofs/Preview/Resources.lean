import JobWatch.Preview.Driver
import JobWatch.Proofs.Machine

/-!
# The resources of a preview

A run of the preview driver owns three timers and room for one request. After every event what it
holds of them is what the phase calls for, and nothing else. The argument has two halves that meet
in `Resources`, which tells what is held and forgets when it is due.

* The driver: taking up an event empties the slot that the event came from (`Run.take_cases`), and
  carrying out effects changes the slots as the effects say (`performAll_run`).
* The machine: in the phase that expects it, an event asks for just those effects that lead to what
  the next phase calls for (`fits_apply`).

Only one thing can go wrong. A countdown with a period of zero cannot be kept, so a driver with such
a timing loses its run when a preview that expires is shown.
-/

namespace JobWatch

/-- The phase in which a timer that is due or an answer is expected; signals may come in any. -/
def PreviewEvent.phase? : PreviewEvent → Option PreviewPhase
  | .checkSucceeded _ | .checkFailed _ => some .checking
  | .loadTimedOut => some .loading
  | .countdownTick _ => some .active
  | .resumeSucceeded _ | .resumeFailed _ | .resumeRetryDue => some .resuming
  | .markLoaded | .resumeRequested | .retry | .reportError _ => none

namespace PreviewDriver

/-- Which timers are armed, and what the request under way asks for. -/
structure Resources where
  loadTimeout : Bool
  countdown : Bool
  resumeRetry : Bool
  request : Option Query
deriving DecidableEq, Repr

namespace Resources

def idle : Resources := ⟨false, false, false, none⟩

/-- What an effect makes of the resources. -/
def perform (a : Resources) : PreviewEffect → Resources
  | .checkEligibility => { a with request := some .check }
  | .requestResume => { a with request := some .resume }
  | .startLoadTimeout => { a with loadTimeout := true }
  | .cancelLoadTimeout => { a with loadTimeout := false }
  | .startCountdown => { a with countdown := true }
  | .stopCountdown => { a with countdown := false }
  | .scheduleResumeRetry => { a with resumeRetry := true }
  | .cancelAll => idle
  | .expiryWarning _ => a

/-- Whether the resources are those that the phase of a preview calls for. -/
def Fits (a : Resources) (s : PreviewState) : Prop :=
  match s.phase with
  | .checking => a = { idle with request := some .check }
  | .loading => a = { idle with loadTimeout := true }
  | .active => a = { idle with countdown := s.expiresAt.isSome }
  | .resuming => a = { idle with request := some .resume } ∨ a = { idle with resumeRetry := true }
  | .blocked | .expired | .paused | .resumeFailed | .error => a = idle

/-- Whether the resources are those of a preview from which an event has just been taken up. A timer
or an answer leaves its slot empty, except that the countdown goes on; a signal takes nothing. -/
def FitsDuring (a : Resources) (s : PreviewState) (event : PreviewEvent) : Prop :=
  match event.phase? with
  | some .active => s.phase = .active ∧ a = { idle with countdown := true } ∧ s.expiresAt.isSome
  | some phase => s.phase = phase ∧ a = idle
  | none => a.Fits s

end Resources

def Run.resources (r : Run) : Resources :=
  ⟨r.loadTimeout.isSome, r.countdown.isSome, r.resumeRetry.isSome, r.inFlight.map (·.2)⟩

/-! ## The machine -/

/-- The effects of a start make just the resources that its phase calls for. -/
theorem Resources.fits_start (job : String) (params : PreviewParams) (timing : PreviewTiming) :
    ((PreviewState.start job params timing).2.foldl perform idle).Fits
      (PreviewState.start job params timing).1 := by
  cases h : params.sandboxPaused <;> simp [PreviewState.start, Fits, h, perform, idle]

/-- A failure leaves no timer and no request, whatever there was. -/
theorem Resources.fits_fail (a : Resources) (s : PreviewState) (message : String) :
    ((s.fail message).2.foldl perform a).Fits (s.fail message).1 := rfl

/-- A check that succeeds leaves the resources of loading, or none. -/
theorem Resources.fits_checked {s : PreviewState} (check : PreviewCheck) :
    ((s.checked check).2.foldl perform idle).Fits (s.checked check).1 := by
  unfold PreviewState.checked
  split <;> rfl

/-- A look at the remaining time keeps the countdown until the sandbox has expired. -/
theorem Resources.fits_tick {s : PreviewState} (hp : s.phase = .active) (hx : s.expiresAt.isSome)
    (now : Timestamp) :
    ((s.tick now).2.foldl perform { idle with countdown := true }).Fits (s.tick now).1 := by
  obtain ⟨expires, hx⟩ := Option.isSome_iff_exists.1 hx
  simp only [PreviewState.tick, hx]
  split
  · rfl
  · split <;> simp [Fits, hp, perform]

/-- In the phase that expects it, an event asks for what the next phase calls for. -/
theorem Resources.fits_apply {a : Resources} {s : PreviewState} {event : PreviewEvent}
    (h : a.FitsDuring s event) : ((s.apply event).2.foldl perform a).Fits (s.apply event).1 := by
  cases event with
  | checkSucceeded check =>
    obtain ⟨hp, rfl⟩ := h
    simpa [PreviewState.apply, hp] using fits_checked check
  | checkFailed e =>
    obtain ⟨hp, rfl⟩ := h
    simpa [PreviewState.apply, hp] using fits_fail _ s _
  | loadTimedOut =>
    obtain ⟨hp, rfl⟩ := h
    simpa [PreviewState.apply, hp] using fits_fail _ s _
  | countdownTick now =>
    obtain ⟨hp, rfl, hx⟩ := h
    simpa [PreviewState.apply, hp] using fits_tick hp hx now
  | resumeSucceeded response =>
    obtain ⟨hp, rfl⟩ := h
    simp [PreviewState.apply, hp, Fits, perform]
  | resumeFailed e =>
    obtain ⟨hp, rfl⟩ := h
    simp only [PreviewState.apply, hp]
    split <;> simp [Fits, hp, perform]
  | resumeRetryDue =>
    obtain ⟨hp, rfl⟩ := h
    simp [PreviewState.apply, hp, Fits, perform]
  | reportError message => exact fits_fail a s message
  | markLoaded =>
    -- Only a preview that loads listens; it holds the timer that is cancelled then.
    cases hp : s.phase <;>
      simp_all [PreviewState.apply, FitsDuring, PreviewEvent.phase?, Fits]
    cases hx : s.expiresAt <;> simp [perform, idle]
  | resumeRequested =>
    cases hp : s.phase <;>
      simp_all [PreviewState.apply, FitsDuring, PreviewEvent.phase?, Fits, perform]
  | retry =>
    cases hp : s.phase <;>
      simp_all [PreviewState.apply, FitsDuring, PreviewEvent.phase?, Fits, perform]

/-- A countdown is asked for only when a preview that expires is shown. -/
theorem active_of_startCountdown {s : PreviewState} {event : PreviewEvent}
    (h : .startCountdown ∈ (s.apply event).2) :
    (s.apply event).1.phase = .active ∧ (s.apply event).1.expiresAt.isSome := by
  cases event with
  | markLoaded =>
    cases hp : s.phase <;> simp_all [PreviewState.apply]
  | checkSucceeded check =>
    cases hp : s.phase <;> simp [PreviewState.apply, PreviewState.checked, hp] at h
    split at h <;> simp at h
  | countdownTick now =>
    cases hp : s.phase <;> simp [PreviewState.apply, PreviewState.tick, hp] at h
    grind
  | resumeFailed e =>
    cases hp : s.phase <;> simp [PreviewState.apply, hp] at h
    split at h <;> simp at h
  | _ => cases hp : s.phase <;> simp [PreviewState.apply, PreviewState.fail, hp] at h

/-! ## The driver -/

section Perform

variable (d : PreviewDriver) (now : Nat) (r : Run)

@[simp] theorem cell_perform (e : PreviewEffect) : (d.perform now r e).1.cell = d.cell := by
  cases e <;> simp [perform, ask]
  split <;> rfl

@[simp] theorem timing_perform (e : PreviewEffect) : (d.perform now r e).1.timing = d.timing := by
  cases e <;> simp [perform, ask]
  split <;> rfl

@[simp] theorem current_perform (e : PreviewEffect) :
    (d.perform now r e).1.current = d.current := by
  cases e <;> simp [perform, ask]
  split <;> rfl

variable {d r}

/-- An effect changes the slots of the run as it says, unless it loses the run. -/
theorem run_perform (h : d.run = some r) (e : PreviewEffect) :
    (∃ r', (d.perform now r e).1.run = some r' ∧ r'.writer = r.writer ∧
      r'.resources = r.resources.perform e) ∨
    (d.perform now r e).1.run = none ∧ d.timing.countdownTick = 0 ∧ e = .startCountdown := by
  cases e with
  | startCountdown =>
    by_cases ht : d.timing.countdownTick = 0
    · exact .inr ⟨by simp [perform, ht], ht, rfl⟩
    · refine .inl ⟨{ r with countdown := some now }, ?_, rfl, rfl⟩
      simp only [perform, ht, if_false]
  | expiryWarning remaining => exact .inl ⟨r, h, rfl, rfl⟩
  | _ => exact .inl ⟨_, rfl, rfl, rfl⟩

end Perform

section PerformAll

variable (d : PreviewDriver) (now : Nat) (es : List PreviewEffect)

/-- Effects change nothing of a driver but its run and the number of its requests. -/
theorem frame_performAll :
    (d.performAll now es).1.cell = d.cell ∧ (d.performAll now es).1.timing = d.timing ∧
      (d.performAll now es).1.current = d.current := by
  induction es generalizing d with
  | nil => exact ⟨rfl, rfl, rfl⟩
  | cons e es ih =>
    simp only [performAll]
    cases hr : d.run with
    | none => exact ⟨rfl, rfl, rfl⟩
    | some r => simpa using ih (d.perform now r e).1

@[simp] theorem cell_performAll : (d.performAll now es).1.cell = d.cell :=
  (frame_performAll d now es).1

@[simp] theorem timing_performAll : (d.performAll now es).1.timing = d.timing :=
  (frame_performAll d now es).2.1

@[simp] theorem current_performAll : (d.performAll now es).1.current = d.current :=
  (frame_performAll d now es).2.2

variable {d}

theorem performAll_of_lost (h : d.run = none) : d.performAll now es = (d, []) := by
  cases es <;> simp [performAll, h]

/-- Effects change the slots of the run as they say, one after the other, unless one of them loses
the run. -/
theorem run_performAll {r : Run} (h : d.run = some r) :
    (∃ r', (d.performAll now es).1.run = some r' ∧ r'.writer = r.writer ∧
      r'.resources = es.foldl Resources.perform r.resources) ∨
    (d.performAll now es).1.run = none ∧ d.timing.countdownTick = 0 ∧ .startCountdown ∈ es := by
  induction es generalizing d r with
  | nil => exact .inl ⟨r, h, rfl, rfl⟩
  | cons e es ih =>
    simp only [performAll, h]
    rcases run_perform now h e with ⟨r', hr, hw, hres⟩ | ⟨hr, ht, rfl⟩
    · rcases ih hr with ⟨r'', hr', hw', hres'⟩ | ⟨hr', ht, he⟩
      · exact .inl ⟨r'', hr', hw'.trans hw, by simp only [hres', hres, List.foldl_cons]⟩
      · exact .inr ⟨hr', by simpa using ht, List.mem_cons_of_mem e he⟩
    · refine .inr ⟨?_, ht, List.mem_cons_self⟩
      rw [performAll_of_lost now es hr]
      exact hr

end PerformAll

/-! ## Taking up an event -/

/-- The phase in which a request is under way. -/
def Query.phase : Query → PreviewPhase
  | check => .checking
  | resume => .resuming

/-- What a request answers is expected in the phase in which the request is made. -/
theorem phase?_eventOf (query : Query) (reply : Reply) :
    (eventOf query reply).phase? = some query.phase := by
  cases query <;> simp only [eventOf] <;> split <;> rfl

namespace Resources

variable {a : Resources} {s : PreviewState}

theorem Fits.loading_of_loadTimeout (h : a.Fits s) (ha : a.loadTimeout) :
    s.phase = .loading ∧ a = { idle with loadTimeout := true } := by
  cases hp : s.phase <;> simp_all [Fits, idle]
  rcases h with rfl | rfl <;> simp at ha

theorem Fits.active_of_countdown (h : a.Fits s) (ha : a.countdown) :
    s.phase = .active ∧ a = { idle with countdown := true } ∧ s.expiresAt.isSome := by
  cases hp : s.phase <;> simp_all [Fits, idle]
  rcases h with rfl | rfl <;> simp at ha

theorem Fits.resuming_of_resumeRetry (h : a.Fits s) (ha : a.resumeRetry) :
    s.phase = .resuming ∧ a = { idle with resumeRetry := true } := by
  cases hp : s.phase <;> simp_all [Fits, idle]
  rcases h with rfl | rfl <;> simp at ha ⊢

/-- A request is under way only in its own phase. -/
theorem Fits.phase_of_request {query : Query} (h : a.Fits s) (ha : a.request = some query) :
    s.phase = query.phase ∧ a = { idle with request := some query } := by
  cases hp : s.phase <;> simp_all [Fits, idle]
  · exact ha ▸ rfl
  · rcases h with rfl | rfl <;> simp at ha
    exact ⟨ha ▸ rfl, ha ▸ rfl⟩

/-- A timer that is not kept, or an answer, leaves nothing behind. -/
theorem fitsDuring_idle {event : PreviewEvent} (he : event.phase? = some s.phase)
    (hp : s.phase ≠ .active) : idle.FitsDuring s event := by
  cases event <;> simp_all [FitsDuring, PreviewEvent.phase?]

end Resources

/-- What a run takes up: the next signal of its inbox, a timer that is over, or an answer. -/
theorem Run.take_cases {r r' : Run} {timing : PreviewTiming} {now : Nat} {e : Event}
    {event : PreviewEvent} (h : r.take timing now e = some (r', event)) :
    (∃ signal rest, e = .receive ∧ r.inbox = signal :: rest ∧ event = signal.event ∧
      r' = { r with inbox := rest }) ∨
    (∃ due, e = .loadTimeout ∧ r.loadTimeout = some due ∧ due ≤ now ∧ event = .loadTimedOut ∧
      r' = { r with loadTimeout := none }) ∨
    (∃ time due, e = .countdown time ∧ r.countdown = some due ∧ due ≤ now ∧
      event = .countdownTick time ∧
      r' = { r with countdown := some (nextTick timing.countdownTick due now) }) ∨
    (∃ due, e = .resumeRetry ∧ r.resumeRetry = some due ∧ due ≤ now ∧ event = .resumeRetryDue ∧
      r' = { r with resumeRetry := none }) ∨
    ∃ id query reply, e = .reply id reply ∧ r.inFlight = some (id, query) ∧
      event = eventOf query reply ∧ r' = { r with inFlight := none } := by
  cases e with
  | receive =>
    left
    cases hi : r.inbox with
    | nil => simp [take, hi] at h
    | cons signal rest =>
      simp only [take, hi, Option.some.injEq, Prod.mk.injEq] at h
      exact ⟨signal, rest, rfl, rfl, h.2.symm, h.1.symm⟩
  | loadTimeout =>
    right; left
    cases hset : r.loadTimeout with
    | none => simp [take, hset] at h
    | some due =>
      simp only [take, hset, Option.any_some, decide_eq_true_eq, Option.ite_none_right_eq_some,
        Option.some.injEq, Prod.mk.injEq] at h
      exact ⟨due, rfl, rfl, h.1, h.2.2.symm, h.2.1.symm⟩
  | countdown time =>
    right; right; left
    cases hset : r.countdown with
    | none => simp [take, hset] at h
    | some due =>
      simp only [take, hset, Option.ite_none_right_eq_some, Option.some.injEq, Prod.mk.injEq] at h
      exact ⟨time, due, rfl, rfl, h.1, h.2.2.symm, h.2.1.symm⟩
  | resumeRetry =>
    right; right; right; left
    cases hset : r.resumeRetry with
    | none => simp [take, hset] at h
    | some due =>
      simp only [take, hset, Option.any_some, decide_eq_true_eq, Option.ite_none_right_eq_some,
        Option.some.injEq, Prod.mk.injEq] at h
      exact ⟨due, rfl, rfl, h.1, h.2.2.symm, h.2.1.symm⟩
  | reply id reply =>
    right; right; right; right
    cases hflight : r.inFlight with
    | none => simp [take, hflight] at h
    | some asked =>
      obtain ⟨request, query⟩ := asked
      simp only [take, hflight, Option.ite_none_right_eq_some, Option.some.injEq,
        Prod.mk.injEq] at h
      obtain ⟨rfl, hrun, hevent⟩ := h
      exact ⟨request, query, reply, rfl, rfl, hevent.symm, hrun.symm⟩
  | _ => simp [take] at h

open Resources in
/-- A run takes up a timer or an answer only in the phase that expects it, and what it holds then is
what is left of that phase. -/
theorem Run.take_fits {r r' : Run} {s : PreviewState} {timing : PreviewTiming} {now : Nat}
    {e : Event} {event : PreviewEvent}
    (h : r.take timing now e = some (r', event)) (hr : r.resources.Fits s) :
    r'.writer = r.writer ∧ r'.resources.FitsDuring s event ∧
      (e ≠ .receive → event.phase? = some s.phase) := by
  rcases take_cases h with ⟨signal, rest, rfl, -, rfl, rfl⟩ | ⟨due, rfl, hset, -, rfl, rfl⟩ |
    ⟨clock, due, rfl, hset, -, rfl, rfl⟩ | ⟨due, rfl, hset, -, rfl, rfl⟩ |
    ⟨id, query, reply, rfl, hflight, rfl, rfl⟩
  · refine ⟨rfl, ?_, fun hn ↦ absurd rfl hn⟩
    cases signal <;> exact hr
  · obtain ⟨hp, ha⟩ := hr.loading_of_loadTimeout (by simp [Run.resources, hset])
    have hidle : { r.resources with loadTimeout := false } = idle := by rw [ha]; rfl
    exact ⟨rfl, ⟨hp, hidle⟩, fun _ ↦ by rw [hp]; rfl⟩
  · obtain ⟨hp, ha, hx⟩ := hr.active_of_countdown (by simp [Run.resources, hset])
    have hkept : { r.resources with countdown := true } = { idle with countdown := true } := by
      rw [ha]
    exact ⟨rfl, ⟨hp, hkept, hx⟩, fun _ ↦ by rw [hp]; rfl⟩
  · obtain ⟨hp, ha⟩ := hr.resuming_of_resumeRetry (by simp [Run.resources, hset])
    have hidle : { r.resources with resumeRetry := false } = idle := by rw [ha]; rfl
    exact ⟨rfl, ⟨hp, hidle⟩, fun _ ↦ by rw [hp]; rfl⟩
  · have hasked : r.resources.request = some query := by simp [Run.resources, hflight]
    obtain ⟨hp, ha⟩ := hr.phase_of_request hasked
    have hidle : { r.resources with request := none } = idle := by rw [ha]; rfl
    have he : (eventOf query reply).phase? = some s.phase := by rw [phase?_eventOf, hp]
    refine ⟨rfl, ?_, fun _ ↦ he⟩
    change { r.resources with request := none }.FitsDuring s _
    rw [hidle]
    exact fitsDuring_idle he (by cases query <;> simp [hp, Query.phase])

/-! ## Every step -/

/-- What holds of a driver after every event. -/
structure Settled (d : PreviewDriver) : Prop where
  /-- The run holds what the phase calls for. -/
  fits : ∀ r, d.run = some r → r.resources.Fits d.cell.value
  /-- The run publishes. -/
  isCurrent : ∀ r, d.run = some r → d.cell.isCurrent r.writer
  /-- Without a run, no job is followed, or a countdown with a period of zero was asked for. -/
  lost : d.run = none → d.current = none ∧ d.cell.value = .empty ∨
    d.timing.countdownTick = 0 ∧ d.cell.value.phase = .active ∧ d.cell.value.expiresAt.isSome

theorem Settled.new (timing : PreviewTiming) : Settled (new timing) where
  fits _ h := nomatch h
  isCurrent _ h := nomatch h
  lost _ := .inl ⟨rfl, rfl⟩

/-- Effects that lead to what the phase calls for settle a driver. -/
theorem settled_performAll {d : PreviewDriver} {now : Nat} {r : Run} {es : List PreviewEffect}
    (hrun : d.run = some r) (hcur : d.cell.isCurrent r.writer)
    (hfits : (es.foldl Resources.perform r.resources).Fits d.cell.value)
    (hstart : .startCountdown ∈ es → d.cell.value.phase = .active ∧ d.cell.value.expiresAt.isSome) :
    Settled (d.performAll now es).1 := by
  rcases run_performAll now es hrun with ⟨r', hr, hw, hres⟩ | ⟨hr, ht, hmem⟩
  · refine ⟨fun q hq ↦ ?_, fun q hq ↦ ?_, fun hq ↦ ?_⟩
    · obtain rfl : r' = q := Option.some.inj (hr.symm.trans hq)
      rw [hres, cell_performAll]
      exact hfits
    · obtain rfl : r' = q := Option.some.inj (hr.symm.trans hq)
      rw [hw, cell_performAll]
      exact hcur
    · rw [hr] at hq
      contradiction
  · refine ⟨fun q hq ↦ ?_, fun q hq ↦ ?_, fun _ ↦ .inr ?_⟩
    · rw [hr] at hq
      contradiction
    · rw [hr] at hq
      contradiction
    · simpa using ⟨ht, hstart hmem⟩

theorem settled_start (d : PreviewDriver) (now : Nat) (job : String) (params : PreviewParams) :
    Settled (d.start now job params).1 := by
  refine settled_performAll rfl (Cell.isCurrent_reset _ _) ?_ ?_
  · exact Resources.fits_start job params d.timing
  · simp

theorem Settled.apply {d : PreviewDriver} {now : Nat} {r : Run} {event : PreviewEvent}
    (hcur : d.cell.isCurrent r.writer) (h : r.resources.FitsDuring d.cell.value event) :
    Settled (d.apply now r event).1 := by
  simp only [PreviewDriver.apply, Cell.update_of_current _ hcur]
  exact settled_performAll rfl hcur (Resources.fits_apply h) active_of_startCountdown

theorem Settled.send {d : PreviewDriver} (h : Settled d) (signal : Signal) :
    Settled (d.send signal).1 := by
  cases hr : d.run with
  | none => simpa [PreviewDriver.send, hr] using h
  | some r =>
    have hfits : r.resources.Fits d.cell.value := h.fits r hr
    have hcur : d.cell.isCurrent r.writer := h.isCurrent r hr
    simp only [PreviewDriver.send, hr]
    refine ⟨fun q hq ↦ ?_, fun q hq ↦ ?_, fun hq ↦ nomatch hq⟩
    · obtain rfl := Option.some.inj hq
      exact hfits
    · obtain rfl := Option.some.inj hq
      exact hcur

theorem Settled.proceed {d : PreviewDriver} (h : Settled d) (now : Nat) (e : Event) :
    Settled (d.proceed now e).1 := by
  cases hr : d.run with
  | none => simpa [PreviewDriver.proceed, hr] using h
  | some r =>
    cases ht : r.take d.timing now e with
    | none => simpa [PreviewDriver.proceed, hr, ht] using h
    | some taken =>
      obtain ⟨r', event⟩ := taken
      obtain ⟨hw, hfits, -⟩ := Run.take_fits ht (h.fits r hr)
      simp only [PreviewDriver.proceed, hr, ht]
      exact Settled.apply (hw ▸ h.isCurrent r hr) hfits

theorem Settled.setPaused {d : PreviewDriver} (h : Settled d) (now : Nat) (paused : Bool) :
    Settled (d.setPaused now paused).1 := by
  unfold PreviewDriver.setPaused
  split
  · exact h
  · split
    · exact h
    · exact settled_start ..

/-- Whatever happens, a driver stays settled. -/
theorem Settled.step {d : PreviewDriver} (h : Settled d) (now : Nat) (e : Event) :
    Settled (step now d e).1 := by
  cases e with
  | start job params => exact settled_start d now job params
  | setPaused paused => exact h.setPaused now paused
  | dispose => exact ⟨fun r hr ↦ (nomatch hr), fun r hr ↦ (nomatch hr), fun _ ↦ .inl ⟨rfl, rfl⟩⟩
  | markLoaded | retry | resume | reportError => exact h.send _
  | receive | loadTimeout | countdown | resumeRetry | reply => exact h.proceed now _

section Timing

variable (d : PreviewDriver) (now : Nat)

@[simp] theorem timing_start (job : String) (params : PreviewParams) :
    (d.start now job params).1.timing = d.timing := by
  simp [start]

@[simp] theorem timing_apply (r : Run) (event : PreviewEvent) :
    (d.apply now r event).1.timing = d.timing := by
  unfold apply
  split <;> simp

/-- A driver keeps its timing. -/
@[simp] theorem timing_step (e : Event) : (step now d e).1.timing = d.timing := by
  cases e with
  | start job params => exact timing_start d now job params
  | setPaused paused =>
    simp only [step, setPaused]
    split
    · rfl
    · split
      · rfl
      · exact timing_start ..
  | dispose => rfl
  | markLoaded | retry | resume | reportError =>
    simp only [step, send]
    split <;> rfl
  | receive | loadTimeout | countdown | resumeRetry | reply =>
    simp only [step, proceed]
    split
    · rfl
    · split
      · rfl
      · exact timing_apply ..

end Timing

theorem settled_after (timing : PreviewTiming) (es : List (Nat × Event)) :
    Settled (Machine.after step (new timing) es) :=
  Machine.after_of_every_step (fun now _ e h ↦ h.step now e) (.new timing) es

theorem timing_after (timing : PreviewTiming) (es : List (Nat × Event)) :
    (Machine.after step (new timing) es).timing = timing :=
  Machine.after_of_every_step (P := fun d ↦ d.timing = timing)
    (fun now d e h ↦ (timing_step d now e).trans h) rfl es

/-- After every event of every run the armed timers and the request under way are those that the
phase calls for, and a timer or an answer is taken up only in the phase that expects it. The one way
to lose a run is to ask for a countdown with a period of zero. -/
theorem resources_fit_phase (timing : PreviewTiming) (es : List (Nat × Event)) :
    let d := Machine.after step (new timing) es
    (∀ r, d.run = some r → r.resources.Fits d.cell.value ∧
      ∀ now e r' event, r.take timing now e = some (r', event) → e ≠ .receive →
        event.phase? = some d.cell.value.phase) ∧
    (d.run = none → d.current = none ∧ d.cell.value = .empty ∨
      timing.countdownTick = 0 ∧ d.cell.value.phase = .active ∧
        d.cell.value.expiresAt.isSome) := by
  intro d
  have h : Settled d := settled_after timing es
  have ht : d.timing = timing := timing_after timing es
  refine ⟨fun r hr ↦ ⟨h.fits r hr, fun now e r' event htake he ↦ ?_⟩, fun hr ↦ ht ▸ h.lost hr⟩
  exact (Run.take_fits htake (h.fits r hr)).2.2 he

/-- With a countdown whose period is zero, a preview that expires is shown without a countdown. -/
theorem countdown_lost_of_zero_period :
    ¬ ∀ (timing : PreviewTiming) (es : List (Nat × Event)),
      let d := Machine.after step (new timing) es
      d.cell.value.phase = .active → d.cell.value.expiresAt.isSome →
        ∃ r, d.run = some r ∧ r.countdown.isSome := by
  intro h
  let timing : PreviewTiming := { PreviewTiming.standard with countdownTick := 0 }
  let es : List (Nat × Event) :=
    [(0, .start "j1" ⟨none, some .epoch, false⟩), (0, .reply 0 (.ok "[true]".toUTF8.toList)),
      (0, .markLoaded), (0, .receive)]
  have hlost : (Machine.after step (new timing) es).run = none := by decide +kernel
  obtain ⟨r, hr, -⟩ := h timing es (by decide +kernel) (by decide +kernel)
  rw [hlost] at hr
  contradiction

end PreviewDriver

end JobWatch

import JobWatch.Proofs.Preview.Resume
import JobWatch.Proofs.Preview.Transitions

/-!
# What wakes a preview

Between the calls of its host a driver is woken by a signal that waits, by a timer or by an answer.
What it then makes of the event that it takes up is one transition of the machine (`Takes`): the
requests that go out are those the transition asks for, and of the signals that wait at most the
first is gone.
-/

namespace JobWatch

def PreviewEffect.query? : PreviewEffect → Option PreviewDriver.Query
  | .checkEligibility => some .check
  | .requestResume => some .resume
  | _ => none

def PreviewEvent.isSignal : PreviewEvent → Bool
  | .markLoaded | .retry | .resumeRequested | .reportError _ => true
  | _ => false

namespace PreviewDriver

/-- What wakes a driver. -/
inductive Wake where
  /-- A signal waits. -/
  | receives
  | loadTimesOut
  /-- The remaining time is looked at. -/
  | looks (clock : Timestamp)
  | asksAgain
  | hears (request : Nat) (reply : Reply)

def Wake.event : Wake → Event
  | receives => .receive
  | loadTimesOut => .loadTimeout
  | looks clock => .countdown clock
  | asksAgain => .resumeRetry
  | hears request reply => .reply request reply

/-- The call with which a host sends a signal. -/
def Signal.call : Signal → Event
  | markLoaded => .markLoaded
  | retry => .retry
  | resume => .resume
  | reportError message => .reportError message

theorem Signal.event_injective {a b : Signal} (h : a.event = b.event) : a = b := by
  cases a <;> cases b <;> simp_all [Signal.event]

/-- An event is the first of the signals that wait, and `left` are those after it; or it is none,
and all of them are left. -/
def ComesFrom (event : PreviewEvent) (pending left : List Signal) : Prop :=
  (∃ signal : Signal, event = signal.event ∧ pending = signal :: left) ∨
    event.isSignal = false ∧ pending = left

section ComesFrom

variable {event : PreviewEvent} {pending left : List Signal}

theorem ComesFrom.append (h : ComesFrom event pending left) (more : List Signal) :
    ComesFrom event (pending ++ more) (left ++ more) := by
  rcases h with ⟨signal, hevent, rfl⟩ | ⟨hown, rfl⟩
  · exact .inl ⟨signal, hevent, rfl⟩
  · exact .inr ⟨hown, rfl⟩

theorem ComesFrom.mem_of_left (h : ComesFrom event pending left) {signal : Signal}
    (hs : signal ∈ left) : signal ∈ pending := by
  rcases h with ⟨first, -, rfl⟩ | ⟨-, rfl⟩
  · exact List.mem_cons_of_mem _ hs
  · exact hs

theorem ComesFrom.eq_nil (h : ComesFrom event [] left) : left = [] := by
  rcases h with ⟨signal, -, hcons⟩ | ⟨-, hnil⟩
  · contradiction
  · exact hnil.symm

/-- A signal that is taken up is the first of those that wait. -/
theorem ComesFrom.of_signal (signal : Signal) (h : ComesFrom signal.event pending left) :
    pending = signal :: left := by
  rcases h with ⟨first, heq, rfl⟩ | ⟨hown, -⟩
  · rw [Signal.event_injective heq]
  · cases signal <;> contradiction

end ComesFrom

def Output.query? : Output → Option Query
  | .request _ query _ => some query
  | _ => none

def unread (d : PreviewDriver) : List Signal := (d.run.map (·.inbox)).getD []

variable {timing : PreviewTiming} {job : String} {params : PreviewParams} {d : PreviewDriver}
  {now : Nat}

theorem step_call (d : PreviewDriver) (now : Nat) (signal : Signal) :
    step now d signal.call = (d.hear [signal], []) := by
  rw [← send_eq_hear]
  cases signal <;> rfl

theorem unread_hear {r : Run} (hr : d.run = some r) (more : List Signal) :
    (d.hear more).unread = d.unread ++ more := by
  simp [unread, hear, hr]

/-- To wake up does not end a run. -/
theorem Wake.continues (w : Wake) (paused : Bool) : w.event.Continues paused := by
  cases w <;> trivial

theorem Wake.event_ne_start (w : Wake) (job : String) (params : PreviewParams) :
    w.event ≠ .start job params := by
  cases w <;> simp [Wake.event]

/-! ## Carrying out effects -/

/-- An effect asks for its request, and leaves the signals alone unless it loses the run. -/
theorem perform_asks {r : Run} (hr : d.run = some r) (now : Nat) (effect : PreviewEffect) :
    (d.perform now r effect).2.filterMap Output.query? = effect.query?.toList ∧
      ((∃ r', (d.perform now r effect).1.run = some r' ∧ r'.inbox = r.inbox) ∨
        effect = .startCountdown ∧ (d.perform now r effect).1.run = none) := by
  cases effect with
  | startCountdown =>
    by_cases ht : d.timing.countdownTick = 0
    · simp [perform, ht, PreviewEffect.query?]
    · simp [perform, ht, PreviewEffect.query?]
  | expiryWarning remaining => exact ⟨rfl, .inl ⟨r, hr, rfl⟩⟩
  | _ => exact ⟨rfl, .inl ⟨_, rfl, rfl⟩⟩

/-- Effects ask for their requests and leave the signals alone. Only where the run is lost, what
comes after that is left undone. -/
theorem performAll_asks {r : Run} (hr : d.run = some r) (now : Nat)
    (effects : List PreviewEffect) :
    (d.performAll now effects).2.filterMap Output.query? =
        effects.filterMap PreviewEffect.query? ∧
      (d.performAll now effects).1.unread = r.inbox ∨
    .startCountdown ∈ effects ∧ (d.performAll now effects).1.run = none ∧
      (d.performAll now effects).2.filterMap Output.query? <+:
        effects.filterMap PreviewEffect.query? := by
  induction effects generalizing d r with
  | nil => exact .inl ⟨rfl, by simp [performAll, unread, hr]⟩
  | cons effect effects ih =>
    obtain ⟨hasks, hkept⟩ := perform_asks hr now effect
    have hcons : (effect :: effects).filterMap PreviewEffect.query? =
        effect.query?.toList ++ effects.filterMap PreviewEffect.query? := by
      cases hq : effect.query? <;> simp [hq]
    simp only [performAll, hr, List.filterMap_append, hasks, hcons]
    rcases hkept with ⟨r', hr', hinbox⟩ | ⟨rfl, hlost⟩
    · rcases ih hr' with ⟨hall, hunread⟩ | ⟨hmem, hlost, hsome⟩
      · exact .inl ⟨by rw [hall], hunread.trans hinbox⟩
      · exact .inr ⟨List.mem_cons_of_mem _ hmem, hlost, (List.prefix_append_right_inj _).2 hsome⟩
    · rw [performAll_of_lost now effects hlost]
      exact .inr ⟨List.mem_cons_self, hlost, by simp⟩

/-- The timer for another request is set by no effect but the one that sets it. -/
theorem resumeRetry_foldl {effects : List PreviewEffect} {a : Resources}
    (h : (effects.foldl Resources.perform a).resumeRetry) :
    .scheduleResumeRetry ∈ effects ∨ a.resumeRetry := by
  induction effects generalizing a with
  | nil => exact .inr h
  | cons effect effects ih =>
    rcases ih h with hmem | hset
    · exact .inl (List.mem_cons_of_mem _ hmem)
    · cases effect with
      | scheduleResumeRetry => exact .inl List.mem_cons_self
      | cancelAll => exact nomatch hset
      | _ => exact .inr hset

/-- The timer of another request is set only if it was, or if an effect sets it. -/
theorem retryAt?_isSome_of_performAll {r : Run} (hr : d.run = some r) (now : Nat)
    (effects : List PreviewEffect) (h : (d.performAll now effects).1.retryAt?.isSome) :
    .scheduleResumeRetry ∈ effects ∨ r.resumeRetry.isSome := by
  rcases run_performAll now effects hr with ⟨r', hr', -, hres⟩ | ⟨hlost, -⟩
  · refine resumeRetry_foldl (a := r.resources) ?_
    rw [← hres]
    simpa [retryAt?, hr', Run.resources] using h
  · simp [retryAt?, hlost] at h

/-- No other request to resume is due where the sandbox is not being asked. -/
theorem Settled.retryAt?_eq_none (h : Settled d) (hp : d.cell.value.phase ≠ .resuming) :
    d.retryAt? = none := by
  cases hset : d.retryAt? with
  | none => rfl
  | some due =>
    obtain ⟨r, hr, hset⟩ := Option.bind_eq_some_iff.1 hset
    have harmed : r.resources.resumeRetry := by simp [Run.resources, hset]
    exact absurd ((h.fits r hr).resuming_of_resumeRetry harmed).1 hp

/-! ## Taking up an event -/

/-- A driver takes up an event, which has its effects, and `rest` are the signals that wait after
that. -/
structure Takes (d d' : PreviewDriver) (out : List Output) (event : PreviewEvent)
    (effects : List PreviewEffect) (rest : List Signal) : Prop where
  does : PreviewState.Does d.cell.value event d'.cell.value effects
  source : ComesFrom event d.unread rest
  asks : out.filterMap Output.query? = effects.filterMap PreviewEffect.query?
  /-- With the run the signals are lost. -/
  unread : d'.unread = rest ∨ .startCountdown ∈ effects ∧ d'.unread = []
  due : event = .resumeRetryDue → d.retryAt?.isSome
  sets : d'.retryAt?.isSome →
    .scheduleResumeRetry ∈ effects ∨ event ≠ .resumeRetryDue ∧ d.retryAt?.isSome

/-- The run is lost only where the preview is shown. -/
theorem phase_of_startCountdown {s s' : PreviewState} {event : PreviewEvent}
    {effects : List PreviewEffect} (hd : PreviewState.Does s event s' effects)
    (h : .startCountdown ∈ effects) : s'.phase = .active := by
  cases hd with
  | shows => rfl
  | _ => simp at h

/-- An effect that may lose the run comes with no request. -/
theorem filterMap_query?_of_startCountdown {s s' : PreviewState} {event : PreviewEvent}
    {effects : List PreviewEffect} (hd : PreviewState.Does s event s' effects)
    (h : .startCountdown ∈ effects) : effects.filterMap PreviewEffect.query? = [] := by
  cases hd with
  | shows => split <;> rfl
  | _ => simp at h

/-- What a run takes up is the first signal that waits, or none; and the timer for another request
is dropped when it comes to its end, and then only. -/
structure Run.Sheds (r r' : Run) (event : PreviewEvent) : Prop where
  source : ComesFrom event r.inbox r'.inbox
  due : event = .resumeRetryDue → r.resumeRetry.isSome ∧ r'.resumeRetry = none
  kept : event ≠ .resumeRetryDue → r'.resumeRetry = r.resumeRetry

/-- What a run takes up leaves its slot, and nothing else goes. -/
theorem Run.sheds_of_take {r r' : Run} {e : Event} {event : PreviewEvent}
    (h : r.take timing now e = some (r', event)) : Run.Sheds r r' event := by
  rcases Run.take_cases h with ⟨signal, rest, -, hi, rfl, rfl⟩ | ⟨due, -, -, -, rfl, rfl⟩ |
    ⟨clock, due, -, -, -, rfl, rfl⟩ | ⟨due, -, hset, -, rfl, rfl⟩ |
    ⟨id, query, reply, -, -, rfl, rfl⟩
  · exact ⟨.inl ⟨signal, rfl, hi⟩, by cases signal <;> simp [Signal.event], fun _ ↦ rfl⟩
  · exact ⟨.inr ⟨rfl, rfl⟩, by simp, fun _ ↦ rfl⟩
  · exact ⟨.inr ⟨rfl, rfl⟩, by simp, fun _ ↦ rfl⟩
  · exact ⟨.inr ⟨rfl, rfl⟩, fun _ ↦ ⟨by simp [hset], rfl⟩, fun hne ↦ absurd rfl hne⟩
  · have hanswer : (eventOf query reply).isSignal = false ∧
        eventOf query reply ≠ .resumeRetryDue := by
      cases query <;> simp only [eventOf] <;> split <;> exact ⟨rfl, by simp⟩
    exact ⟨.inr ⟨hanswer.1, rfl⟩, fun heq ↦ absurd heq hanswer.2, fun _ ↦ rfl⟩

theorem takes_apply {r r' : Run} {event : PreviewEvent} (hr : d.run = some r)
    (hw : d.cell.isCurrent r'.writer) (hs : Run.Sheds r r' event) (now : Nat) :
    Takes d (d.apply now r' event).1 (d.apply now r' event).2 event (d.cell.value.apply event).2
      r'.inbox := by
  have hdoes := d.cell.value.does_apply event
  have hretry : d.retryAt? = r.resumeRetry := by simp [retryAt?, hr]
  have hunread : d.unread = r.inbox := by simp [unread, hr]
  have hrun : ({ d with
      cell := ⟨(d.cell.value.apply event).1, d.cell.epoch, d.cell.version + 1⟩,
      run := some r' } : PreviewDriver).run = some r' := rfl
  have hasks := performAll_asks hrun now (d.cell.value.apply event).2
  have hset := retryAt?_isSome_of_performAll hrun now (d.cell.value.apply event).2
  simp only [apply, Cell.update_of_current _ hw]
  refine ⟨by rw [cell_performAll]; exact hdoes, hunread ▸ hs.source, ?_, ?_, ?_, fun h ↦ ?_⟩
  · rcases hasks with ⟨hasks, -⟩ | ⟨hmem, -, hprefix⟩
    · exact hasks
    · have hnone := filterMap_query?_of_startCountdown hdoes hmem
      rw [hnone] at hprefix ⊢
      exact List.prefix_nil.1 hprefix
  · rcases hasks with ⟨-, hkept⟩ | ⟨hmem, hlost, -⟩
    · exact .inl hkept
    · exact .inr ⟨hmem, by simp [unread, hlost]⟩
  · exact fun heq ↦ hretry ▸ (hs.due heq).1
  · rcases hset h with hmem | hsome
    · exact .inl hmem
    · by_cases heq : event = .resumeRetryDue
      · rw [(hs.due heq).2] at hsome
        contradiction
      · exact .inr ⟨heq, by rw [hretry, ← hs.kept heq]; exact hsome⟩

/-- A wake brings a driver nothing, or an event that it takes up. -/
theorem Settled.wake (h : Settled d) (w : Wake) (now : Nat) :
    PreviewDriver.step now d w.event = (d, []) ∨
      ∃ event effects rest, Takes d (PreviewDriver.step now d w.event).1
        (PreviewDriver.step now d w.event).2 event effects rest := by
  have hproceed : PreviewDriver.step now d w.event = d.proceed now w.event := by cases w <;> rfl
  cases hr : d.run with
  | none => exact .inl (by simp only [hproceed, PreviewDriver.proceed, hr])
  | some r =>
    cases ht : r.take d.timing now w.event with
    | none => exact .inl (by simp only [hproceed, PreviewDriver.proceed, hr, ht])
    | some taken =>
      obtain ⟨r', event⟩ := taken
      have hw := h.isCurrent_of_take hr ht
      have hstep : PreviewDriver.step now d w.event = d.apply now r' event := by
        simp only [hproceed, PreviewDriver.proceed, hr, ht]
      rw [hstep]
      exact .inr ⟨event, _, _, takes_apply hr hw (Run.sheds_of_take ht) now⟩

end PreviewDriver

end JobWatch

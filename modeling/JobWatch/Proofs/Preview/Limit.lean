import JobWatch.Proofs.Preview.Schedule
import JobWatch.Proofs.Preview.Wake
import JobWatch.Settings.Layers

/-!
# A limit of no attempts to resume

Settings with a limit of no attempts are used with a warning that resume will never be attempted.
But the limit is looked at only when a request has failed. The request with which an attempt begins
goes out in any case, so such a driver asks the sandbox once for each signal that it takes up
(`posts_eq_acceptances`). What the limit rules out is another request: the timer for one is never
set (`Single`), and the first failure is the last.

So the warning comes true in those runs in which no signal to resume is taken up, and in no others.
-/

namespace JobWatch

namespace Settings

/-- The warning that a sandbox will not be resumed. -/
def noResume : String := "timing.resume_max_attempts is 0; resume will never be attempted"

theorem noResume_ne {text : String} (h : text.toList.head? ≠ some 't') : noResume ≠ text := by
  rintro rfl
  exact h (by decide)

/-- Settings are used with this warning exactly if their limit is zero. -/
theorem noResume_mem_warnings_iff (s : Settings) :
    noResume ∈ s.warnings ↔ s.timing.resumeMaxAttempts = 0 := by
  have hurl : noResume ≠ "Invalid api.base_url '" ++ s.api.baseUrl ++ "'" :=
    noResume_ne (by simp)
  have htoken : noResume ≠
      "No API token configured (set api.token or " ++ Environment.token ++ ")" :=
    noResume_ne (by simp)
  have hpage : noResume ≠ "timing.backfill_limit is 0; earlier logs cannot be loaded" := by decide
  have hsame : "timing.resume_max_attempts is 0; resume will never be attempted" = noResume := rfl
  rw [warnings, hsame]
  simp only [List.mem_append, List.mem_ite_nil_right, List.mem_singleton, hurl, htoken, hpage,
    and_false, and_true, false_or, or_false]

end Settings

namespace PreviewDriver

variable {timing : PreviewTiming} {d : PreviewDriver} {now : Nat} {e : Event}

instance (d : PreviewDriver) (e : Event) : Decidable (d.Accepts e) :=
  inferInstanceAs (Decidable (_ ∧ _))

/-- The signals to resume that a run takes up, with their times and the number of the next request.
-/
def acceptances : PreviewDriver → List (Nat × Event) → List (Nat × Nat)
  | _, [] => []
  | d, (now, e) :: es =>
    (if d.Accepts e then [(now, d.requests)] else []) ++ acceptances (step now d e).1 es

/-- Nothing was accepted in a run exactly if none of its events brings a signal that is taken up. -/
theorem acceptances_eq_nil_iff (d : PreviewDriver) (es : List (Nat × Event)) :
    acceptances d es = [] ↔ Machine.Along step (fun _ d e ↦ ¬ d.Accepts e) d es := by
  induction es generalizing d with
  | nil => simp [acceptances, Machine.Along]
  | cons x es ih =>
    obtain ⟨now, e⟩ := x
    rw [acceptances, List.append_eq_nil_iff, ih, Machine.along_cons]
    by_cases ha : d.Accepts e <;> simp [ha]

/-- A run takes up a signal only when it comes to its inbox. -/
theorem Accepts.receives (h : d.Accepts e) : e = .receive := by
  cases e with
  | receive => rfl
  | _ => exact absurd h.1 (by simp [signal?])

theorem Accepts.takes (h : d.Accepts e) :
    ∃ r, d.run = some r ∧ r.take d.timing now e ≠ none := by
  obtain rfl := h.receives
  obtain ⟨r, hr, hi⟩ := Option.bind_eq_some_iff.1 h.1
  obtain ⟨rest, hi⟩ := List.head?_eq_some_iff.1 hi
  exact ⟨r, hr, by simp [Run.take, hi]⟩

/-- A start asks for a check or for nothing. -/
theorem filterMap_post?_start (d : PreviewDriver) (now : Nat) (job : String)
    (params : PreviewParams) : (d.start now job params).2.filterMap Output.post? = [] := by
  have hnot : .requestResume ∉ (PreviewState.start job params d.timing).2 := by
    cases hp : params.sandboxPaused <;> simp [PreviewState.start, hp]
  exact filterMap_post?_performAll hnot

/-- An event that a run takes up lets it go on. -/
theorem continues_of_take {r r' : Run} {event : PreviewEvent}
    (h : r.take d.timing now e = some (r', event)) (paused : Bool) : e.Continues paused := by
  rcases Run.take_cases h with ⟨_, _, rfl, -⟩ | ⟨_, rfl, -⟩ | ⟨_, _, rfl, -⟩ | ⟨_, rfl, -⟩ |
    ⟨_, _, _, rfl, -⟩ <;> trivial

/-- An answer is waited for while the sandbox is asked to resume. -/
theorem Settled.resuming_of_answer (h : Settled d) {answer : Except ApiError ResumeResponse}
    (ha : d.answer? e = some answer) :
    d.cell.value.phase = .resuming ∧ ∃ id reply, e = .reply id reply := by
  cases e with
  | reply id reply =>
    refine ⟨?_, id, reply, rfl⟩
    have hasked : d.asked? = some id := by
      simp only [answer?] at ha
      split at ha
      · assumption
      · contradiction
    cases hr : d.run with
    | none => simp [asked?, hr] at hasked
    | some r =>
      have hflight : r.resources.request = some .resume := by
        simp only [asked?, hr, Option.bind_some] at hasked
        split at hasked <;> simp_all [Run.resources]
      exact ((h.fits r hr).phase_of_request hflight).1
  | _ => simp [answer?] at ha

/-! ## Drivers that ask once -/

/-- No other request to resume is due. -/
structure Single (timing : PreviewTiming) (d : PreviewDriver) : Prop where
  followed : Followed timing d
  unset : d.retryAt? = none

theorem single_new (timing : PreviewTiming) : Single timing (new timing) :=
  ⟨followed_after timing [], rfl⟩

section Step

variable (hm : timing.resumeMaxAttempts = 0)

include hm

/-- With a limit of no attempts, what goes on in a run asks the sandbox only to take up a signal. -/
theorem Started.asks_once {job : String} {params : PreviewParams}
    (h : Started timing job params d) (hunset : d.retryAt? = none)
    (he : e.Continues params.sandboxPaused) (now : Nat) :
    (PreviewDriver.step now d e).2.filterMap Output.post? =
        (if d.Accepts e then [d.requests] else []) ∧
      (PreviewDriver.step now d e).1.retryAt? = none := by
  have hsettled : Settled (PreviewDriver.step now d e).1 := h.settled.step now e
  by_cases ha : d.Accepts e
  · obtain ⟨hpost, -, -, -, hretry⟩ := h.begin ha now
    exact ⟨by rw [hpost, if_pos ha], hretry⟩
  · rw [if_neg ha]
    by_cases hp : d.cell.value.phase = .resuming
    · have hnext := h.next he hp now
      generalize (PreviewDriver.step now d e).2.filterMap Output.post? = out at hnext
      cases hnext with
      | succeeds _ _ loading => exact ⟨rfl, hsettled.retryAt?_eq_none (by rw [loading]; decide)⟩
      | fails _ _ left => omega
      | givesUp _ _ _ failed => exact ⟨rfl, hsettled.retryAt?_eq_none (by rw [failed]; decide)⟩
      | asks due _ retryAt => rw [hunset] at retryAt; contradiction
      | breaksOff _ _ error => exact ⟨rfl, hsettled.retryAt?_eq_none (by rw [error]; decide)⟩
      | stays _ _ _ _ _ retryAt => exact ⟨rfl, retryAt.trans hunset⟩
    · obtain ⟨hnone, hp'⟩ := h.quiet he hp ha now
      exact ⟨hnone, hsettled.retryAt?_eq_none hp'⟩

/-- With a limit of no attempts, one event asks the sandbox only to take up a signal. -/
theorem Single.step (h : Single timing d) (now : Nat) (e : Event) :
    (PreviewDriver.step now d e).2.filterMap Output.post? =
        (if d.Accepts e then [d.requests] else []) ∧
      Single timing (PreviewDriver.step now d e).1 := by
  have hfollowed : Followed timing (PreviewDriver.step now d e).1 := h.followed.step now e
  suffices hstep : (PreviewDriver.step now d e).2.filterMap Output.post? =
        (if d.Accepts e then [d.requests] else []) ∧
      (PreviewDriver.step now d e).1.retryAt? = none from ⟨hstep.1, hfollowed, hstep.2⟩
  rcases h.followed.step_outcome now e with ⟨more, hs, huntaken⟩ | ⟨r, r', event, hr, ht, -⟩ |
    ⟨job, params, hagain, hs⟩ | ⟨rfl, hs⟩
  · have hnot : ¬ d.Accepts e := fun ha ↦ by
      obtain ⟨r, hr, htake⟩ := ha.takes
      exact htake (huntaken r hr)
    rw [hs, if_neg hnot]
    exact ⟨rfl, (retryAt?_hear d more).trans h.unset⟩
  · obtain ⟨job, params, hstarted⟩ := h.followed.resolve_left fun hlost ↦ by simp [hlost.1] at hr
    exact hstarted.asks_once hm h.unset (continues_of_take ht _) now
  · have hnot : ¬ d.Accepts e := fun ha ↦ by
      rcases hagain with rfl | rfl <;> exact absurd ha.receives (by simp)
    have hphase : (PreviewDriver.step now d e).1.cell.value.phase ≠ .resuming := by
      rw [hs, value_start]
      rcases PreviewState.phase_start job params d.timing with hp | hp <;> simp [hp]
    refine ⟨?_, hfollowed.settled.retryAt?_eq_none hphase⟩
    rw [hs, if_neg hnot, filterMap_post?_start]
  · rw [hs]
    exact ⟨rfl, rfl⟩

/-- After any run, no other request to resume is due. -/
theorem Single.after (es : List (Nat × Event)) :
    Single timing (Machine.after PreviewDriver.step (new timing) es) :=
  Machine.after_of_every_step (fun now _ e h ↦ (h.step hm now e).2) (single_new timing) es

/-- The requests of a run are those of the signals that it takes up. -/
theorem Single.posts_eq_acceptances (h : Single timing d) (es : List (Nat × Event)) :
    posts (Machine.outputs PreviewDriver.step d es) = acceptances d es := by
  induction es generalizing d with
  | nil => rfl
  | cons x es ih =>
    obtain ⟨now, e⟩ := x
    obtain ⟨hpost, hsingle⟩ := h.step hm now e
    rw [Machine.outputs_cons, posts_append, posts_timed, hpost, acceptances, ih hsingle]
    split <;> rfl

/-- The first failure is the last. -/
theorem Single.givesUp (h : Single timing d) {err : ApiError}
    (ha : d.answer? e = some (.error err)) (now : Nat) :
    (PreviewDriver.step now d e).1.cell.value.phase = .resumeFailed ∧
      (PreviewDriver.step now d e).1.cell.value.resumeErrorKind = some (.classify err) := by
  obtain ⟨hp, id, reply, rfl⟩ := h.followed.settled.resuming_of_answer ha
  obtain ⟨job, params, hstarted⟩ := h.followed.started (by rw [hp]; decide)
  have he : (Event.reply id reply).Continues params.sandboxPaused := trivial
  have hnext := hstarted.next he hp now
  generalize (PreviewDriver.step now d (.reply id reply)).2.filterMap Output.post? = out at hnext
  cases hnext with
  | givesUp err' answered _ failed kind =>
    rw [ha] at answered
    cases answered
    exact ⟨failed, kind⟩
  | fails _ _ left => omega
  | succeeds _ answered => rw [ha] at answered; cases answered
  | asks _ timer => cases timer
  | breaksOff _ signal => simp [signal?] at signal
  | stays answered => rw [ha] at answered; cases answered

end Step

/-- What comes of the warning that resume will never be attempted.

In every run of a driver with the timing of such settings, the sandbox is asked to resume once for
each signal that is taken up while it is paused or given up, at once, and never otherwise. So the
warning comes true of a run exactly if no signal is taken up. No other request is ever due, and the
failure of the one is where the attempt ends. -/
theorem asked_despite_warning (s : Settings) (hwarned : Settings.noResume ∈ s.warnings)
    (es : List (Nat × Event)) :
    let d₀ := new s.timing.session.preview
    let d := Machine.after step d₀ es
    let sent := posts (Machine.outputs step d₀ es)
    sent = acceptances d₀ es ∧
    (sent = [] ↔ Machine.Along step (fun _ d e ↦ ¬ d.Accepts e) d₀ es) ∧
    d.retryAt? = none ∧
    ∀ now e err, d.answer? e = some (.error err) →
      (step now d e).1.cell.value.phase = .resumeFailed ∧
      (step now d e).1.cell.value.resumeErrorKind = some (.classify err) := by
  intro d₀ d sent
  have hm : s.timing.session.preview.resumeMaxAttempts = 0 := s.noResume_mem_warnings_iff.1 hwarned
  have h : Single s.timing.session.preview d := Single.after hm es
  have hsent : sent = acceptances d₀ es := (single_new _).posts_eq_acceptances hm es
  refine ⟨hsent, ?_, h.unset, fun now e err ha ↦ h.givesUp hm ha now⟩
  rw [hsent]
  exact acceptances_eq_nil_iff d₀ es

/-- Two signals send two requests: the user tries again after the first has failed. The second
fails as well, and the sandbox is given up again at once. -/
theorem two_requests_for_two_signals :
    let s : Settings :=
      { Settings.standard with
        timing := { Settings.standard.timing with resumeMaxAttempts := 0 } }
    let d₀ := new s.timing.session.preview
    let es : List (Nat × Event) :=
      [(0, .start "j1" ⟨none, none, true⟩), (10, .resume), (10, .receive),
        (30010, .reply 0 (.error .timeout)), (60000, .resume), (60000, .receive)]
    let d := (step 90000 (Machine.after step d₀ es) (.reply 1 (.error .timeout))).1
    Settings.noResume ∈ s.warnings ∧ posts (Machine.outputs step d₀ es) = [(10, 0), (60000, 1)] ∧
      d.cell.value.phase = .resumeFailed := by
  intro s d₀ es d
  have hwarned : Settings.noResume ∈ s.warnings := s.noResume_mem_warnings_iff.2 rfl
  obtain ⟨hsent, -, -, hfails⟩ := asked_despite_warning s hwarned es
  have haccepted : acceptances d₀ es = [(10, 0), (60000, 1)] := by decide +kernel
  have hanswer : (Machine.after step d₀ es).answer? (.reply 1 (.error .timeout)) =
      some (.error .timeout) := by rfl
  exact ⟨hwarned, hsent.trans haccepted, (hfails 90000 _ _ hanswer).1⟩

/-- A paused sandbox is asked to resume by a driver with the timing of settings that were warned
of. -/
theorem sandbox_asked_against_warning :
    let s : Settings :=
      { Settings.standard with
        timing := { Settings.standard.timing with resumeMaxAttempts := 0 } }
    let es : List (Nat × Event) :=
      [(0, .start "j1" ⟨some "https://u.example.com", none, true⟩), (0, .resume), (0, .receive)]
    posts (Machine.outputs step (new s.timing.session.preview) es) = [(0, 0)] ∧
      ¬ ∀ (s : Settings) (es : List (Nat × Event)), Settings.noResume ∈ s.warnings →
        posts (Machine.outputs step (new s.timing.session.preview) es) = [] := by
  intro s es
  have hsent : posts (Machine.outputs step (new s.timing.session.preview) es) = [(0, 0)] := by
    decide +kernel
  refine ⟨hsent, fun htruthful ↦ ?_⟩
  have hnone := htruthful s es (s.noResume_mem_warnings_iff.2 rfl)
  rw [hsent] at hnone
  contradiction

end PreviewDriver

end JobWatch

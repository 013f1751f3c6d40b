import JobWatch.Proofs.Preview.Resume
import JobWatch.Proofs.Preview.Transitions
import Mathlib.Data.List.Induction

/-!
# Why a preview is where it is

A preview that is blocked, that has failed or that could not be resumed says why, and one that is
counted down says how long it has left. These fields are set by different transitions and cleared by
others, and a failure may take any of them along. `Reasons` tells which of them a phase may have;
every transition keeps it.

One field is not cleared where the others are. A retry forgets why a preview was blocked or has
failed, but not why its sandbox could not be resumed. So that reason stays, for good, if an error is
reported after the sandbox was given up: no transition leads back to where it would be cleared
(`resumeErrorKind_eq_some_iff`).
-/

namespace JobWatch

namespace PreviewState

variable {s s' : PreviewState} {event : PreviewEvent} {effects : List PreviewEffect}

/-- What a preview says beside its phase belongs to the phase. -/
structure Reasons (s : PreviewState) : Prop where
  block : s.blockReason.isSome → s.phase = .blocked ∨ s.phase = .error
  message : s.errorMessage.isSome ↔ s.phase = .error
  /-- Time remains while the preview is shown, and none when it has expired. -/
  remaining : ∀ r, s.timeRemaining = some r →
    s.phase = .active ∧ 1 ≤ r ∨ s.phase = .expired ∧ r = 0 ∨ s.phase = .error ∧ 0 ≤ r
  given : s.phase = .resumeFailed → s.resumeErrorKind.isSome
  /-- A sandbox that may yet be resumed has not been given up. -/
  awaited : s.phase = .paused ∨ s.phase = .resuming → s.resumeErrorKind = none

/-- The reasons of a preview that starts fit its phase. -/
theorem reasons_start (job : String) (params : PreviewParams) (timing : PreviewTiming) :
    Reasons (start job params timing).1 := by
  cases hp : params.sandboxPaused <;> constructor <;> simp [start, empty, hp]

/-- Outside of the phases for them there is neither a block reason nor a message. -/
theorem Reasons.silent (h : Reasons s) (hblocked : s.phase ≠ .blocked)
    (herror : s.phase ≠ .error) :
    s.blockReason = none ∧ s.errorMessage = none := by
  constructor
  · cases hb : s.blockReason with
    | none => rfl
    | some reason => exact absurd (h.block (by rw [hb]; rfl)) (by simp [hblocked, herror])
  · cases hm : s.errorMessage with
    | none => rfl
    | some message => exact absurd (h.message.1 (by rw [hm]; rfl)) herror

theorem Reasons.uncounted (h : Reasons s) (hactive : s.phase ≠ .active)
    (hexpired : s.phase ≠ .expired) (herror : s.phase ≠ .error) : s.timeRemaining = none := by
  cases ht : s.timeRemaining with
  | none => rfl
  | some r => exact absurd (h.remaining r ht) (by simp [hactive, hexpired, herror])

/-- Where nothing is said, only the reason why a sandbox was given up has to fit. -/
theorem Reasons.of_silent (hblock : s.blockReason = none) (hmessage : s.errorMessage = none)
    (htime : s.timeRemaining = none) (herror : s.phase ≠ .error)
    (hgiven : s.phase = .resumeFailed → s.resumeErrorKind.isSome)
    (hawaited : s.phase = .paused ∨ s.phase = .resuming → s.resumeErrorKind = none) :
    Reasons s where
  block := by simp [hblock]
  message := by simp [hmessage, herror]
  remaining := by simp [htime]
  given := hgiven
  awaited := hawaited

/-- Every transition keeps the reasons in step with the phase. -/
theorem Reasons.step (hd : Does s event s' effects) (h : Reasons s) : Reasons s' := by
  -- A transition from a phase in which nothing is said starts from empty fields.
  have hfrom : s.phase ∉ [.blocked, .error] →
      s.blockReason = none ∧ s.errorMessage = none ∧
        (s.phase ∉ [.active, .expired] → s.timeRemaining = none) := fun hp ↦ by
    simp only [List.mem_cons, List.not_mem_nil, or_false, not_or] at hp ⊢
    obtain ⟨hblock, hmessage⟩ := h.silent hp.1 hp.2
    exact ⟨hblock, hmessage, fun hq ↦ h.uncounted hq.1 hq.2 hp.2⟩
  cases hd with
  | ignores | lasts | waits => exact h
  | fails =>
    refine ⟨fun _ ↦ .inr rfl, by simp, fun r hr ↦ .inr (.inr ⟨rfl, ?_⟩), nofun, nofun⟩
    rcases h.remaining r hr with ⟨-, h⟩ | ⟨-, h⟩ | ⟨-, h⟩ <;> omega
  | allows check phase | resumed response phase | shows phase =>
    obtain ⟨hblock, hmessage, htime⟩ := hfrom (by simp [phase])
    exact .of_silent hblock hmessage (htime (by simp [phase])) nofun nofun (by simp)
  | blocks check phase =>
    obtain ⟨-, hmessage, htime⟩ := hfrom (by simp [phase])
    exact ⟨fun _ ↦ .inl rfl, by simp [hmessage], by simp [htime (by simp [phase])], nofun, by simp⟩
  | expires now expires phase =>
    obtain ⟨hblock, hmessage, -⟩ := hfrom (by simp [phase])
    exact ⟨by simp [hblock], by simp [hmessage], by simp, nofun, by simp⟩
  | warns now expires phase known left | counts now expires phase known left =>
    obtain ⟨hblock, hmessage, -⟩ := hfrom (by simp [phase])
    have hremaining : ∀ r, some (now.secondsUntil expires) = some r → 1 ≤ r := fun r hr ↦
      Option.some.inj hr ▸ left
    exact ⟨by simp [hblock], by simp [hmessage, phase], fun r hr ↦ .inl ⟨phase, hremaining r hr⟩,
      by simp [phase], by simp [phase]⟩
  | resumes phase =>
    obtain ⟨hblock, hmessage, htime⟩ := hfrom (by rcases phase with hp | hp <;> simp [hp])
    have htime := htime (by rcases phase with hp | hp <;> simp [hp])
    exact .of_silent hblock hmessage htime nofun nofun fun _ ↦ rfl
  | givesUp e phase =>
    obtain ⟨hblock, hmessage, htime⟩ := hfrom (by simp [phase])
    exact .of_silent hblock hmessage (htime (by simp [phase])) nofun (fun _ ↦ rfl) (by simp)
  | asksAgain phase =>
    obtain ⟨hblock, hmessage, htime⟩ := hfrom (by simp [phase])
    exact .of_silent hblock hmessage (htime (by simp [phase])) (by simp [phase])
      (by simp [phase]) h.awaited
  | retries phase => exact .of_silent rfl rfl rfl nofun nofun (by simp)

theorem reasons_applyAll (h : Reasons s) (es : List PreviewEvent) : Reasons (s.applyAll es) :=
  applyAll_of_does (fun _ _ _ _ hd h ↦ h.step hd) h es

/-! ## The reason that is not cleared -/

/-- Whether an error was reported in a run when the sandbox had been given up for a reason. -/
def ReportedAfter (s : PreviewState) (es : List PreviewEvent) (kind : ResumeErrorKind) : Prop :=
  ∃ before message later, es = before ++ .reportError message :: later ∧
    (s.applyAll before).phase = .resumeFailed ∧
    (s.applyAll before).resumeErrorKind = some kind

theorem ReportedAfter.concat {es : List PreviewEvent} {kind : ResumeErrorKind}
    (h : ReportedAfter s es kind) (event : PreviewEvent) :
    ReportedAfter s (es ++ [event]) kind := by
  obtain ⟨before, message, later, rfl, hphase, hkind⟩ := h
  exact ⟨before, message, later ++ [event], by simp, hphase, hkind⟩

/-- Nothing touches the reason once the preview is not suspended, and it is not suspended again. -/
theorem resumeErrorKind_of_does (hd : Does s event s' effects) (h : ¬ s.phase.isSuspended) :
    s'.resumeErrorKind = s.resumeErrorKind ∧ ¬ s'.phase.isSuspended := by
  cases hd with
  | resumes phase => rcases phase with phase | phase <;> simp [phase, PreviewPhase.isSuspended] at h
  | givesUp e phase => simp [phase, PreviewPhase.isSuspended] at h
  | ignores | lasts | waits | counts | warns | asksAgain => exact ⟨rfl, h⟩
  | _ => simp [PreviewPhase.isSuspended]

/-- A reason is left in another phase than where it was given only by a reported error. -/
theorem reportedAfter_of_does {es : List PreviewEvent} {kind : ResumeErrorKind}
    (hd : Does (s.applyAll es) event s' effects) (hphase : s'.phase ≠ .resumeFailed)
    (hkind : s'.resumeErrorKind = some kind)
    (ih : (s.applyAll es).phase ≠ .resumeFailed →
      (s.applyAll es).resumeErrorKind = some kind → ReportedAfter s es kind) :
    ReportedAfter s (es ++ [event]) kind := by
  cases hd with
  | fails _ message failure =>
    by_cases hgiven : (s.applyAll es).phase = .resumeFailed
    · -- In this phase no failure comes but one that is reported.
      cases failure with
      | check e phase => rw [hgiven] at phase; contradiction
      | timeout phase => rw [hgiven] at phase; contradiction
      | report => exact ⟨es, message, [], rfl, hgiven, hkind⟩
    · exact (ih hgiven hkind).concat _
  | resumes => contradiction
  | givesUp => contradiction
  | retries phase =>
    refine (ih ?_ hkind).concat _
    rcases phase with phase | phase <;> simp [phase]
  | ignores => exact (ih hphase hkind).concat _
  | allows _ phase | blocks _ phase | shows phase | lasts _ phase | expires _ _ phase
  | warns _ _ phase | counts _ _ phase | resumed _ phase | waits _ phase | asksAgain phase =>
    exact (ih (by simp [phase]) hkind).concat _

/-- Where the sandbox is not just given up, the reason why it was is still there exactly if an
error was reported then. -/
theorem resumeErrorKind_eq_some_iff (hstart : s.resumeErrorKind = none) {es : List PreviewEvent}
    (hphase : (s.applyAll es).phase ≠ .resumeFailed) (kind : ResumeErrorKind) :
    (s.applyAll es).resumeErrorKind = some kind ↔ ReportedAfter s es kind := by
  constructor
  · intro hkind
    induction es using List.reverseRecOn with
    | nil => simp [hstart] at hkind
    | append_singleton es event ih =>
      rw [applyAll_concat] at hphase hkind
      exact reportedAfter_of_does (does_apply _ event) hphase hkind fun hp hk ↦ ih hp hk
  · rintro ⟨before, message, later, rfl, hgiven, hkind⟩
    have hreported : ((s.applyAll before).apply (.reportError message)).1.resumeErrorKind =
        some kind ∧ ¬ ((s.applyAll before).apply (.reportError message)).1.phase.isSuspended := by
      simp [apply, fail, hkind, PreviewPhase.isSuspended]
    rw [applyAll_append, applyAll_cons]
    exact (applyAll_of_does (P := fun s ↦ s.resumeErrorKind = some kind ∧ ¬ s.phase.isSuspended)
      (fun _ _ _ _ hd h ↦ (resumeErrorKind_of_does hd h.2).imp_left (·.trans h.1))
      hreported later).1

/-- What a preview says beside its phase belongs to the phase, in every run, except for the reason
why its sandbox could not be resumed. Outside the phase in which it is given, that reason is there
exactly if an error was reported when it was: then it stays, whatever comes, a retry included. -/
theorem reasons_fit_phase (job : String) (params : PreviewParams) (timing : PreviewTiming)
    (es : List PreviewEvent) :
    let s₀ := (start job params timing).1
    let s := s₀.applyAll es
    Reasons s ∧
      (s.phase ≠ .resumeFailed →
        ∀ kind, s.resumeErrorKind = some kind ↔ ReportedAfter s₀ es kind) := by
  intro s₀ s
  exact ⟨reasons_applyAll (reasons_start job params timing) es,
    fun hphase kind ↦ resumeErrorKind_eq_some_iff rfl hphase kind⟩

/-- A sandbox is given up, asked to resume again, and runs: the first reason is gone when the
preview is shown. -/
theorem given_up_sandbox_shown_later :
    let timing : PreviewTiming := { PreviewTiming.standard with resumeMaxAttempts := 1 }
    let s₀ := (start "j1" ⟨none, none, true⟩ timing).1
    let es : List PreviewEvent :=
      [.resumeRequested, .resumeFailed .timeout, .resumeRequested,
        .resumeSucceeded ⟨"https://u.example.com", none⟩, .markLoaded]
    let s := s₀.applyAll es
    Reasons s ∧ s.phase = .active ∧ ∀ kind, ¬ ReportedAfter s₀ es kind := by
  intro timing s₀ es s
  have hactive : s.phase = .active := by decide
  have hgone : s.resumeErrorKind = none := by decide
  obtain ⟨hreasons, hkind⟩ := reasons_fit_phase "j1" ⟨none, none, true⟩ timing es
  refine ⟨hreasons, hactive, fun kind hreported ↦ ?_⟩
  have hkept := (hkind (by rw [hactive]; decide) kind).2 hreported
  exact absurd (hgone.symm.trans hkept) (by simp)

/-- A sandbox is given up, then the host reports an error, and the user tries again. The error is
gone while the preview is checked; the reason why the sandbox was given up is not. -/
theorem resume_reason_kept_by_retry :
    let timing : PreviewTiming := { PreviewTiming.standard with resumeMaxAttempts := 1 }
    let s := (start "j1" ⟨some "https://u.example.com", none, true⟩ timing).1.applyAll
      [.resumeRequested, .resumeFailed .timeout, .reportError "frame refused to connect", .retry]
    s.phase = .checking ∧ s.errorMessage = none ∧
      s.resumeErrorKind = some .sandboxUnreachable ∧
      ¬ (s.resumeErrorKind.isSome → s.phase = .resumeFailed ∨ s.phase = .error) := by
  decide

end PreviewState

end JobWatch

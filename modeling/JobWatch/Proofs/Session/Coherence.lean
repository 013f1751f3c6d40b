import JobWatch.Proofs.Logs.Connection
import JobWatch.Proofs.Preview.Resume
import JobWatch.Proofs.Session.Following

/-!
# The parts of a session agree

The job of a session is kept in four places, and whether its sandbox is paused in two: by the
session, which compares that with the status, and by the preview, which starts over only when its
own copy says so. `Coherent` says that the copies agree. Whatever happens to a session keeps them
so, as long as nobody steers a controller past the session (`Event.bypasses`): what comes from the
backend, a timer or the host leaves the job of a controller alone.

So the preview is started over whenever a sync says that it is, and a sync after which the status
has not changed leaves the next one with nothing to do (`session_coherent`).
-/

namespace JobWatch

/-! ## What is published keeps its job -/

/-- A log stays that of its job until the run is ended. -/
theorem Feed.jobId_step (f : Feed) {e : Event} (he : e.endsRun = false) :
    (f.step e).1.cell.value.jobId = f.cell.value.jobId := by
  rcases step_cases f e with ⟨job, rfl⟩ | rfl | rfl | hcontinues
  · exact nomatch he
  · exact nomatch he
  · simp only [step, loadEarlier]
    split <;> rfl
  · exact hcontinues.jobId

theorem PreviewState.jobId_apply (s : PreviewState) (event : PreviewEvent) :
    (s.apply event).1.jobId = s.jobId := by
  unfold apply
  split <;> try rfl
  · unfold checked
    split <;> rfl
  · unfold tick
    split
    · rfl
    · dsimp only
      split
      · rfl
      · split <;> rfl
  · split <;> rfl

namespace PreviewDriver

/-- Whether an event tells the driver what to follow: a start, a disposal or a change of the pause.
-/
def Event.steers : Event → Bool
  | .start _ _ | .setPaused _ | .dispose => true
  | _ => false

variable (d : PreviewDriver) (now : Nat)

theorem jobId_apply (r : Run) (event : PreviewEvent) :
    (d.apply now r event).1.cell.value.jobId = d.cell.value.jobId := by
  by_cases hw : d.cell.isCurrent r.writer
  · simp only [apply, Cell.update_of_current _ hw, cell_performAll]
    exact PreviewState.jobId_apply ..
  · rw [Bool.not_eq_true] at hw
    simp only [apply, Cell.update_of_stale _ hw]

/-- A preview stays that of its job, with its parameters, until the driver is steered. -/
theorem frame_step {e : Event} (he : e.steers = false) :
    (step now d e).1.cell.value.jobId = d.cell.value.jobId ∧
      (step now d e).1.current = d.current := by
  cases e with
  | start | setPaused | dispose => exact nomatch he
  | markLoaded | retry | resume | reportError =>
    simp only [step, send]
    split <;> exact ⟨rfl, rfl⟩
  | receive | loadTimeout | countdown | resumeRetry | reply =>
    simp only [step, proceed]
    split
    · exact ⟨rfl, rfl⟩
    · split
      · exact ⟨rfl, rfl⟩
      · exact ⟨jobId_apply .., current_apply ..⟩

theorem jobId_start (job : String) (params : PreviewParams) :
    (d.start now job params).1.cell.value.jobId = some job := by
  simp only [start, cell_performAll]
  rfl

theorem current_start (job : String) (params : PreviewParams) :
    (d.start now job params).1.current = some (job, params) := by
  simp only [start, current_performAll]

/-- A preview that was started has a run. -/
theorem exists_run_start (job : String) (params : PreviewParams) :
    ∃ r, (d.start now job params).1.run = some r ∧ r.job = job := by
  cases hpaused : params.sandboxPaused with
  | true => exact ⟨_, by simp only [start, PreviewState.start, hpaused]; rfl, rfl⟩
  | false => exact ⟨_, by simp only [start, PreviewState.start, hpaused]; rfl, rfl⟩

/-- A start is never without a trace. -/
theorem epoch_start (job : String) (params : PreviewParams) :
    (d.start now job params).1.cell.epoch = d.cell.epoch + 1 := by
  simp only [start, cell_performAll]
  rfl

end PreviewDriver

namespace Session

/-- Whether an event steers a controller past the session. -/
def Event.bypasses : Event → Bool
  | .switchJob _ | .syncPreview => false
  | .status e => e.endsRun
  | .logs e => e.endsRun
  | .preview e => e.steers

/-- Whether an output tells that the preview was started, or started over. -/
def Output.started : Output → Bool
  | .synced started => started
  | _ => false

theorem any_started_concat (out : List Output) (started : Bool) :
    (out ++ [Output.synced started]).any Output.started = (out.any Output.started || started) := by
  rw [List.any_append, List.any_cons, List.any_nil, Bool.or_false]
  rfl

/-! ## The invariant -/

/-- The copies of the job and of the pause agree. -/
structure Coherent (s : Session) : Prop where
  status : s.status.cell.value.jobId = s.job
  logs : s.logs.cell.value.jobId = s.job
  preview : s.preview.cell.value.jobId = s.preview.current.map (·.1)
  current : ∀ job params, s.preview.current = some (job, params) → s.job = some job
  paused : s.previewPaused = s.preview.current.map (·.2.sandboxPaused)

variable {s : Session}

theorem Coherent.new (timing : SessionTiming) : Coherent (new timing) where
  status := rfl
  logs := rfl
  preview := rfl
  current _ _ h := nomatch h
  paused := rfl

/-- A preview that starts with the job of the session is that of the session. -/
theorem Coherent.start (h : Coherent s) (now : Nat) {job : String} (hjob : s.job = some job)
    (params : PreviewParams) :
    Coherent { s with
      preview := (s.preview.start now job params).1
      previewPaused := some params.sandboxPaused } where
  status := h.status
  logs := h.logs
  preview := by rw [PreviewDriver.jobId_start, PreviewDriver.current_start]; rfl
  current job' params' hcurrent := by
    rw [PreviewDriver.current_start] at hcurrent
    obtain ⟨rfl, -⟩ := Prod.mk.inj (Option.some.inj hcurrent)
    exact hjob
  paused := by rw [PreviewDriver.current_start]; rfl

/-- A switch to another job leaves three controllers that are pointed at that one. -/
theorem Coherent.switchJob (h : Coherent s) (now : Nat) (job : Option String) :
    Coherent (s.switchJob now job).1 := by
  by_cases heq : s.job = job
  · simp only [Session.switchJob, heq, if_true]
    exact h
  · rw [switchJob_of_ne heq]
    have hpoller : (Poller.step now s.status (pollerEvent job)).1.cell.value.jobId = job := by
      cases job with
      | none => rfl
      | some id => exact Poller.jobId_start ..
    have hfeed : (s.logs.step (feedEvent job)).1.cell.value.jobId = job := by
      cases job with
      | none => rfl
      | some id => rfl
    refine ⟨hpoller, hfeed, rfl, fun _ _ hcurrent ↦ ?_, rfl⟩
    cases hcurrent

/-! ## Syncs -/

/-- The parameters of a preview that is started by a sync: those of the status where none are
remembered, and otherwise those that are, but for the pause. -/
def startParams (s : Session) : PreviewParams :=
  match s.preview.current with
  | none => previewParams s.status.cell.value
  | some (_, params) => { params with sandboxPaused := s.status.cell.value.sandboxPaused }

/-- A start takes the pause from the status. -/
theorem sandboxPaused_startParams (s : Session) :
    s.startParams.sandboxPaused = s.status.cell.value.sandboxPaused := by
  unfold startParams
  split <;> rfl

/-- There is nothing to do for a sync. -/
inductive UpToDate (s : Session) : Prop where
  | idle (h : s.job = none)
  | elsewhere (h : s.status.cell.value.jobId ≠ s.job)
  /-- The status carries no preview. -/
  | bare (h : hasPreview s.status.cell.value = false)
  /-- The preview was started with the pause that the status has. -/
  | same (h : s.previewPaused = some s.status.cell.value.sandboxPaused)

/-- It depends on what a sync looks at alone. -/
theorem UpToDate.of_eq {t : Session} (h : UpToDate s) (hjob : t.job = s.job)
    (hstatus : t.status.cell.value = s.status.cell.value)
    (hpaused : t.previewPaused = s.previewPaused) : UpToDate t := by
  cases h with
  | idle h => exact .idle (hjob.trans h)
  | elsewhere h => exact .elsewhere (by rw [hstatus, hjob]; exact h)
  | bare h => exact .bare (by rw [hstatus]; exact h)
  | same h => exact .same (by rw [hstatus, hpaused]; exact h)

/-- When the preview is up to date, a sync does nothing. -/
theorem UpToDate.syncPreview (h : UpToDate s) (now : Nat) :
    s.syncPreview now = (s, [.synced false]) := by
  cases h with
  | idle h => simp only [Session.syncPreview, h]
  | elsewhere h =>
    cases hjob : s.job with
    | none => simp only [Session.syncPreview, hjob]
    | some job =>
      rw [hjob] at h
      simp only [Session.syncPreview, hjob, h, ne_eq, not_false_iff, true_or, if_true]
  | bare h =>
    cases hjob : s.job with
    | none => simp only [Session.syncPreview, hjob]
    | some job => simp only [Session.syncPreview, hjob, h, or_true, if_true]
  | same h =>
    cases hjob : s.job with
    | none => simp only [Session.syncPreview, hjob]
    | some job => simp only [Session.syncPreview, hjob, h, if_true, ite_self]

/-- A sync either has nothing to do, or starts the preview of the job. -/
theorem Coherent.syncPreview_cases (h : Coherent s) (now : Nat) :
    UpToDate s ∨
    ∃ job, s.job = some job ∧
      s.syncPreview now =
        ({ s with
            preview := (s.preview.start now job s.startParams).1
            previewPaused := some s.startParams.sandboxPaused },
          (s.preview.start now job s.startParams).2.map .preview ++ [.synced true]) := by
  cases hjob : s.job with
  | none => exact .inl (.idle hjob)
  | some job =>
    by_cases hpreview : hasPreview s.status.cell.value
    · have hstatus : s.status.cell.value.jobId = some job := h.status.trans hjob
      have hpaused := h.paused
      cases hcurrent : s.preview.current with
      | none =>
        rw [hcurrent, Option.map_none] at hpaused
        refine .inr ⟨job, rfl, ?_⟩
        simp [Session.syncPreview, hjob, hstatus, hpreview, hpaused, startParams, hcurrent,
          stepPreview, PreviewDriver.step, previewParams]
      | some remembered =>
        obtain ⟨job', params⟩ := remembered
        obtain rfl : job' = job := Option.some.inj ((h.current _ _ hcurrent).symm.trans hjob)
        rw [hcurrent, Option.map_some] at hpaused
        by_cases hsame : params.sandboxPaused = s.status.cell.value.sandboxPaused
        · rw [hsame] at hpaused
          exact .inl (.same hpaused)
        · refine .inr ⟨job', rfl, ?_⟩
          simp [Session.syncPreview, hjob, hstatus, hpreview, hpaused, hsame, startParams, hcurrent,
            stepPreview, PreviewDriver.step, PreviewDriver.setPaused]
    · rw [Bool.not_eq_true] at hpreview
      exact .inl (.bare hpreview)

/-- A sync leaves a session coherent. -/
theorem Coherent.syncPreview (h : Coherent s) (now : Nat) : Coherent (s.syncPreview now).1 := by
  rcases h.syncPreview_cases now with hdone | ⟨job, hjob, heq⟩
  · rw [hdone.syncPreview]
    exact h
  · rw [heq]
    exact h.start now hjob _

/-- After a sync there is nothing to do for another one. -/
theorem Coherent.upToDate_syncPreview (h : Coherent s) (now : Nat) :
    UpToDate (s.syncPreview now).1 := by
  rcases h.syncPreview_cases now with hdone | ⟨job, hjob, heq⟩
  · rw [hdone.syncPreview]
    exact hdone
  · rw [heq]
    exact .same (congrArg some s.sandboxPaused_startParams)

/-- What a sync tells is whether it has started the preview. -/
theorem Coherent.started_syncPreview (h : Coherent s) (now : Nat) :
    (s.syncPreview now).2.any Output.started ↔
      ∃ job params, s.job = some job ∧
        (s.syncPreview now).1.preview = (s.preview.start now job params).1 := by
  rcases h.syncPreview_cases now with hdone | ⟨job, hjob, heq⟩
  · rw [hdone.syncPreview]
    refine iff_of_false Bool.false_ne_true ?_
    rintro ⟨job, params, -, hstart⟩
    have hepoch := s.preview.epoch_start now job params
    rw [← hstart] at hepoch
    exact Nat.ne_add_one _ hepoch
  · refine iff_of_true ?_ ⟨job, s.startParams, hjob, ?_⟩
    · rw [heq, any_started_concat, Bool.or_true]
    · rw [heq]

/-! ## Every step -/

/-- What does not steer a controller keeps the session coherent. -/
theorem Coherent.step (h : Coherent s) (now : Nat) {e : Event} (he : e.bypasses = false) :
    Coherent (Session.step now s e).1 := by
  cases e with
  | switchJob job => exact h.switchJob now job
  | syncPreview => exact h.syncPreview now
  | status e =>
    have hstatus := (s.status.jobId_step now he).trans h.status
    exact ⟨hstatus, h.logs, h.preview, h.current, h.paused⟩
  | logs e =>
    have hlogs := (s.logs.jobId_step he).trans h.logs
    exact ⟨h.status, hlogs, h.preview, h.current, h.paused⟩
  | preview e =>
    obtain ⟨hjob, hcurrent⟩ := s.preview.frame_step now he
    refine ⟨h.status, h.logs, ?_, fun job params hsome ↦ ?_, ?_⟩
    · exact hjob.trans (h.preview.trans (congrArg _ hcurrent.symm))
    · exact h.current job params (hcurrent.symm.trans hsome)
    · exact h.paused.trans (congrArg _ hcurrent.symm)

/-- A session is coherent after any run in which nobody goes past it. -/
theorem coherent_after (timing : SessionTiming) {es : List (Nat × Event)}
    (hes : ∀ x ∈ es, x.2.bypasses = false) :
    Coherent (Machine.after Session.step (new timing) es) :=
  Machine.after_of_step (fun now _ _ he h ↦ h.step now he) (Coherent.new timing) hes

/-- A run in which no event changes what is known of the status. -/
def SameStatus : Session → List (Nat × Event) → Prop :=
  Machine.Along step fun now s e ↦ (step now s e).1.status.cell.value = s.status.cell.value

/-- While the status does not change, there is nothing to do for a sync. -/
theorem UpToDate.step (hs : Coherent s) (h : UpToDate s) (now : Nat) (e : Event)
    (hsame : (Session.step now s e).1.status.cell.value = s.status.cell.value) :
    UpToDate (Session.step now s e).1 := by
  cases e with
  | syncPreview =>
    simp only [Session.step, h.syncPreview]
    exact h
  | switchJob job =>
    by_cases heq : s.job = job
    · simp only [Session.step, Session.switchJob, heq, if_true]
      exact h
    · -- the status of another job is another status
      have hstatus : (s.switchJob now job).1.status.cell.value.jobId = job := by
        rw [(hs.switchJob now job).status, switchJob_of_ne heq]
      refine absurd ?_ heq
      rw [← hs.status, ← hstatus]
      exact congrArg Tracker.jobId hsame.symm
  | status e | logs e | preview e => exact h.of_eq rfl hsame rfl

/-- As long as the status stays as it is, a preview that is up to date stays so. -/
theorem UpToDate.after (hs : Coherent s) (h : UpToDate s) {es : List (Nat × Event)}
    (hes : ∀ x ∈ es, x.2.bypasses = false) (hsame : SameStatus s es) :
    UpToDate (Machine.after Session.step s es) := by
  induction es generalizing s with
  | nil => exact h
  | cons x es ih =>
    obtain ⟨now, e⟩ := x
    obtain ⟨hstep, hrest⟩ := (Machine.along_cons ..).1 hsame
    have he : e.bypasses = false := hes _ List.mem_cons_self
    exact ih (hs.step now he) (h.step hs now e hstep)
      (fun y hy ↦ hes y (List.mem_cons_of_mem _ hy)) hrest

/-- The parts of a session agree, whatever has happened to it.

Let switches, syncs, signals of the host and whatever comes from timers and from the backend lead a
new session to a state. Then the status and the log are those of its job, and the published preview
is of its job or of none. The session takes the sandbox to be paused, or not to be, just when the
preview remembers a run of its job that was started so, and takes it to be neither just when the
preview remembers none. A sync says that it has started the preview just when it has, the preview
has a run of the job then, and a sync changes nothing when it says that it has not. Once a sync was made, and as long as the status does not
change, each further one says that it has not started the preview, and changes nothing. -/
theorem session_coherent (timing : SessionTiming) {es : List (Nat × Event)}
    (hes : ∀ x ∈ es, x.2.bypasses = false) :
    let s := Machine.after step (new timing) es
    s.status.cell.value.jobId = s.job ∧
    s.logs.cell.value.jobId = s.job ∧
    (s.preview.cell.value.jobId = s.job ∨ s.preview.cell.value.jobId = none) ∧
    (∀ paused, s.previewPaused = some paused ↔
      ∃ job params, s.preview.current = some (job, params) ∧ s.job = some job ∧
        params.sandboxPaused = paused) ∧
    (s.previewPaused = none ↔ s.preview.current = none) ∧
    (∀ now, (s.syncPreview now).2.any Output.started ↔
      ∃ job params, s.job = some job ∧
        (s.syncPreview now).1.preview = (s.preview.start now job params).1) ∧
    (∀ now, (s.syncPreview now).2.any Output.started →
      ∃ r, (s.syncPreview now).1.preview.run = some r ∧ s.job = some r.job) ∧
    (∀ now, (s.syncPreview now).2.any Output.started = false →
      s.syncPreview now = (s, [.synced false])) ∧
    (∀ now later, (∀ x ∈ later, x.2.bypasses = false) → SameStatus (s.syncPreview now).1 later →
      ∀ time, let t := Machine.after step (s.syncPreview now).1 later
        t.syncPreview time = (t, [.synced false])) := by
  intro s
  have h : Coherent s := coherent_after timing hes
  refine ⟨h.status, h.logs, ?_, fun paused ↦ ⟨fun hpaused ↦ ?_, ?_⟩, ?_,
    fun now ↦ h.started_syncPreview now, fun now hstarted ↦ ?_, fun now hnot ↦ ?_,
    fun now later hlater hsame time ↦ ?_⟩
  · rw [h.preview]
    cases hcurrent : s.preview.current with
    | none => exact .inr rfl
    | some remembered => exact .inl (h.current _ _ hcurrent).symm
  · rw [h.paused] at hpaused
    obtain ⟨⟨job, params⟩, hcurrent, hparams⟩ := Option.map_eq_some_iff.1 hpaused
    exact ⟨job, params, hcurrent, h.current job params hcurrent, hparams⟩
  · rintro ⟨job, params, hcurrent, -, hparams⟩
    rw [h.paused, hcurrent, Option.map_some, hparams]
  · rw [h.paused]
    exact Option.map_eq_none_iff
  · obtain ⟨job, params, hjob, hstart⟩ := (h.started_syncPreview now).1 hstarted
    obtain ⟨r, hrun, rfl⟩ := s.preview.exists_run_start now job params
    exact ⟨r, hstart ▸ hrun, hjob⟩
  · rcases h.syncPreview_cases now with hdone | ⟨job, -, heq⟩
    · exact hdone.syncPreview now
    · rw [heq, any_started_concat, Bool.or_true] at hnot
      contradiction
  · exact ((h.upToDate_syncPreview now).after (h.syncPreview now) hlater hsame).syncPreview time

/-- The preview is started over when the sandbox is paused, and then it is left alone. -/
theorem preview_started_over_once :
    let es := [(0, .switchJob (some "j1")),
      (1, .status (.reply 0 (.ok "[\"deps\",\"\",\"u\"]".toUTF8.toList))), (2, .syncPreview),
      (5000, .status .tick),
      (5001, .status (.reply 1 (.ok
        "[\"deps\",\"\",\"u\",null,null,null,null,true]".toUTF8.toList)))]
    let s := Machine.after step (new .standard) es
    let later := [(5500, .preview .markLoaded), (5600, .syncPreview)]
    let t := Machine.after step (s.syncPreview 5002).1 later
    (∀ x ∈ es, x.2.bypasses = false) ∧ (∀ x ∈ later, x.2.bypasses = false) ∧
      SameStatus (s.syncPreview 5002).1 later ∧ s.previewPaused = some false ∧
      (∃ job params, s.job = some job ∧
        (s.syncPreview 5002).1.preview = (s.preview.start 5002 job params).1) ∧
      t.syncPreview 6000 = (t, [.synced false]) := by
  intro es s later t
  have hes : ∀ x ∈ es, x.2.bypasses = false := by decide
  have hlater : ∀ x ∈ later, x.2.bypasses = false := by decide
  have hcoherent : Coherent s := coherent_after .standard hes
  obtain ⟨-, -, -, -, -, hstarted, -, -, honce⟩ := session_coherent .standard hes
  have hsame : SameStatus (s.syncPreview 5002).1 later := by
    refine ⟨rfl, ?_, trivial⟩
    have hmarked : UpToDate (step 5500 (s.syncPreview 5002).1 (.preview .markLoaded)).1 :=
      (hcoherent.upToDate_syncPreview 5002).of_eq rfl rfl rfl
    exact congrArg (·.1.status.cell.value) (hmarked.syncPreview 5600)
  have hpaused : s.previewPaused = some false := by decide +kernel
  have htells : (s.syncPreview 5002).2.any Output.started := by decide +kernel
  exact ⟨hes, hlater, hsame, hpaused, (hstarted 5002).1 htells, honce 5002 later hlater hsame 6000⟩

end Session

end JobWatch

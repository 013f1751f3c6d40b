import JobWatch.Session.Basic
import JobWatch.Proofs.Logs.Following
import JobWatch.Proofs.Preview.Following
import JobWatch.Proofs.Status.Safety

/-!
# The jobs of a session

A session asks the backend for no job but those that it has been told of. The property of jobs is
arbitrary here, so that it may single out one job, or all that some events speak of.
-/

namespace JobWatch

namespace Session

def pollerEvent : Option String → Poller.Event
  | some job => .start job
  | none => .dispose

def feedEvent : Option String → Feed.Event
  | some job => .start job
  | none => .dispose

/-- A switch to another job disposes of the preview, and points the poller and the feed at the job.
-/
theorem switchJob_of_ne {s : Session} {job : Option String} (h : s.job ≠ job) (now : Nat) :
    s.switchJob now job =
      (⟨job, (s.status.step now (pollerEvent job)).1, (s.logs.step (feedEvent job)).1,
          s.preview.dispose.1, none⟩,
        s.preview.dispose.2.map .preview ++ (s.status.step now (pollerEvent job)).2.map .status ++
          (s.logs.step (feedEvent job)).2.map .logs) := by
  simp only [switchJob, h, if_false]
  cases job <;> rfl

/-- To bring the preview up to date is to do nothing, or to start it or tell it of the pause. -/
theorem syncPreview_cases (s : Session) (now : Nat) :
    s.syncPreview now = (s, [.synced false]) ∨
    ∃ job e, s.job = some job ∧
      (e = .start job (previewParams s.status.cell.value) ∨
        e = .setPaused s.status.cell.value.sandboxPaused) ∧
      s.syncPreview now =
        ({ (s.stepPreview now e).1 with previewPaused := some s.status.cell.value.sandboxPaused },
          (s.stepPreview now e).2 ++ [.synced true]) := by
  unfold syncPreview
  split
  next => exact .inl rfl
  next job hjob =>
    simp only
    split
    · exact .inl rfl
    · split
      next => exact .inr ⟨job, _, hjob, .inl rfl, rfl⟩
      next =>
        split
        · exact .inl rfl
        · exact .inr ⟨job, _, hjob, .inr rfl, rfl⟩

/-- The job that an event tells the session to follow. -/
def Event.job? : Event → Option String
  | .switchJob job => job
  | .status (.start job) | .logs (.start job) | .preview (.start job _) => some job
  | _ => none

def Output.job? : Output → Option String
  | .status out => out.fetch?.map (·.2)
  | .logs out => out.job?
  | .preview out => out.job?
  | .synced _ => none

/-- What a session follows are jobs with a property. -/
structure RunsFor (P : String → Prop) (s : Session) : Prop where
  job : ∀ job, s.job = some job → P job
  status : s.status.RunsFor P
  logs : s.logs.RunsFor P
  preview : s.preview.RunsFor P

/-- The session follows jobs with a property, and asks for no others. -/
def StaysWith (P : String → Prop) (x : Session × List Output) : Prop :=
  RunsFor P x.1 ∧ ∀ o ∈ x.2, ∀ job, o.job? = some job → P job

variable {P : String → Prop} {s : Session}

theorem RunsFor.new (P : String → Prop) (timing : SessionTiming) : RunsFor P (new timing) where
  job _ h := nomatch h
  status _ h := nomatch h
  logs := ⟨fun _ h ↦ (nomatch h), fun _ h ↦ (nomatch h)⟩
  preview := ⟨fun _ h ↦ (nomatch h), fun _ _ h ↦ (nomatch h)⟩

theorem RunsFor.idle (h : RunsFor P s) (started : Bool) : StaysWith P (s, [.synced started]) :=
  ⟨h, by simp [Output.job?]⟩

theorem StaysWith.append {s' : Session} {out more : List Output} (h : StaysWith P (s, out))
    (h' : StaysWith P (s', more)) : StaysWith P (s', out ++ more) := by
  refine ⟨h'.1, fun o ho job hj ↦ ?_⟩
  rcases List.mem_append.1 ho with ho | ho
  · exact h.2 o ho job hj
  · exact h'.2 o ho job hj

theorem RunsFor.stepStatus (h : RunsFor P s) (now : Nat) {e : Poller.Event}
    (he : ∀ job, e = .start job → P job) : StaysWith P (s.stepStatus now e) := by
  obtain ⟨hrun, hout⟩ := h.status.step now he fun _ _ hj ↦ hj
  refine ⟨⟨h.job, hrun, h.logs, h.preview⟩, fun o ho job hj ↦ ?_⟩
  obtain ⟨out, hmem, rfl⟩ := List.mem_map.1 ho
  obtain ⟨x, hx, rfl⟩ := Option.map_eq_some_iff.1 hj
  exact hout x (List.mem_filterMap.2 ⟨out, hmem, hx⟩)

theorem RunsFor.stepLogs (h : RunsFor P s) {e : Feed.Event} (he : ∀ job, e = .start job → P job) :
    StaysWith P (s.stepLogs e) := by
  obtain ⟨hrun, hout⟩ := h.logs.step he
  refine ⟨⟨h.job, h.status, hrun, h.preview⟩, fun o ho job hj ↦ ?_⟩
  obtain ⟨out, hmem, rfl⟩ := List.mem_map.1 ho
  exact hout out hmem job hj

theorem RunsFor.stepPreview (h : RunsFor P s) (now : Nat) {e : PreviewDriver.Event}
    (he : ∀ job params, e = .start job params → P job) : StaysWith P (s.stepPreview now e) := by
  obtain ⟨hrun, hout⟩ := h.preview.step now he
  refine ⟨⟨h.job, h.status, h.logs, hrun⟩, fun o ho job hj ↦ ?_⟩
  obtain ⟨out, hmem, rfl⟩ := List.mem_map.1 ho
  exact hout out hmem job hj

theorem RunsFor.switchJob (h : RunsFor P s) (now : Nat) {job : Option String}
    (hjob : ∀ id, job = some id → P id) : StaysWith P (s.switchJob now job) := by
  by_cases heq : s.job = job
  · simp only [Session.switchJob, heq, if_true]
    exact ⟨h, fun o ho ↦ nomatch ho⟩
  · rw [switchJob_of_ne heq]
    have hpreview := h.stepPreview now (e := .dispose) fun _ _ he ↦ nomatch he
    have hstatus := h.stepStatus now (e := pollerEvent job) fun id he ↦ by
      cases job <;> cases he
      exact hjob id rfl
    have hlogs := h.stepLogs (e := feedEvent job) fun id he ↦ by
      cases job <;> cases he
      exact hjob id rfl
    exact (hpreview.append hstatus).append
      ⟨⟨hjob, hstatus.1.status, hlogs.1.logs, hpreview.1.preview⟩, hlogs.2⟩

theorem RunsFor.syncPreview (h : RunsFor P s) (now : Nat) : StaysWith P (s.syncPreview now) := by
  rcases syncPreview_cases s now with heq | ⟨job, e, hjob, he, heq⟩
  · exact heq ▸ h.idle false
  · have hstart : ∀ job params, e = .start job params → P job := by
      rintro job' params rfl
      simp only [PreviewDriver.Event.start.injEq, reduceCtorEq, or_false] at he
      exact he.1 ▸ h.job job hjob
    obtain ⟨hs, hout⟩ := h.stepPreview now hstart
    rw [heq]
    -- What is remembered of the pause says nothing of a job.
    have hs' : RunsFor P { (s.stepPreview now e).1 with
        previewPaused := some s.status.cell.value.sandboxPaused } :=
      ⟨hs.job, hs.status, hs.logs, hs.preview⟩
    exact StaysWith.append ⟨hs', hout⟩ (hs'.idle true)

/-- What is asked for is asked for a job that the session has been told of. -/
theorem RunsFor.step (h : RunsFor P s) (now : Nat) {e : Event}
    (he : ∀ job, e.job? = some job → P job) :
    StaysWith P (Session.step now s e) := by
  cases e with
  | switchJob job => exact h.switchJob now he
  | syncPreview => exact h.syncPreview now
  | status e =>
    refine h.stepStatus now fun job hjob ↦ he job ?_
    rw [hjob]
    rfl
  | logs e =>
    refine h.stepLogs fun job hjob ↦ he job ?_
    rw [hjob]
    rfl
  | preview e =>
    refine h.stepPreview now fun job params hjob ↦ he job ?_
    rw [hjob]
    rfl

end Session

end JobWatch

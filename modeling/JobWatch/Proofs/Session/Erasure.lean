import JobWatch.Proofs.Logs.Shift
import JobWatch.Proofs.Machine
import JobWatch.Proofs.Preview.Shift
import JobWatch.Proofs.Session.Following
import JobWatch.Proofs.Status.Shift

/-!
# Switching the job erases what was before

A session that is pointed at another job is from then on the session that a new one is when it is
pointed at that job, but for the numbers of its requests. `Offsets` tells by how much they differ.
The one trace of before are requests for earlier lines that are still under way; their answers are
dropped, and whoever asked is told so.

The argument is a simulation. At the switch the old session becomes the new one, shifted
(`switchJob_eq_shift`); a shifted session takes the shifted steps (`step_shift`) and does not listen
to the answers to requests of before (`step_shift_of_late`).
-/

namespace JobWatch

namespace Session

/-- How far the numbers of each controller are shifted. -/
structure Offsets where
  status : Offset
  logs : Offset
  preview : Offset
deriving DecidableEq, Repr

variable (o : Offsets)

def Event.shift : Event → Event
  | .status e => .status (e.shift o.status)
  | .logs e => .logs (e.shift o.logs)
  | .preview e => .preview (e.shift o.preview)
  | e => e

/-- The event without the shift, unless it belongs to a request of before. -/
def Event.unshift? : Event → Option Event
  | .status e => (e.unshift? o.status).map .status
  | .logs e => (e.unshift? o.logs).map .logs
  | .preview e => (e.unshift? o.preview).map .preview
  | e => some e

/-- What comes out of a shifted session: the same, with the numbers of requests shifted. -/
def Output.shift : Output → Output
  | .status out => .status (out.shift o.status)
  | .logs out => .logs (out.shift o.logs)
  | .preview out => .preview (out.shift o.preview)
  | .synced started => .synced started

/-- Whether an output only tells that a request of before is done. -/
def Output.isLate : Output → Bool
  | .logs (.loaded request _) => request < o.logs.requests
  | _ => false

def shift (late : List Feed.PageCall) (s : Session) : Session where
  job := s.job
  status := s.status.shift o.status
  logs := s.logs.shift o.logs late
  preview := s.preview.shift o.preview
  previewPaused := s.previewPaused

def offsets (s : Session) : Offsets := ⟨s.status.offset, s.logs.offset, s.preview.offset⟩

theorem Event.eq_shift_of_unshift? {e e' : Event} (h : e.unshift? o = some e') :
    e = e'.shift o := by
  cases e with
  | status e =>
    obtain ⟨e', he, rfl⟩ := Option.map_eq_some_iff.1 h
    exact congrArg Event.status (e.eq_shift_of_unshift? o.status he)
  | logs e =>
    obtain ⟨e', he, rfl⟩ := Option.map_eq_some_iff.1 h
    exact congrArg Event.logs (e.eq_shift_of_unshift? o.logs he)
  | preview e =>
    obtain ⟨e', he, rfl⟩ := Option.map_eq_some_iff.1 h
    exact congrArg Event.preview (e.eq_shift_of_unshift? o.preview he)
  | switchJob | syncPreview =>
    obtain rfl := Option.some.inj h
    rfl

@[simp] theorem Output.isLate_shift (out : Output) : (out.shift o).isLate o = false := by
  rcases out with out | out | out | started
  · rfl
  · cases out <;> simp [Output.shift, Feed.Output.shift, isLate]
  · rfl
  · rfl

/-- A request is never only told of. -/
theorem Output.isLate_of_job? {out : Output} {job : String} (h : out.job? = some job) :
    out.isLate o = false := by
  rcases out with out | out | out | started
  · rfl
  · cases out with
    | loaded request added => simp [job?, Feed.Output.job?] at h
    | openStream | fetchPage | publish => rfl
  · rfl
  · rfl

/-- Nothing that comes out of the unshifted session is late. -/
theorem Output.filter_isLate_shift (out : List Output) :
    (out.map (shift o)).filter (fun x ↦ !x.isLate o) = out.map (shift o) := by
  refine List.filter_eq_self.2 fun x hx ↦ ?_
  obtain ⟨y, -, rfl⟩ := List.mem_map.1 hx
  simp

@[simp] theorem Output.job?_shift (out : Output) : (out.shift o).job? = out.job? := by
  rcases out with out | out | out | started
  · cases out <;> rfl
  · cases out <;> rfl
  · cases out <;> rfl
  · rfl

/-! ## Steps -/

section Steps

variable (late : List Feed.PageCall) (s : Session) (now : Nat)

def shiftResult (x : Session × List Output) : Session × List Output :=
  (x.1.shift o late, x.2.map (Output.shift o))

theorem stepStatus_shift (e : Poller.Event) :
    (s.shift o late).stepStatus now (e.shift o.status) =
      shiftResult o late (s.stepStatus now e) := by
  simp [stepStatus, shift, Poller.step_shift, Poller.shiftResult, shiftResult, Function.comp_def,
    Output.shift]

theorem stepPreview_shift (e : PreviewDriver.Event) :
    (s.shift o late).stepPreview now (e.shift o.preview) =
      shiftResult o late (s.stepPreview now e) := by
  simp [stepPreview, shift, PreviewDriver.step_shift, PreviewDriver.shiftResult, shiftResult,
    Function.comp_def, Output.shift]

variable {late} (h : ∀ c ∈ late, c.request < o.logs.requests)

include h

theorem stepLogs_shift (e : Feed.Event) :
    (s.shift o late).stepLogs (e.shift o.logs) = shiftResult o late (s.stepLogs e) := by
  simp [stepLogs, shift, Feed.step_shift _ _ _ h, Feed.shiftResult, shiftResult, Function.comp_def,
    Output.shift]

theorem switchJob_shift (job : Option String) :
    (s.shift o late).switchJob now job = shiftResult o late (s.switchJob now job) := by
  have hjob : (s.shift o late).job = s.job := rfl
  by_cases heq : s.job = job
  · simp only [switchJob, hjob, heq, if_true]
    rfl
  · have hpoller : (pollerEvent job).shift o.status = pollerEvent job := by cases job <;> rfl
    have hfeed : (feedEvent job).shift o.logs = feedEvent job := by cases job <;> rfl
    have hstatus := Poller.step_shift o.status s.status now (pollerEvent job)
    have hlogs := Feed.step_shift o.logs late s.logs h (feedEvent job)
    have hpreview := PreviewDriver.step_shift o.preview s.preview now .dispose
    rw [hpoller] at hstatus
    rw [hfeed] at hlogs
    rw [switchJob_of_ne heq, switchJob_of_ne (by exact heq)]
    simp only [PreviewDriver.Event.shift, PreviewDriver.step] at hpreview
    simp [shift, hstatus, hlogs, hpreview, shiftResult, Poller.shiftResult, Feed.shiftResult,
      PreviewDriver.shiftResult, Function.comp_def, Output.shift]

omit h in
theorem syncPreview_shift :
    (s.shift o late).syncPreview now = shiftResult o late (s.syncPreview now) := by
  have hjob : (s.shift o late).job = s.job := rfl
  have ht : (s.shift o late).status.cell.value = s.status.cell.value := rfl
  have hp : (s.shift o late).previewPaused = s.previewPaused := rfl
  have hsynced : ∀ (e : PreviewDriver.Event) (paused : Option Bool), e.shift o.preview = e →
      ({ ((s.shift o late).stepPreview now e).1 with previewPaused := paused },
        ((s.shift o late).stepPreview now e).2 ++ [.synced true]) =
      shiftResult o late ({ (s.stepPreview now e).1 with previewPaused := paused },
        (s.stepPreview now e).2 ++ [.synced true]) := by
    intro e paused he
    have hstep := stepPreview_shift o late s now e
    rw [he] at hstep
    rw [hstep]
    simp [shiftResult, shift, Output.shift]
  simp only [syncPreview, hjob, ht, hp]
  cases s.job with
  | none => rfl
  | some job =>
    simp only
    split
    · rfl
    · cases s.previewPaused with
      | none =>
        exact hsynced _ _ rfl
      | some paused =>
        simp only
        split
        · rfl
        · exact hsynced _ _ rfl

/-- A shifted session takes the shifted steps. -/
theorem step_shift (e : Event) :
    step now (s.shift o late) (e.shift o) = shiftResult o late (step now s e) := by
  cases e with
  | switchJob job => exact switchJob_shift o s now h job
  | syncPreview => exact syncPreview_shift o s now
  | status e => exact stepStatus_shift o late s now e
  | logs e => exact stepLogs_shift o s h e
  | preview e => exact stepPreview_shift o late s now e

end Steps

/-- A shifted session does not listen to the answers to requests of before. Of one for earlier lines
that is still under way the host is told that it is done. -/
theorem step_shift_of_late (s : Session) (now : Nat) {late : List Feed.PageCall}
    (h : ∀ c ∈ late, c.request < o.logs.requests ∧ c.writer.epoch ≤ o.logs.epoch)
    (hepoch : 0 < s.logs.cell.epoch) {e : Event} (he : e.unshift? o = none) :
    ∃ late' ⊆ late, (step now (s.shift o late) e).1 = s.shift o late' ∧
      ∀ out ∈ (step now (s.shift o late) e).2, out.isLate o := by
  have hsame : late ⊆ late := fun _ hc ↦ hc
  cases e with
  | switchJob | syncPreview => simp [Event.unshift?] at he
  | status e =>
    obtain ⟨id, reply, rfl, hid⟩ := e.reply_of_unshift? o.status (Option.map_eq_none_iff.1 he)
    have hstep := Poller.step_shift_of_late o.status s.status now hid reply
    refine ⟨late, hsame, ?_⟩
    simp [step, stepStatus, shift, hstep]
  | logs e =>
    obtain ⟨id, hid, hlt⟩ := e.late_of_unshift? o.logs (Option.map_eq_none_iff.1 he)
    obtain ⟨late', hsub, hstep, hout⟩ :=
      Feed.step_shift_of_late o.logs late s.logs h hepoch hid hlt
    refine ⟨late', hsub, ?_, fun out ho ↦ ?_⟩
    · simp only [step, stepLogs, shift, hstep]
    · obtain ⟨out', ho', rfl⟩ := List.mem_map.1 ho
      obtain ⟨added, rfl⟩ := hout out' ho'
      simpa [Output.isLate] using hlt
  | preview e =>
    obtain ⟨id, reply, rfl, hid⟩ := e.reply_of_unshift? o.preview (Option.map_eq_none_iff.1 he)
    have hstep := PreviewDriver.step_shift_of_late o.preview s.preview now hid reply
    refine ⟨late, hsame, ?_⟩
    simp [step, stepPreview, shift, hstep]

/-! ## Every session -/

/-- What holds of every session with a timing: the controllers keep their parts of it, and the feed
knows the requests that are under way. -/
structure Regular (timing : SessionTiming) (s : Session) : Prop where
  poll : s.status.settings = timing.poll
  limit : s.logs.limit = timing.backfillLimit
  preview : s.preview.timing = timing.preview
  orderly : s.logs.Orderly

variable {timing : SessionTiming} {s : Session}

theorem Regular.new (timing : SessionTiming) : Regular timing (new timing) :=
  ⟨rfl, rfl, rfl, .new _⟩

theorem Regular.stepPreview (h : Regular timing s) (now : Nat) (e : PreviewDriver.Event) :
    Regular timing (s.stepPreview now e).1 :=
  ⟨h.poll, h.limit, (PreviewDriver.timing_step ..).trans h.preview, h.orderly⟩

theorem Regular.step (h : Regular timing s) (now : Nat) (e : Event) :
    Regular timing (Session.step now s e).1 := by
  cases e with
  | switchJob job =>
    by_cases heq : s.job = job
    · simpa only [Session.step, switchJob, heq, if_true] using h
    · simp only [Session.step, switchJob_of_ne heq]
      exact ⟨(Poller.settings_step ..).trans h.poll, (Feed.limit_step ..).trans h.limit, h.preview,
        h.orderly.step _⟩
  | syncPreview =>
    simp only [Session.step]
    rcases syncPreview_cases s now with heq | ⟨job, e, -, -, heq⟩
    · exact heq ▸ h
    · have h' := h.stepPreview now e
      rw [heq]
      exact ⟨h'.poll, h'.limit, h'.preview, h'.orderly⟩
  | status e => exact ⟨(Poller.settings_step ..).trans h.poll, h.limit, h.preview, h.orderly⟩
  | logs e => exact ⟨h.poll, (Feed.limit_step ..).trans h.limit, h.preview, h.orderly.step e⟩
  | preview e => exact h.stepPreview now e

/-- No step takes the log back to its first epoch. -/
theorem logs_epoch_le_step (s : Session) (now : Nat) (e : Event) :
    s.logs.cell.epoch ≤ (step now s e).1.logs.cell.epoch := by
  cases e with
  | switchJob job =>
    by_cases heq : s.job = job
    · simp only [step, switchJob, heq, if_true]
      exact Nat.le_refl _
    · simp only [step, switchJob_of_ne heq]
      exact Feed.epoch_le_step ..
  | syncPreview =>
    simp only [step]
    rcases syncPreview_cases s now with heq | ⟨job, e, -, -, heq⟩
    · exact Nat.le_of_eq (by rw [heq])
    · exact Nat.le_of_eq (by rw [heq]; rfl)
  | logs e => exact Feed.epoch_le_step s.logs e
  | status e | preview e => exact Nat.le_refl _

/-- At the switch to another job the session becomes the one that a new session becomes, shifted. -/
theorem switchJob_eq_shift (h : Regular timing s) (now : Nat) {job : String}
    (hne : s.job ≠ some job) :
    s.switchJob now (some job) =
      shiftResult s.offsets s.logs.calls ((new timing).switchJob now (some job)) := by
  have hstatus := s.status.start_eq_shift now job
  have hlogs := s.logs.start_eq_shift job
  have hpreview := s.preview.dispose_eq_shift
  have hnew : (new timing).job ≠ some job := fun heq ↦ nomatch heq
  rw [h.poll] at hstatus
  rw [h.limit] at hlogs
  rw [h.preview] at hpreview
  rw [switchJob_of_ne hne, switchJob_of_ne hnew]
  simp [pollerEvent, feedEvent, Poller.step, Feed.step, hstatus, hlogs, hpreview, new, shiftResult,
    shift, offsets, Poller.shiftResult, Feed.shiftResult, PreviewDriver.shiftResult,
    Function.comp_def, Output.shift]

/-! ## Two runs -/

/-- One session is another one that is shifted, with some requests for earlier lines left over. -/
def ShiftOf (o : Offsets) (s t : Session) : Prop :=
  0 < t.logs.cell.epoch ∧
    ∃ late, (∀ c ∈ late, c.request < o.logs.requests ∧ c.writer.epoch ≤ o.logs.epoch) ∧
      s = t.shift o late

variable {o} {t : Session}

/-- An event that both sessions know keeps the one a shift of the other, and the same comes out. -/
theorem ShiftOf.step (h : ShiftOf o s t) (now : Nat) {e e' : Event} (he : e.unshift? o = some e') :
    ShiftOf o (Session.step now s e).1 (Session.step now t e').1 ∧
      (Session.step now s e).2.filter (fun out ↦ !out.isLate o) =
        (Session.step now t e').2.map (Output.shift o) := by
  obtain ⟨hepoch, late, hlate, rfl⟩ := h
  obtain rfl := e.eq_shift_of_unshift? o he
  rw [step_shift o t now fun c hc ↦ (hlate c hc).1]
  exact ⟨⟨Nat.lt_of_lt_of_le hepoch (logs_epoch_le_step t now e'), late, hlate, rfl⟩,
    Output.filter_isLate_shift o _⟩

/-- An answer to a request of before reaches the first session only, and nothing comes out that
counts. -/
theorem ShiftOf.step_late (h : ShiftOf o s t) (now : Nat) {e : Event} (he : e.unshift? o = none) :
    ShiftOf o (Session.step now s e).1 t ∧
      (Session.step now s e).2.filter (fun out ↦ !out.isLate o) = [] := by
  obtain ⟨hepoch, late, hlate, rfl⟩ := h
  obtain ⟨late', hsub, hstep, hout⟩ := step_shift_of_late o t now hlate hepoch he
  refine ⟨⟨hepoch, late', fun c hc ↦ hlate c (hsub hc), hstep⟩, ?_⟩
  exact List.filter_eq_nil_iff.2 fun out ho ↦ by simp [hout out ho]

/-- What is outside of a controller cannot tell a session from one that is shifted. -/
theorem ShiftOf.same (h : ShiftOf o s t) :
    s.job = t.job ∧ s.status.cell.value = t.status.cell.value ∧
      s.logs.cell.value = t.logs.cell.value ∧ s.preview.cell.value = t.preview.cell.value ∧
      ∀ clock, s.timers clock = t.timers clock := by
  obtain ⟨-, late, -, rfl⟩ := h
  exact ⟨rfl, rfl, rfl, rfl, fun clock ↦ by simp [timers, shift]⟩

/-- The events of a run as they would be without what was before. -/
def withoutBefore (o : Offsets) (es : List (Nat × Event)) : List (Nat × Event) :=
  es.filterMap fun x ↦ (x.2.unshift? o).map (x.1, ·)

/-- A shifted session has the shifted run. -/
theorem ShiftOf.run (h : ShiftOf o s t) (es : List (Nat × Event)) :
    ShiftOf o (Machine.after Session.step s es)
        (Machine.after Session.step t (withoutBefore o es)) ∧
      (Machine.outputs Session.step s es).filter (fun x ↦ !x.2.isLate o) =
        (Machine.outputs Session.step t (withoutBefore o es)).map fun x ↦ (x.1, x.2.shift o) := by
  have shared : ∀ now s t e e', ShiftOf o s t → e.unshift? o = some e' →
      ShiftOf o (Session.step now s e).1 (Session.step now t e').1 ∧
        (Session.step now s e).2.filter (fun out ↦ !out.isLate o) =
          (Session.step now t e').2.map (Output.shift o) :=
    fun now _ _ _ _ hst he ↦ hst.step now he
  have alone : ∀ now s t e, ShiftOf o s t → e.unshift? o = none →
      ShiftOf o (Session.step now s e).1 t ∧
        (Session.step now s e).2.filter (fun out ↦ !out.isLate o) = [] :=
    fun now _ _ _ hst he ↦ hst.step_late now he
  exact Machine.run_corresponds shared alone h es

/-- From the switch on, the session is a new one that is shifted. -/
theorem shiftOf_switchJob (h : Regular timing s) (now : Nat) {job : String}
    (hne : s.job ≠ some job) :
    ShiftOf s.offsets (s.switchJob now (some job)).1 ((new timing).switchJob now (some job)).1 := by
  refine ⟨Nat.zero_lt_one, s.logs.calls, fun c hc ↦ ?_, by rw [switchJob_eq_shift h now hne]; rfl⟩
  exact ⟨h.orderly.call_lt c hc, h.orderly.call_le c hc⟩

theorem Event.job?_of_unshift? {e e' : Event} (h : e.unshift? o = some e') : e'.job? = e.job? := by
  obtain rfl := e.eq_shift_of_unshift? o h
  rcases e' with job | - | e | e | e
  · rfl
  · rfl
  · cases e <;> rfl
  · cases e <;> rfl
  · cases e <;> rfl

/-- A session that is pointed at a job asks for that one, or for one that it is told of later. -/
theorem job?_of_switchJob (timing : SessionTiming) (now : Nat) (job : String)
    (later : List (Nat × Event)) :
    ∀ x ∈ Machine.outputs step (new timing) ((now, .switchJob (some job)) :: later),
      ∀ id, x.2.job? = some id → id = job ∨ ∃ y ∈ later, y.2.job? = some id := by
  let Told (id : String) : Prop := id = job ∨ ∃ y ∈ later, y.2.job? = some id
  have htold : ∀ y ∈ (now, .switchJob (some job)) :: later, ∀ id, y.2.job? = some id → Told id := by
    intro y hy id hid
    rcases List.mem_cons.1 hy with rfl | hy
    · exact .inl (Option.some.inj hid).symm
    · exact .inr ⟨y, hy, hid⟩
  exact Machine.outputs_of_step (P := RunsFor Told) (fun now _ _ he hs ↦ (hs.step now he).1)
    (fun now _ _ he hs ↦ (hs.step now he).2) (.new Told timing) htold

/-- After the switch to another job a session does what a new session does that is pointed at that
job.

Let the new session get the events of the old one as they would be without what was before: an
answer or a part of a stream that belongs to a request of before does not come at all, and the
others have the numbers that the new session has given to their requests. Then the two publish the
same states and send the same requests, at the same times, whatever comes later; they are in the
same state, and the same timers run. The old session asks for the job that it was pointed at, or for
one that it is told of later. -/
theorem switchJob_erases_history (timing : SessionTiming) (before : List (Nat × Event)) (now : Nat)
    (job : String) (later : List (Nat × Event))
    (h : (Machine.after step (new timing) before).job ≠ some job) :
    let s := Machine.after step (new timing) before
    let o := s.offsets
    let run := (now, .switchJob (some job)) :: later
    let fresh := (now, .switchJob (some job)) :: withoutBefore o later
    let s' := Machine.after step s run
    let t' := Machine.after step (new timing) fresh
    (Machine.outputs step s run).filter (fun x ↦ !x.2.isLate o) =
      (Machine.outputs step (new timing) fresh).map (fun x ↦ (x.1, x.2.shift o)) ∧
    (s'.job = t'.job ∧ s'.status.cell.value = t'.status.cell.value ∧
      s'.logs.cell.value = t'.logs.cell.value ∧ s'.preview.cell.value = t'.preview.cell.value ∧
      ∀ clock, s'.timers clock = t'.timers clock) ∧
    ∀ x ∈ Machine.outputs step s run, ∀ job', x.2.job? = some job' →
      job' = job ∨ ∃ y ∈ later, y.2.job? = some job' := by
  intro s o run fresh s' t'
  have hregular : Regular timing s :=
    Machine.after_of_every_step (fun now _ e h ↦ h.step now e) (.new timing) before
  have hswitch := switchJob_eq_shift hregular now h
  obtain ⟨hfinal, hlater⟩ := (shiftOf_switchJob hregular now h).run later
  have hfirst : ((s.switchJob now (some job)).2.map (now, ·)).filter (fun x ↦ !x.2.isLate o) =
      (((new timing).switchJob now (some job)).2.map (now, ·)).map fun x ↦ (x.1, x.2.shift o) := by
    rw [Machine.filter_timed (fun out : Output ↦ !out.isLate o), hswitch]
    simp only [shiftResult, o, Output.filter_isLate_shift, List.map_map, Function.comp_def]
  have hout : (Machine.outputs step s run).filter (fun x ↦ !x.2.isLate o) =
      (Machine.outputs step (new timing) fresh).map (fun x ↦ (x.1, x.2.shift o)) := by
    simp only [run, fresh, Machine.outputs_cons, List.filter_append, List.map_append]
    exact congr (congrArg (· ++ ·) hfirst) hlater
  refine ⟨hout, hfinal.same, fun x hx id hid ↦ ?_⟩
  have hmem : x ∈ (Machine.outputs step s run).filter (fun x ↦ !x.2.isLate o) :=
    List.mem_filter.2 ⟨hx, by simp [Output.isLate_of_job? o hid]⟩
  rw [hout] at hmem
  obtain ⟨y, hy, rfl⟩ := List.mem_map.1 hmem
  rcases job?_of_switchJob timing now job _ y hy id (by simpa using hid) with hjob | ⟨z, hz, hzid⟩
  · exact .inl hjob
  · obtain ⟨⟨time, e⟩, he, hz⟩ := List.mem_filterMap.1 hz
    obtain ⟨e', he', rfl⟩ := Option.map_eq_some_iff.1 hz
    exact .inr ⟨_, he, (Event.job?_of_unshift? he').symm.trans hzid⟩

/-- Back at its first job, a session does not listen to the answers that it waited for there. -/
theorem first_answers_ignored_after_return :
    let before := [(0, .switchJob (some "a")), (1, .logs .loadEarlier), (2, .status .visible),
      (3, .switchJob (some "b"))]
    let s := Machine.after step (new .standard) before
    let later := [(5, .status (.reply 0 (.ok "[\"ready\"]".toUTF8.toList))),
      (6, .logs (.page 1 (.ok "[[],false]".toUTF8.toList)))]
    let s' := Machine.after step s ((4, .switchJob (some "a")) :: later)
    let t' := Machine.after step (new .standard) [(4, .switchJob (some "a"))]
    s.job ≠ some "a" ∧ s'.status.cell.value = t'.status.cell.value ∧
      s'.logs.cell.value = t'.logs.cell.value := by
  intro before s later s' t'
  have hjob : s.job ≠ some "a" := by decide
  -- Nothing of `later` comes to the new session.
  obtain ⟨-, ⟨-, hstatus, hlogs, -⟩, -⟩ :=
    switchJob_erases_history .standard before 4 "a" later hjob
  exact ⟨hjob, hstatus, hlogs⟩

end Session

end JobWatch

import JobWatch.Proofs.Session.Coherence

/-!
# What a preview is started with

A session starts its preview with what the status says when that first carries one: an address, an
expiry, and whether the sandbox is paused. When that last thing changes, the preview is told of it
alone, and is started over with the address and the expiry that it remembers, whatever the status
says of them by then.

The status of the first start is kept track of from outside, from the events and from what the syncs
tell: `firstStatus`. What a preview is started with is that status, but for the pause
(`started_with_first_status`). So the preview need not run on the current status
(`started_over_with_old_address`).
-/

namespace JobWatch

namespace Session

/-- The status of the first start of the preview since the latest switch, after an event. -/
def firstStatusAfter (s : Session) (now : Nat) (first : Option Tracker) : Event → Option Tracker
  | .switchJob job => if s.job = job then first else none
  | .syncPreview =>
    if (s.syncPreview now).2.any Output.started then first.or (some s.status.cell.value) else first
  | .status _ | .logs _ | .preview _ => first

/-- The status of the first start of the preview since the latest switch, after some events. -/
def firstStatus : Session → Option Tracker → List (Nat × Event) → Option Tracker
  | _, first, [] => first
  | s, first, (now, e) :: es => firstStatus (step now s e).1 (s.firstStatusAfter now first e) es

/-- What one status tells a preview that starts, but for the pause, which is that of another. -/
def paramsOf (first current : Tracker) : PreviewParams :=
  { previewParams first with sandboxPaused := current.sandboxPaused }

/-- What the preview remembers of its address and its expiry is what the first status says. -/
structure Seeded (s : Session) (first : Option Tracker) : Prop where
  coherent : Coherent s
  remembered : s.preview.current.map (fun x ↦ (x.2.previewUrl, x.2.sandboxExpiresAt)) =
    first.map fun t ↦ (t.previewUrl, t.sandboxExpiresAt)

variable {s : Session} {first : Option Tracker}

theorem Seeded.new (timing : SessionTiming) : Seeded (new timing) none where
  coherent := .new timing
  remembered := rfl

/-- A preview is started with the first status, or with the current one where there is none. -/
theorem Seeded.startParams_eq (h : Seeded s first) :
    s.startParams = paramsOf (first.getD s.status.cell.value) s.status.cell.value := by
  have hremembered := h.remembered
  cases hcurrent : s.preview.current with
  | none =>
    rw [hcurrent, Option.map_none] at hremembered
    obtain rfl : first = none := Option.map_eq_none_iff.1 hremembered.symm
    simp only [startParams, hcurrent]
    rfl
  | some x =>
    obtain ⟨job, params⟩ := x
    rw [hcurrent, Option.map_some] at hremembered
    obtain ⟨t, rfl, ht⟩ := Option.map_eq_some_iff.1 hremembered.symm
    obtain ⟨hurl, hexpires⟩ := Prod.mk.inj ht
    simp only [startParams, hcurrent, paramsOf, previewParams, Option.getD_some, hurl, hexpires]

/-- A switch forgets the first status. -/
theorem Seeded.switchJob (h : Seeded s first) (now : Nat) (job : Option String) :
    Seeded (s.switchJob now job).1 (s.firstStatusAfter now first (.switchJob job)) := by
  refine ⟨h.coherent.switchJob now job, ?_⟩
  by_cases heq : s.job = job
  · simp only [Session.switchJob, firstStatusAfter, heq, if_true]
    exact h.remembered
  · rw [switchJob_of_ne heq]
    simp only [firstStatusAfter, heq, if_false]
    rfl

/-- A sync that starts the preview for the first time keeps the status that it starts with. -/
theorem Seeded.syncPreview (h : Seeded s first) (now : Nat) :
    Seeded (s.syncPreview now).1 (s.firstStatusAfter now first .syncPreview) := by
  refine ⟨h.coherent.syncPreview now, ?_⟩
  rcases h.coherent.syncPreview_cases now with hdone | ⟨job, -, heq⟩
  · simp only [firstStatusAfter, hdone.syncPreview]
    exact h.remembered
  · have hstarted : (s.syncPreview now).2.any Output.started := by
      rw [heq, any_started_concat, Bool.or_true]
    rw [firstStatusAfter, if_pos hstarted, heq]
    simp only [PreviewDriver.current_start, h.startParams_eq]
    cases first <;> rfl

theorem Seeded.step (h : Seeded s first) (now : Nat) {e : Event} (he : e.bypasses = false) :
    Seeded (Session.step now s e).1 (s.firstStatusAfter now first e) := by
  cases e with
  | switchJob job => exact h.switchJob now job
  | syncPreview => exact h.syncPreview now
  | status e | logs e => exact ⟨h.coherent.step now he, h.remembered⟩
  | preview e =>
    refine ⟨h.coherent.step now he, ?_⟩
    obtain ⟨-, hcurrent⟩ := s.preview.frame_step now he
    exact (congrArg _ hcurrent).trans h.remembered

theorem Seeded.after (h : Seeded s first) {es : List (Nat × Event)}
    (hes : ∀ x ∈ es, x.2.bypasses = false) :
    Seeded (Machine.after Session.step s es) (firstStatus s first es) := by
  induction es generalizing s first with
  | nil => exact h
  | cons x es ih =>
    exact ih (h.step x.1 (hes x List.mem_cons_self)) fun y hy ↦ hes y (List.mem_cons_of_mem x hy)

/-- Whenever a sync of a session says that it has started the preview, the preview was started for
the job of the session, with the pause of the current status and with the address and the expiry of
the first status: that of the first start since the latest switch. If the preview was not started
since then, the first status is the current one. -/
theorem started_with_first_status (timing : SessionTiming) {es : List (Nat × Event)}
    (hes : ∀ x ∈ es, x.2.bypasses = false) :
    let s := Machine.after step (new timing) es
    let current := s.status.cell.value
    let first := firstStatus (new timing) none es
    (first = none ↔ s.previewPaused = none) ∧
    ∀ now, (s.syncPreview now).2.any Output.started →
      ∃ job, s.job = some job ∧
        (s.syncPreview now).1.preview =
          (s.preview.start now job (paramsOf (first.getD current) current)).1 ∧
        (s.syncPreview now).1.preview.current =
          some (job, paramsOf (first.getD current) current) := by
  intro s current first
  have h : Seeded s first := (Seeded.new timing).after hes
  refine ⟨?_, fun now hstarted ↦ ?_⟩
  · calc first = none
      _ ↔ s.preview.current = none := by
        rw [← Option.map_eq_none_iff, ← h.remembered, Option.map_eq_none_iff]
      _ ↔ s.previewPaused = none := by
        rw [h.coherent.paused, Option.map_eq_none_iff]
  · rcases h.coherent.syncPreview_cases now with hdone | ⟨job, hjob, heq⟩
    · rw [hdone.syncPreview] at hstarted
      contradiction
    · rw [heq, h.startParams_eq]
      exact ⟨job, hjob, rfl, PreviewDriver.current_start ..⟩

/-- A preview is started, and then its address and its expiry change together with the pause. -/
def movedPreview : List (Nat × Event) :=
  [(0, .switchJob (some "j1")),
    (1, .status (.reply 0 (.ok
      "[\"deps\",\"\",\"u\",null,null,null,\"2026-03-01T10:00:00Z\",false]".toUTF8.toList))),
    (2, .syncPreview), (5000, .status .tick),
    (5001, .status (.reply 1 (.ok
      "[\"deps\",\"\",\"v\",null,null,null,\"2026-03-01T11:00:00Z\",true]".toUTF8.toList)))]

/-- The preview is started over with the address and the expiry of its first start. -/
theorem moved_preview_started_over :
    let s := Machine.after step (new .standard) movedPreview
    (∀ x ∈ movedPreview, x.2.bypasses = false) ∧
      (firstStatus (new .standard) none movedPreview).map (·.previewUrl) = some (some "u") ∧
      (s.syncPreview 5002).2.any Output.started ∧
      ∃ params, (s.syncPreview 5002).1.preview.current = some ("j1", params) ∧
        params.previewUrl = some "u" ∧ params.sandboxPaused ∧
        s.status.cell.value.previewUrl = some "v" := by
  intro s
  have hes : ∀ x ∈ movedPreview, x.2.bypasses = false := by decide
  obtain ⟨-, hstart⟩ := started_with_first_status .standard hes
  have hstarted : (s.syncPreview 5002).2.any Output.started := by decide +kernel
  obtain ⟨job, hjob, -, hcurrent⟩ := hstart 5002 hstarted
  have hfollowed : s.job = some "j1" := by decide +kernel
  obtain rfl : job = "j1" := Option.some.inj (hjob.symm.trans hfollowed)
  refine ⟨hes, ?_, hstarted, _, hcurrent, ?_⟩
  · decide +kernel
  · decide +kernel

/-- The preview need not run on what the current status says of its address and its expiry. -/
theorem started_over_with_old_address :
    ¬∀ (timing : SessionTiming) (es : List (Nat × Event)), (∀ x ∈ es, x.2.bypasses = false) →
      let s := Machine.after step (new timing) es
      ∀ now, (s.syncPreview now).2.any Output.started →
        ∃ job, s.job = some job ∧
          (s.syncPreview now).1.preview =
            (s.preview.start now job (previewParams s.status.cell.value)).1 := by
  intro h
  have hes : ∀ x ∈ movedPreview, x.2.bypasses = false := by decide
  obtain ⟨job, -, hstart⟩ := h .standard movedPreview hes 5002 (by decide +kernel)
  have hurl := congrArg (fun d ↦ d.current.map (·.2.previewUrl)) hstart
  simp only [PreviewDriver.current_start, Option.map_some] at hurl
  revert hurl
  decide +kernel

end Session

end JobWatch

import JobWatch.Proofs.Preview.Resources

/-!
# The job of a preview

A driver asks for the job that it was started with, and a run keeps its job through every effect and
every event.
-/

namespace JobWatch

namespace PreviewDriver

def Output.job? : Output → Option String
  | .request _ _ job => some job
  | .publish _ | .notice _ _ => none

/-- What a driver follows is a job with a property. -/
structure RunsFor (P : String → Prop) (d : PreviewDriver) : Prop where
  run : ∀ r, d.run = some r → P r.job
  current : ∀ job params, d.current = some (job, params) → P job

/-- The driver follows a job with a property, and asks for no other. -/
def StaysWith (P : String → Prop) (x : PreviewDriver × List Output) : Prop :=
  RunsFor P x.1 ∧ ∀ o ∈ x.2, ∀ job, o.job? = some job → P job

variable {P : String → Prop} {d : PreviewDriver} {r : Run}

/-- Another run of a job with the property may take the place of the run. -/
theorem RunsFor.withRun (h : RunsFor P d) (cell : Cell PreviewState) (hr : P r.job) :
    RunsFor P { d with cell := cell, run := some r } := by
  refine ⟨fun q hq ↦ ?_, h.current⟩
  obtain rfl := Option.some.inj hq
  exact hr

/-- The run may be given up. -/
theorem RunsFor.withoutRun (h : RunsFor P d) : RunsFor P { d with run := none } :=
  ⟨by simp, h.current⟩

/-- Without a request nothing is asked for. -/
theorem RunsFor.staysWith (h : RunsFor P d) {out : List Output} (hout : ∀ o ∈ out, o.job? = none) :
    StaysWith P (d, out) := by
  refine ⟨h, fun o ho job hj ↦ ?_⟩
  rw [hout o ho] at hj
  contradiction

theorem RunsFor.silent (h : RunsFor P d) : StaysWith P (d, []) := h.staysWith (by simp)

theorem StaysWith.publish {x : PreviewDriver × List Output} (h : StaysWith P x) (s : PreviewState) :
    StaysWith P (x.1, .publish s :: x.2) := by
  refine ⟨h.1, fun o ho job hj ↦ ?_⟩
  rcases List.mem_cons.1 ho with rfl | ho
  · simp [Output.job?] at hj
  · exact h.2 o ho job hj

theorem RunsFor.ask (h : RunsFor P d) (hr : P r.job) (query : Query) :
    StaysWith P (d.ask r query) := by
  refine ⟨⟨fun q hq ↦ ?_, h.current⟩, fun o ho job hj ↦ ?_⟩
  · obtain rfl := Option.some.inj hq
    exact hr
  · obtain rfl := List.mem_singleton.1 ho
    obtain rfl := Option.some.inj hj
    exact hr

theorem RunsFor.perform (h : RunsFor P d) (hr : P r.job) (now : Nat) (e : PreviewEffect) :
    StaysWith P (d.perform now r e) := by
  have hkept : ∀ r' : Run, r'.job = r.job → StaysWith P ({ d with run := some r' }, []) := by
    intro r' hjob
    exact (h.withRun d.cell (hjob ▸ hr)).silent
  cases e with
  | checkEligibility | requestResume => exact h.ask hr _
  | startCountdown =>
    simp only [PreviewDriver.perform]
    split
    · exact h.withoutRun.silent
    · exact hkept _ rfl
  | expiryWarning remaining => exact h.staysWith (by simp [Output.job?])
  | _ => exact hkept _ rfl

theorem RunsFor.performAll (h : RunsFor P d) (now : Nat) (es : List PreviewEffect) :
    StaysWith P (d.performAll now es) := by
  induction es generalizing d with
  | nil => exact h.silent
  | cons e es ih =>
    simp only [PreviewDriver.performAll]
    split
    next => exact h.silent
    next r hr =>
      obtain ⟨hrun, hout⟩ := h.perform (h.run r hr) now e
      obtain ⟨hrun', hout'⟩ := ih hrun
      refine ⟨hrun', fun o ho job hj ↦ ?_⟩
      rcases List.mem_append.1 ho with ho | ho
      · exact hout o ho job hj
      · exact hout' o ho job hj

theorem staysWith_start (d : PreviewDriver) (now : Nat) {job : String} (hjob : P job)
    (params : PreviewParams) : StaysWith P (d.start now job params) := by
  refine StaysWith.publish (RunsFor.performAll ⟨fun r hr ↦ ?_, fun job' params' h ↦ ?_⟩ now _) _
  · obtain rfl := Option.some.inj hr
    exact hjob
  · obtain ⟨rfl, -⟩ := Prod.mk.inj (Option.some.inj h)
    exact hjob

theorem RunsFor.setPaused (h : RunsFor P d) (now : Nat) (paused : Bool) :
    StaysWith P (d.setPaused now paused) := by
  simp only [PreviewDriver.setPaused]
  split
  next => exact h.silent
  next job params hcurrent =>
    split
    · exact h.silent
    · exact staysWith_start d now (h.current job params hcurrent) _

theorem RunsFor.send (h : RunsFor P d) (signal : Signal) : StaysWith P (d.send signal) := by
  simp only [PreviewDriver.send]
  split
  next => exact h.silent
  next r hr =>
    have hsent : RunsFor P { d with run := some { r with inbox := r.inbox ++ [signal] } } :=
      h.withRun d.cell (h.run r hr)
    exact hsent.silent

/-- Taking up an event does not change the job. -/
theorem Run.job_take {r' : Run} {timing : PreviewTiming} {now : Nat} {e : Event}
    {event : PreviewEvent} (h : r.take timing now e = some (r', event)) : r'.job = r.job := by
  unfold take at h
  grind

theorem RunsFor.apply (h : RunsFor P d) (hr : P r.job) (now : Nat) (event : PreviewEvent) :
    StaysWith P (d.apply now r event) := by
  simp only [PreviewDriver.apply]
  split
  next => exact h.withoutRun.silent
  next cell effects _ =>
    exact ((h.withRun cell hr).performAll now effects).publish _

/-- Whatever a run takes up keeps the driver on its job. -/
theorem RunsFor.proceed (h : RunsFor P d) (now : Nat) (e : Event) :
    StaysWith P (d.proceed now e) := by
  simp only [PreviewDriver.proceed]
  split
  next => exact h.silent
  next r hr =>
    split
    next => exact h.silent
    next r' event htake => exact h.apply (Run.job_take htake ▸ h.run r hr) now event

/-- What is asked for is asked for the job that is followed. -/
theorem RunsFor.step (h : RunsFor P d) (now : Nat) {e : Event}
    (he : ∀ job params, e = .start job params → P job) :
    StaysWith P (PreviewDriver.step now d e) := by
  cases e with
  | start job params => exact staysWith_start d now (he job params rfl) params
  | setPaused paused => exact h.setPaused now paused
  | dispose =>
    have hnew : RunsFor P d.dispose.1 := ⟨by simp [dispose], by simp [dispose]⟩
    exact hnew.staysWith (by simp [Output.job?])
  | markLoaded | retry | resume | reportError => exact h.send _
  | receive | loadTimeout | countdown | resumeRetry | reply => exact h.proceed now _

end PreviewDriver

end JobWatch

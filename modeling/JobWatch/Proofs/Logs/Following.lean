import JobWatch.Logs.Feed

/-!
# What a feed can do

A start and a disposal begin the log anew, and a request for earlier lines is noted; whatever else
happens comes from the backend, and changes no more than the log, the stage of the run and the
requests under way. This is said once, in `Continues`; what every run keeps is derived from it.
-/

namespace JobWatch

section Buffer

variable (b : LogBuffer)

/-- A log stays that of its job. -/
@[simp] theorem LogBuffer.jobId_apply (e : LogEvent) : (b.apply e).jobId = b.jobId := by
  cases e with
  | connected =>
    simp only [apply]
    split <;> rfl
  | disconnected | backfill page => rfl
  | stream event =>
    simp only [apply, applyStream]
    split
    · rfl
    · cases event with
      | heartbeat | done status => rfl
      | log line =>
        simp only [append, noteAutoFix]
        grind

end Buffer

namespace Feed

variable {f : Feed}

def Output.job? : Output → Option String
  | .openStream _ job => some job
  | .fetchPage _ job _ _ => some job
  | .publish _ | .loaded _ _ => none

/-- Nothing is asked for, and what the feed follows stays: a request may be answered, the log of the
job may change, and so may the stage of the run. -/
structure Continues (f g : Feed) (out : List Output) : Prop where
  limit : g.limit = f.limit
  writer : g.writer = f.writer
  requests : g.requests = f.requests
  epoch : g.cell.epoch = f.cell.epoch
  jobId : g.cell.value.jobId = f.cell.value.jobId
  run : ∀ r, g.run = some r → ∃ r₀, f.run = some r₀ ∧ r.job = r₀.job ∧ r.writer = r₀.writer
  calls : g.calls ⊆ f.calls
  quiet : ∀ o ∈ out, o.job? = none

theorem Continues.refl (f : Feed) : Continues f f [] :=
  ⟨rfl, rfl, rfl, rfl, rfl, fun r hr ↦ ⟨r, hr, rfl, rfl⟩, fun _ h ↦ h, fun _ h ↦ nomatch h⟩

theorem Continues.trans {g h : Feed} {out more : List Output} (hfg : Continues f g out)
    (hgh : Continues g h more) : Continues f h (out ++ more) where
  limit := hgh.limit.trans hfg.limit
  writer := hgh.writer.trans hfg.writer
  requests := hgh.requests.trans hfg.requests
  epoch := hgh.epoch.trans hfg.epoch
  jobId := hgh.jobId.trans hfg.jobId
  run r hr := by
    obtain ⟨r₁, hr₁, hjob, hwriter⟩ := hgh.run r hr
    obtain ⟨r₀, hr₀, hjob', hwriter'⟩ := hfg.run r₁ hr₁
    exact ⟨r₀, hr₀, hjob.trans hjob', hwriter.trans hwriter'⟩
  calls := fun c hc ↦ hfg.calls (hgh.calls hc)
  quiet o ho := (List.mem_append.1 ho).elim (hfg.quiet o) (hgh.quiet o)

/-! ## The stream -/

/-- The run comes to another stage. -/
theorem continues_stage {r : Run} (h : f.run = some r) (stage : Stage) :
    Continues f { f with run := some { r with stage := stage } } [] :=
  ⟨rfl, rfl, rfl, rfl, rfl, fun _ hq ↦ ⟨r, h, by cases hq; exact ⟨rfl, rfl⟩⟩, fun _ hc ↦ hc,
    fun _ ho ↦ nomatch ho⟩

/-- An event of the run is told of, with the log that it leads to. -/
theorem continues_record {g : Feed} {r : Run} {event : LogEvent} (h : f.record r event = some g) :
    Continues f g [.publish g.cell.value] ∧ g.run = f.run := by
  by_cases hw : f.cell.isCurrent r.writer
  · simp only [record, Cell.update_of_current _ hw, Option.map_some, Option.some.injEq] at h
    subst h
    refine ⟨⟨rfl, rfl, rfl, rfl, LogBuffer.jobId_apply _ event, fun r hr ↦ ⟨r, hr, rfl, rfl⟩,
      fun _ hc ↦ hc, ?_⟩, rfl⟩
    simp [Output.job?]
  · have hw : f.cell.isCurrent r.writer = false := by simpa using hw
    simp [record, Cell.update_of_stale _ hw] at h

theorem continues_close {r : Run} (h : f.run = some r) :
    Continues f (f.close r).1 (f.close r).2 := by
  simp only [close]
  split
  next g hg => exact (continues_stage h .closed).trans (continues_record hg).1
  next => exact continues_stage h .closed

theorem continues_opened {r : Run} (h : f.run = some r) (request : Nat)
    (outcome : Except ApiError Unit) :
    Continues f (f.opened r request outcome).1 (f.opened r request outcome).2 := by
  cases outcome with
  | error e => exact continues_close h
  | ok u =>
    simp only [opened]
    split
    next g hg =>
      obtain ⟨hrecord, hrun⟩ := continues_record hg
      exact hrecord.trans (continues_stage (hrun.trans h) _)
    next => exact continues_stage h .closed

theorem continues_readBytes {r : Run} (h : f.run = some r) (request : Nat)
    (position : EventStream.State) (bytes : List UInt8) :
    Continues f (f.readBytes r request position bytes).1
      (f.readBytes r request position bytes).2 := by
  induction bytes generalizing f position with
  | nil => exact continues_stage h _
  | cons b bytes ih =>
    simp only [readBytes]
    split
    next => exact ih h _
    next event _ =>
      split
      next => exact continues_stage h .closed
      next g hg =>
        obtain ⟨hrecord, hsame⟩ := continues_record hg
        have hrun : g.run = some r := hsame.trans h
        cases event with
        | done status => exact hrecord.trans (continues_close hrun)
        | heartbeat | log line => exact hrecord.trans (ih hrun _)

/-! ## Pages -/

theorem continues_received (f : Feed) (c : PageCall) (reply : Reply) :
    Continues f (f.received c reply).1 (f.received c reply).2 := by
  have hcalls : ∀ x ∈ f.calls.filter (·.request != c.request), x ∈ f.calls := fun _ hx ↦
    (List.mem_filter.1 hx).1
  have hrun : ∀ r, f.run = some r → ∃ r₀, f.run = some r₀ ∧ r.job = r₀.job ∧ r.writer = r₀.writer :=
    fun r hr ↦ ⟨r, hr, rfl, rfl⟩
  simp only [received]
  split
  · exact ⟨rfl, rfl, rfl, rfl, rfl, hrun, hcalls, by simp [Output.job?]⟩
  next page _ =>
    by_cases hw : f.cell.isCurrent c.writer
    · simp only [Cell.update_of_current _ hw]
      exact ⟨rfl, rfl, rfl, rfl, LogBuffer.jobId_apply _ _, hrun, hcalls, by simp [Output.job?]⟩
    · have hw : f.cell.isCurrent c.writer = false := by simpa using hw
      simp only [Cell.update_of_stale _ hw]
      exact ⟨rfl, rfl, rfl, rfl, rfl, hrun, hcalls, by simp [Output.job?]⟩

/-! ## Every step -/

/-- What comes from the backend only lets the feed continue. -/
theorem step_cases (f : Feed) (e : Event) :
    (∃ job, e = .start job) ∨ e = .dispose ∨ e = .loadEarlier ∨
      Continues f (f.step e).1 (f.step e).2 := by
  cases e with
  | start job => exact .inl ⟨job, rfl⟩
  | dispose => exact .inr (.inl rfl)
  | loadEarlier => exact .inr (.inr (.inl rfl))
  | opened id outcome =>
    refine .inr (.inr (.inr ?_))
    simp only [step]
    split
    next r hr =>
      split
      · exact continues_opened hr id outcome
      · exact .refl f
    next => exact .refl f
  | chunk id bytes =>
    refine .inr (.inr (.inr ?_))
    simp only [step]
    split
    next r hr =>
      split
      next request position _ =>
        split
        · exact continues_readBytes hr id position bytes
        · exact .refl f
      next => exact .refl f
    next => exact .refl f
  | ended id =>
    refine .inr (.inr (.inr ?_))
    simp only [step]
    split
    next r hr =>
      split
      next request position _ =>
        split
        · exact continues_close hr
        · exact .refl f
      next => exact .refl f
    next => exact .refl f
  | page id reply =>
    refine .inr (.inr (.inr ?_))
    simp only [step]
    split
    next c _ => exact continues_received f c reply
    next => exact .refl f

/-- No writer is of an epoch to come, and no request under way has a number to come. -/
structure Orderly (f : Feed) : Prop where
  writer_le : ∀ w, f.writer = some w → w.epoch ≤ f.cell.epoch
  call_lt : ∀ c ∈ f.calls, c.request < f.requests
  call_le : ∀ c ∈ f.calls, c.writer.epoch ≤ f.cell.epoch

theorem Orderly.new (limit : Nat) : Orderly (new limit) :=
  ⟨fun _ h ↦ (nomatch h), fun _ h ↦ (nomatch h), fun _ h ↦ (nomatch h)⟩

/-- Whatever happens, a feed stays orderly. -/
theorem Orderly.step (h : Orderly f) (e : Event) : Orderly (f.step e).1 := by
  rcases step_cases f e with ⟨job, rfl⟩ | rfl | rfl | hc
  · refine ⟨fun w hw ↦ ?_, fun c hc ↦ ?_, fun c hc ↦ ?_⟩
    · obtain rfl := Option.some.inj hw
      exact Nat.le_refl _
    · exact Nat.lt_succ_of_lt (h.call_lt c hc)
    · exact Nat.le_succ_of_le (h.call_le c hc)
  · exact ⟨fun w hw ↦ (nomatch hw), h.call_lt, fun c hc ↦ Nat.le_succ_of_le (h.call_le c hc)⟩
  · simp only [Feed.step, loadEarlier]
    split
    next w job hw _ =>
      refine ⟨h.writer_le, fun c hc ↦ ?_, fun c hc ↦ ?_⟩
      · rcases List.mem_append.1 hc with hold | hnew
        · exact Nat.lt_succ_of_lt (h.call_lt c hold)
        · obtain rfl := List.mem_singleton.1 hnew
          exact Nat.lt_succ_self _
      · rcases List.mem_append.1 hc with hold | hnew
        · exact h.call_le c hold
        · obtain rfl := List.mem_singleton.1 hnew
          exact h.writer_le w hw
    next => exact ⟨h.writer_le, fun c hc ↦ Nat.lt_succ_of_lt (h.call_lt c hc), h.call_le⟩
  · refine ⟨fun w hw ↦ ?_, fun c hmem ↦ ?_, fun c hmem ↦ ?_⟩
    · exact hc.epoch ▸ h.writer_le w (hc.writer ▸ hw)
    · exact hc.requests ▸ h.call_lt c (hc.calls hmem)
    · exact hc.epoch ▸ h.call_le c (hc.calls hmem)

/-- A feed keeps its limit. -/
@[simp] theorem limit_step (f : Feed) (e : Event) : (f.step e).1.limit = f.limit := by
  rcases step_cases f e with ⟨job, rfl⟩ | rfl | rfl | hc
  · rfl
  · rfl
  · simp only [Feed.step, loadEarlier]
    split <;> rfl
  · exact hc.limit

/-- A log that has been begun anew is never again as it was at first. -/
theorem epoch_le_step (f : Feed) (e : Event) : f.cell.epoch ≤ (f.step e).1.cell.epoch := by
  rcases step_cases f e with ⟨job, rfl⟩ | rfl | rfl | hc
  · exact Nat.le_succ _
  · exact Nat.le_succ _
  · simp only [Feed.step, loadEarlier]
    split <;> exact Nat.le_refl _
  · exact Nat.le_of_eq hc.epoch.symm

/-- What the feed follows is a job with a property. -/
structure RunsFor (P : String → Prop) (f : Feed) : Prop where
  run : ∀ r, f.run = some r → P r.job
  log : ∀ job, f.cell.value.jobId = some job → P job

/-- What is asked for is asked for the job that is followed. -/
theorem RunsFor.step {P : String → Prop} (h : RunsFor P f) {e : Event}
    (he : ∀ job, e = .start job → P job) :
    RunsFor P (f.step e).1 ∧ ∀ o ∈ (f.step e).2, ∀ job, o.job? = some job → P job := by
  rcases step_cases f e with ⟨job, rfl⟩ | rfl | rfl | hc
  · have hjob : P job := he job rfl
    refine ⟨⟨fun r hr ↦ ?_, fun job' hj ↦ ?_⟩, fun o ho job' hj ↦ ?_⟩
    · obtain rfl := Option.some.inj hr
      exact hjob
    · obtain rfl := Option.some.inj hj
      exact hjob
    · simp only [Feed.step, start, List.mem_cons, List.not_mem_nil, or_false] at ho
      rcases ho with rfl | rfl <;> simp [Output.job?] at hj
      exact hj ▸ hjob
  · refine ⟨⟨fun r hr ↦ (nomatch hr), fun job hj ↦ (nomatch hj)⟩, fun o ho job hj ↦ ?_⟩
    obtain rfl := List.mem_singleton.1 ho
    simp [Output.job?] at hj
  · simp only [Feed.step, loadEarlier]
    split
    next w job _ hlog =>
      refine ⟨⟨h.run, h.log⟩, fun o ho job' hj ↦ ?_⟩
      obtain rfl := List.mem_singleton.1 ho
      obtain rfl := Option.some.inj hj
      exact h.log job hlog
    next =>
      refine ⟨⟨h.run, h.log⟩, fun o ho job hj ↦ ?_⟩
      obtain rfl := List.mem_singleton.1 ho
      simp [Output.job?] at hj
  · refine ⟨⟨fun r hr ↦ ?_, fun job hj ↦ h.log job (hc.jobId ▸ hj)⟩, fun o ho job hj ↦ ?_⟩
    · obtain ⟨r₀, hr₀, hjob, -⟩ := hc.run r hr
      exact hjob ▸ h.run r₀ hr₀
    · rw [hc.quiet o ho] at hj
      contradiction

end Feed

end JobWatch

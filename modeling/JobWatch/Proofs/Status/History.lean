import JobWatch.Status.Tracker
import Mathlib.Data.List.Induction

/-!
# A status and its history

A status is kept up to date one attempt at a time. What it says can also be read off the attempts
themselves: those up to the first that brings a final status count, the latest response among them
fills in the data, and the failures after that response are the ones that make a lost connection
(`tracker_eq_history`).

The counter of failures is one of 32 bits and starts over when it is full. A connection that is
lost stays lost then, because the sign of it is kept apart from the counter.
-/

namespace JobWatch

/-- The response that an attempt has brought. -/
def StatusEvent.response? : StatusEvent → Option StatusResponse
  | .fetched r => some r
  | .failed _ => none

def StatusEvent.isFinal (e : StatusEvent) : Bool := e.response?.any (·.status.isTerminal)

namespace Tracker

def applyAll (t : Tracker) (es : List StatusEvent) : Tracker := es.foldl apply t

/-- The attempts that count: all up to the first that brings a final status. -/
def counted : List StatusEvent → List StatusEvent
  | [] => []
  | e :: es => if e.isFinal then [e] else e :: counted es

def latest (es : List StatusEvent) : Option StatusResponse :=
  (es.filterMap StatusEvent.response?).getLast?

/-- The number of failures since the latest response. -/
def failures (es : List StatusEvent) : Nat :=
  (es.reverse.takeWhile fun e ↦ e.response?.isNone).length

/-- What attempts tell when they are looked at together. -/
def ofHistory (job : Option String) (threshold : Nat) (es : List StatusEvent) : Tracker where
  jobId := job
  status := (latest es).elim .queued (·.status)
  label := (latest es).elim "" (·.stageLabel)
  previewUrl := (latest es).bind (·.previewUrl)
  buildVersion := (latest es).bind (·.buildVersion)
  error := (latest es).bind (·.errorMessage)
  debugId := (latest es).bind (·.debugId)
  sandboxExpiresAt := (latest es).bind (·.sandboxExpiresAt)
  sandboxPaused := (latest es).elim false (·.sandboxPaused)
  stageIndex := ((latest es).elim .queued (·.status)).stageIndex
  totalStages := JobStatus.stages.length
  isTerminal := ((latest es).elim .queued (·.status)).isTerminal
  connectionFailed := max threshold 1 ≤ failures es
  hasData := (latest es).isSome
  consecutiveFailures := failures es % 4294967296
  failureThreshold := max threshold 1

variable {job : Option String} {threshold : Nat} {t : Tracker} {e : StatusEvent}
  {es : List StatusEvent}

/-! ## The attempts that count -/

/-- A final status is left alone. -/
theorem applyAll_of_isTerminal (h : t.isTerminal) (es : List StatusEvent) : t.applyAll es = t := by
  induction es with
  | nil => rfl
  | cons e es ih =>
    have hkept : t.apply e = t := by simp [apply, h]
    rw [applyAll, List.foldl_cons, hkept]
    exact ih

theorem isTerminal_apply_of_isFinal (h : e.isFinal) (t : Tracker) : (t.apply e).isTerminal := by
  cases e with
  | failed error => exact nomatch h
  | fetched r =>
    by_cases ht : t.isTerminal
    · simp [apply, ht]
    · have hstatus : r.status.isTerminal := h
      simp only [apply, ht, Bool.false_eq_true, if_false]
      exact hstatus

/-- Attempts after a final status change nothing. -/
theorem applyAll_counted (t : Tracker) (es : List StatusEvent) :
    t.applyAll (counted es) = t.applyAll es := by
  induction es generalizing t with
  | nil => rfl
  | cons e es ih =>
    simp only [counted]
    split
    next h => exact (applyAll_of_isTerminal (isTerminal_apply_of_isFinal h t) es).symm
    next h => exact ih (t.apply e)

/-- Only the last attempt that counts can be final. -/
theorem not_isFinal_of_mem_dropLast (h : e ∈ (counted es).dropLast) : e.isFinal = false := by
  induction es with
  | nil => exact absurd h List.not_mem_nil
  | cons x es ih =>
    simp only [counted] at h
    split at h
    · exact absurd h List.not_mem_nil
    next hx =>
      cases hes : counted es with
      | nil => simp [hes] at h
      | cons y ys =>
        rw [hes, List.dropLast_cons_cons] at h
        rcases List.mem_cons.1 h with rfl | h
        · simpa using hx
        · exact ih (hes ▸ h)

/-! ## One attempt more -/

theorem latest_concat : latest (es ++ [e]) = e.response?.or (latest es) := by
  cases e with
  | fetched r => simp [latest, StatusEvent.response?]
  | failed error => simp [latest, StatusEvent.response?]

theorem failures_concat :
    failures (es ++ [e]) = if e.response?.isNone then failures es + 1 else 0 := by
  rw [failures, List.reverse_append, List.reverse_singleton, List.singleton_append,
    List.takeWhile_cons]
  split <;> rfl

/-- A tracker is at its end when the latest response is final. -/
theorem isTerminal_ofHistory :
    (ofHistory job threshold es).isTerminal = (latest es).any (·.status.isTerminal) := by
  simp only [ofHistory]
  cases latest es <;> rfl

/-- What is known goes on as its history does. The counter may be full, but by then the sign of a
lost connection is set. -/
theorem apply_ofHistory (hthreshold : threshold < 4294967296)
    (h : (ofHistory job threshold es).isTerminal = false) :
    (ofHistory job threshold es).apply e = ofHistory job threshold (es ++ [e]) := by
  unfold apply
  rw [if_neg (Bool.eq_false_iff.1 h)]
  cases e with
  | fetched r => simp [ofHistory, latest_concat, failures_concat, StatusEvent.response?]
  | failed error =>
    have hlatest : latest (es ++ [.failed error]) = latest es := latest_concat
    have hfailures : failures (es ++ [.failed error]) = failures es + 1 := failures_concat
    have hlost : (decide (max threshold 1 ≤ failures es) ||
        decide (max threshold 1 ≤ (failures es + 1) % 4294967296)) =
          decide (max threshold 1 ≤ failures es + 1) := by
      rw [← Bool.decide_or, decide_eq_decide]
      omega
    simp only [ofHistory, hlatest, hfailures, Nat.mod_add_mod, hlost]

/-- Attempts of which none is final have brought no final status. -/
theorem isTerminal_latest (h : ∀ e ∈ es, e.isFinal = false) :
    (latest es).any (·.status.isTerminal) = false := by
  cases hlatest : latest es with
  | none => rfl
  | some r =>
    obtain ⟨x, hx, hr⟩ := List.mem_filterMap.1 (List.mem_of_getLast? hlatest)
    have hfinal := h x hx
    rw [StatusEvent.isFinal, hr] at hfinal
    exact hfinal

/-! ## Every history -/

/-- As long as no attempt but the last is final, every attempt counts. -/
theorem applyAll_eq_ofHistory (job : Option String) (hthreshold : threshold < 4294967296)
    (h : ∀ e ∈ es.dropLast, e.isFinal = false) :
    (new job threshold).applyAll es = ofHistory job threshold es := by
  induction es using List.reverseRecOn with
  | nil =>
    have hstage : JobStatus.queued.stageIndex = 0 := by decide
    have hopen : JobStatus.queued.isTerminal = false := rfl
    simp [applyAll, new, ofHistory, latest, failures, hstage, hopen]
  | append_singleton es e ih =>
    rw [List.dropLast_concat] at h
    have hopen : (ofHistory job threshold es).isTerminal = false := by
      rw [isTerminal_ofHistory, isTerminal_latest h]
    calc
      _ = ((new job threshold).applyAll es).apply e := by simp [applyAll]
      _ = (ofHistory job threshold es).apply e := by
        rw [ih fun x hx ↦ h x (List.dropLast_subset es hx)]
      _ = _ := apply_ofHistory hthreshold hopen

/-- The attempts that count have brought a final status exactly if the last of them has. -/
theorem isTerminal_latest_counted (es : List StatusEvent) :
    (latest (counted es)).any (·.status.isTerminal) = (counted es).getLast?.any (·.isFinal) := by
  have hopen : ∀ e ∈ (counted es).dropLast, e.isFinal = false := fun _ ↦ not_isFinal_of_mem_dropLast
  rcases List.eq_nil_or_concat (counted es) with hnil | ⟨before, e, hconcat⟩
  · rw [hnil]
    rfl
  · rw [List.concat_eq_append] at hconcat
    rw [hconcat, List.dropLast_concat] at hopen
    rw [hconcat, latest_concat, List.getLast?_concat, Option.any_some]
    cases e with
    | fetched r => rfl
    | failed error => exact isTerminal_latest hopen

/-- What a status says, told from its history.

It is what the attempts up to the first that brings a final status tell together, and those after
that change nothing. The counter tells the failures since the latest response as long as they fit
into it. There is always a stage of the pipeline to show, and there is nothing more to fetch exactly
if there is no job or the last attempt that counts has brought a final status. -/
theorem tracker_eq_history (job : Option String) (hthreshold : threshold < 4294967296)
    (es : List StatusEvent) :
    let t := (new job threshold).applyAll es
    t = ofHistory job threshold (counted es) ∧ t = (new job threshold).applyAll (counted es) ∧
    (failures (counted es) < 4294967296 → t.consecutiveFailures = failures (counted es)) ∧
    t.stageIndex = ((latest (counted es)).elim .queued (·.status)).stageIndex ∧
    t.isTerminal = ((latest (counted es)).elim .queued (·.status)).isTerminal ∧
    t.stageIndex < t.totalStages ∧
    (t.shouldFetch = false ↔ job = none ∨
      ∃ r, (counted es).getLast? = some (.fetched r) ∧ (r.status = .ready ∨ r.status = .failed)) := by
  intro t
  have hcounted : t = (new job threshold).applyAll (counted es) := (applyAll_counted _ es).symm
  have hhistory : t = ofHistory job threshold (counted es) :=
    hcounted.trans (applyAll_eq_ofHistory job hthreshold fun _ ↦ not_isFinal_of_mem_dropLast)
  refine ⟨hhistory, hcounted, fun hfit ↦ ?_, ?_, ?_, ?_, ?_⟩
  · rw [hhistory]
    exact Nat.mod_eq_of_lt hfit
  · rw [hhistory]
    rfl
  · rw [hhistory]
    rfl
  · rw [hhistory]
    exact JobStatus.stageIndex_lt _
  · have hfinal : ∀ s : JobStatus, s.isTerminal = true ↔ s = .ready ∨ s = .failed := by
      intro s
      cases s <;> simp [JobStatus.isTerminal]
    have hjob : t.jobId = job := by rw [hhistory]; rfl
    have hterminal : t.isTerminal = (counted es).getLast?.any (·.isFinal) := by
      rw [hhistory, isTerminal_ofHistory, isTerminal_latest_counted]
    rw [shouldFetch, hjob, hterminal, Bool.and_eq_false_iff, Option.isSome_eq_false_iff,
      Option.isNone_iff_eq_none]
    cases hlast : (counted es).getLast? with
    | none => simp
    | some e => cases e <;> simp [StatusEvent.isFinal, StatusEvent.response?, hfinal]

/-- A build that has failed stays failed, and no failure to fetch its status makes it lost. With a
threshold of zero the one failure before would have. -/
theorem failed_build_is_kept :
    let response : JobStatus → StatusEvent := fun s ↦
      .fetched ⟨s, s.name, none, none, none, none, none, false⟩
    let es := [.failed .timeout, response .failed, .failed .timeout, response .code]
    let t := (new (some "j1") 0).applyAll es
    0 < 4294967296 ∧ counted es = [.failed .timeout, response .failed] ∧
      t.status = .failed ∧ t.label = "failed" ∧ t.connectionFailed = false ∧ t.shouldFetch = false := by
  intro response es t
  have hthreshold : 0 < 4294967296 := by decide
  have hcounted : counted es = [.failed .timeout, response .failed] := rfl
  obtain ⟨h, -, -, -, -, -, hfetch⟩ := tracker_eq_history (some "j1") hthreshold es
  refine ⟨hthreshold, hcounted, ?_, ?_, ?_, hfetch.2 (.inr ⟨_, rfl, .inr rfl⟩)⟩
  · exact congrArg status h
  · exact congrArg label h
  · exact congrArg connectionFailed h

end Tracker

end JobWatch

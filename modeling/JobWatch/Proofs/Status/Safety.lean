import JobWatch.Status.Poller
import JobWatch.Proofs.Machine

/-!
# Requests for a status

What a poller may ask for, and what may be told to it. A run of the poller is what lies between a
start and the next start or disposal; it asks for its own job only, one request at a time, and for
nothing once the status is final. What belongs to an earlier run has no say any more: its requests
are told apart by their numbers, which are never used twice, and its writer is refused by the cell,
whose epoch has gone on.

The bookkeeping is done from outside, from the events and what comes out alone: `following` is the
job that the poller was told to follow, `outstanding` the requests of the current run that are not
answered. What a step can do is said once, in `step_cases`; every invariant is derived from that.
-/

namespace JobWatch

theorem Tracker.jobId_apply (t : Tracker) (e : StatusEvent) : (t.apply e).jobId = t.jobId := by
  unfold apply
  split
  · rfl
  · cases e <;> rfl

namespace Poller

/-- The job that is followed after an event. -/
def Event.follow (job : Option String) : Event → Option String
  | .start job => some job
  | .dispose => none
  | _ => job

def following (es : List (Nat × Event)) : Option String :=
  es.foldl (fun job x ↦ x.2.follow job) none

/-- Whether an event ends the current run. -/
def Event.endsRun : Event → Bool
  | .start _ | .dispose => true
  | _ => false

/-- What an event leaves of the requests that are not answered. -/
def Event.leave (waiting : List Nat) : Event → List Nat
  | .start _ | .dispose => []
  | .reply id _ => waiting.filter (· ≠ id)
  | _ => waiting

def Output.fetch? : Output → Option (Nat × String)
  | .fetch id job => some (id, job)
  | .publish _ => none

def fetches (out : List Output) : List (Nat × String) := out.filterMap Output.fetch?

/-- The requests of the current run that are not answered after some events. -/
def outstanding : Poller → List Nat → List (Nat × Event) → List Nat
  | _, waiting, [] => waiting
  | p, waiting, (now, e) :: es =>
    let (q, out) := p.step now e
    outstanding q (e.leave waiting ++ (fetches out).map (·.1)) es

@[simp] theorem fetches_nil : fetches [] = [] := rfl

@[simp] theorem fetches_publish (t : Tracker) (out : List Output) :
    fetches (.publish t :: out) = fetches out := rfl

@[simp] theorem fetches_fetch (id : Nat) (job : String) (out : List Output) :
    fetches (.fetch id job :: out) = (id, job) :: fetches out := rfl

theorem mem_fetches {id : Nat} {job : String} {out : List Output} :
    (id, job) ∈ fetches out ↔ .fetch id job ∈ out := by
  simp only [fetches, List.mem_filterMap]
  constructor
  · rintro ⟨o, ho, heq⟩
    cases o <;> simp_all [Output.fetch?]
  · exact fun h ↦ ⟨_, h, rfl⟩

/-- The request whose answer a run waits for. -/
def Stage.awaited : Stage → List Nat
  | .fetching id => [id]
  | _ => []

def awaited (p : Poller) : List Nat := p.run.elim [] (·.stage.awaited)

/-! ## What a step can do -/

/-- The run goes on: it keeps its job and its writer, a final status stays, and at most one request
is issued, with the next number. -/
structure GoesOn (p : Poller) (r : Run) (q : Poller) (out : List Output) : Prop where
  settings : q.settings = p.settings
  run : ∃ r', q.run = some r' ∧ r'.job = r.job ∧ r'.writer = r.writer
  epoch : q.cell.epoch = p.cell.epoch
  final : p.cell.value.isTerminal → q.cell.value.isTerminal
  asks : fetches out = [] ∧ q.awaited = [] ∧ q.requests = p.requests ∨
    fetches out = [(p.requests, r.job)] ∧ q.awaited = [p.requests] ∧ q.requests = p.requests + 1 ∧
      q.cell.value.shouldFetch

variable {p : Poller} {now : Nat}

theorem GoesOn.proceed (p : Poller) (r : Run) : GoesOn p r (p.proceed r).1 (p.proceed r).2 := by
  unfold Poller.proceed
  split
  next h =>
    exact ⟨rfl, ⟨_, rfl, rfl, rfl⟩, rfl, fun ht ↦ ht, .inr ⟨rfl, rfl, rfl, h⟩⟩
  next h => exact ⟨rfl, ⟨_, rfl, rfl, rfl⟩, rfl, fun ht ↦ ht, .inl ⟨rfl, rfl, rfl⟩⟩

/-- Telling the host is no request. -/
theorem GoesOn.publish {r : Run} {q : Poller} {out : List Output} (h : GoesOn p r q out)
    (t : Tracker) : GoesOn p r q (.publish t :: out) :=
  ⟨h.settings, h.run, h.epoch, h.final, h.asks⟩

/-- A run that starts from another run with the same job and writer, in a poller with the same
settings and requests, goes on from that one. -/
theorem GoesOn.trans {p' : Poller} {r r' : Run} {q : Poller} {out : List Output}
    (h : GoesOn p' r' q out) (hjob : r'.job = r.job) (hwriter : r'.writer = r.writer)
    (hsettings : p'.settings = p.settings) (hepoch : p'.cell.epoch = p.cell.epoch)
    (hrequests : p'.requests = p.requests)
    (hfinal : p.cell.value.isTerminal → p'.cell.value.isTerminal) : GoesOn p r q out := by
  obtain ⟨r'', hrun, hj, hw⟩ := h.run
  refine ⟨h.settings.trans hsettings, ⟨r'', hrun, hj.trans hjob, hw.trans hwriter⟩,
    h.epoch.trans hepoch, fun ht ↦ h.final (hfinal ht), ?_⟩
  simpa only [hrequests, hjob] using h.asks

theorem isTerminal_apply {t : Tracker} (h : t.isTerminal) (e : StatusEvent) :
    (t.apply e).isTerminal := by simp [Tracker.apply, h]

theorem GoesOn.answered (p : Poller) (now : Nat) (r : Run) (reply : Reply) :
    GoesOn p r (p.answered now r reply).1 (p.answered now r reply).2 := by
  unfold Poller.answered Cell.update
  by_cases hw : p.cell.isCurrent r.writer
  · simp only [hw, if_true]
    refine GoesOn.publish ?_ _
    split
    · exact ⟨rfl, ⟨_, rfl, rfl, rfl⟩, rfl, fun ht ↦ isTerminal_apply ht _, .inl ⟨rfl, rfl, rfl⟩⟩
    · split
      · exact (GoesOn.proceed _ _).trans rfl rfl rfl rfl rfl fun ht ↦ isTerminal_apply ht _
      · exact ⟨rfl, ⟨_, rfl, rfl, rfl⟩, rfl, fun ht ↦ isTerminal_apply ht _, .inl ⟨rfl, rfl, rfl⟩⟩
  · simp only [hw]
    exact ⟨rfl, ⟨_, rfl, rfl, rfl⟩, rfl, fun ht ↦ ht, .inl ⟨rfl, rfl, rfl⟩⟩

/-- The fresh status of a job that is followed from now on. -/
def fresh (p : Poller) (job : Option String) : Tracker := .new job p.settings.failureThreshold

/-- A start gives up the run there was; the new one, if the interval allows for one, goes on from a
fresh status. -/
theorem start_cases (p : Poller) (now : Nat) (job : String) :
    let q : Poller := { p with cell := (p.cell.reset (p.fresh job)).1, run := none }
    step now p (.start job) = (q, [.publish (p.fresh job)]) ∨
    ∃ r : Run, r.job = job ∧ r.writer = (p.cell.reset (p.fresh job)).2 ∧
      GoesOn q r (step now p (.start job)).1 (step now p (.start job)).2 := by
  simp only [step, start, fresh]
  split
  · exact .inl rfl
  · exact .inr ⟨_, rfl, rfl, (GoesOn.proceed _ _).publish _⟩

/-- Between a start and the next one an event is ignored, or is a sign of visibility that is kept
for later, or lets the run go on. An answer that is not waited for is ignored. -/
theorem step_cases (p : Poller) (now : Nat) {e : Event} (he : e.endsRun = false) :
    step now p e = (p, []) ∧ e.leave p.awaited = p.awaited ∨
    (∃ r, p.run = some r ∧
      step now p e = ({ p with run := some { r with permit := true } }, []) ∧
      e.leave p.awaited = p.awaited) ∨
    ∃ r, p.run = some r ∧ GoesOn p r (step now p e).1 (step now p e).2 ∧
      e.leave p.awaited = [] := by
  cases hrun : p.run with
  | none =>
    refine .inl ⟨?_, ?_⟩
    · cases e <;> simp_all [step, visible, tick, Event.endsRun]
    · cases e <;> simp_all [awaited, Event.leave]
  | some r =>
    have hawaited : p.awaited = r.stage.awaited := by simp [awaited, hrun]
    cases e with
    | start job | dispose => simp [Event.endsRun] at he
    | visible =>
      cases hs : r.stage with
      | waiting =>
        refine .inr (.inr ⟨r, rfl, ?_, by simp [hawaited, hs, Stage.awaited, Event.leave]⟩)
        simp only [step, visible, hrun, hs]
        exact (GoesOn.proceed p _).trans rfl rfl rfl rfl rfl id
      | fetching id | finished =>
        exact .inr (.inl ⟨r, rfl, by simp [step, visible, hrun, hs], rfl⟩)
    | tick =>
      by_cases hs : r.stage = .waiting ∧ r.due ≤ now
      · refine .inr (.inr ⟨r, rfl, ?_, by simp [hawaited, hs.1, Stage.awaited, Event.leave]⟩)
        simp only [step, tick, hrun, hs, and_self, if_true]
        exact (GoesOn.proceed p _).trans rfl rfl rfl rfl rfl id
      · exact .inl ⟨by simp only [step, tick, hrun, hs, if_false], rfl⟩
    | reply id reply =>
      by_cases hs : r.stage = .fetching id
      · refine .inr (.inr ⟨r, rfl, ?_, by simp [hawaited, hs, Stage.awaited, Event.leave]⟩)
        simp only [step, hrun, hs, if_true]
        exact GoesOn.answered p now r reply
      · refine .inl ⟨by simp only [step, hrun, hs, if_false], ?_⟩
        cases hs' : r.stage with
        | fetching other =>
          have hne : other ≠ id := fun heq ↦ hs (heq ▸ hs')
          simp [hawaited, hs', Stage.awaited, Event.leave, hne]
        | waiting | finished => simp [hawaited, hs', Stage.awaited, Event.leave]

/-- The events that end a run, and the others. -/
theorem Event.endsRun_cases (e : Event) :
    (∃ job, e = .start job) ∨ e = .dispose ∨ e.endsRun = false := by
  cases e <;> simp [Event.endsRun]

/-- A poller keeps its settings. -/
@[simp] theorem settings_step (p : Poller) (now : Nat) (e : Event) :
    (step now p e).1.settings = p.settings := by
  rcases e.endsRun_cases with ⟨job, rfl⟩ | rfl | he
  · rcases start_cases p now job with h | ⟨r, -, -, h⟩
    · rw [h]
    · exact h.settings
  · rfl
  · rcases step_cases p now he with ⟨h, -⟩ | ⟨r, -, h, -⟩ | ⟨r, -, h, -⟩
    · rw [h]
    · rw [h]
    · exact h.settings

/-! ## Requests -/

/-- The requests that are not answered are the one that is waited for. -/
theorem outstanding_step (now : Nat) (p : Poller) (e : Event) :
    e.leave p.awaited ++ (fetches (step now p e).2).map (·.1) = (step now p e).1.awaited := by
  rcases e.endsRun_cases with ⟨job, rfl⟩ | rfl | he
  · rcases start_cases p now job with h | ⟨r, -, -, h⟩
    · rw [h]; rfl
    · rcases h.asks with ⟨hf, ha, -⟩ | ⟨hf, ha, -⟩ <;> rw [hf, ha] <;> rfl
  · rfl
  · rcases step_cases p now he with ⟨h, hl⟩ | ⟨r, hr, h, hl⟩ | ⟨r, -, h, hl⟩
    · rw [h, hl]
      simp
    · rw [h, hl]
      simp [awaited, hr]
    · rw [hl]
      rcases h.asks with ⟨hf, ha, -⟩ | ⟨hf, ha, -⟩ <;> rw [hf, ha] <;> rfl

/-- The requests that are not answered are those whose answer the poller waits for. -/
theorem outstanding_eq_awaited (p : Poller) (es : List (Nat × Event)) :
    outstanding p p.awaited es = (Machine.after step p es).awaited := by
  induction es generalizing p with
  | nil => rfl
  | cons x es ih =>
    obtain ⟨now, e⟩ := x
    simp only [outstanding, Machine.after_cons, outstanding_step]
    exact ih _

/-- A poller waits for at most one answer. -/
theorem length_awaited_le (p : Poller) : p.awaited.length ≤ 1 := by
  unfold awaited
  cases p.run with
  | none => simp
  | some r => cases h : r.stage <;> simp [h, Stage.awaited]

/-- The run, if there is one, is that of a job with a property. -/
def RunsFor (P : String → Prop) (p : Poller) : Prop := ∀ r, p.run = some r → P r.job

theorem GoesOn.runsFor {P : String → Prop} {r : Run} {q : Poller} {out : List Output}
    (h : GoesOn p r q out) (hr : P r.job) : RunsFor P q ∧ ∀ x ∈ fetches out, P x.2 := by
  obtain ⟨r', hr', hjob, -⟩ := h.run
  refine ⟨fun r'' hr'' ↦ ?_, fun x hx ↦ ?_⟩
  · obtain rfl := Option.some.inj (hr'.symm.trans hr'')
    exact hjob ▸ hr
  · rcases h.asks with ⟨hf, -⟩ | ⟨hf, -⟩ <;> rw [hf] at hx
    · exact absurd hx List.not_mem_nil
    · obtain rfl := List.mem_singleton.1 hx
      exact hr

/-- A step follows a job of before or the one that it starts with, and asks for that one only. -/
theorem RunsFor.step {P Q : String → Prop} (h : RunsFor P p) (now : Nat) {e : Event}
    (hstart : ∀ job, e = .start job → Q job) (hsame : e.endsRun = false → ∀ job, P job → Q job) :
    RunsFor Q (Poller.step now p e).1 ∧ ∀ x ∈ fetches (Poller.step now p e).2, Q x.2 := by
  rcases e.endsRun_cases with ⟨job, rfl⟩ | rfl | he
  · rcases start_cases p now job with hs | ⟨r, hr, -, hs⟩
    · rw [hs]
      exact ⟨fun r hr ↦ (nomatch hr), fun x hx ↦ absurd hx List.not_mem_nil⟩
    · exact hs.runsFor (hr ▸ hstart job rfl)
  · exact ⟨fun r hr ↦ (nomatch hr), fun x hx ↦ absurd hx List.not_mem_nil⟩
  · rcases step_cases p now he with ⟨hs, -⟩ | ⟨r, hr, hs, -⟩ | ⟨r, hr, hs, -⟩
    · rw [hs]
      exact ⟨fun r hr ↦ hsame he _ (h r hr), fun x hx ↦ absurd hx List.not_mem_nil⟩
    · rw [hs]
      refine ⟨fun q hq ↦ ?_, fun x hx ↦ absurd hx List.not_mem_nil⟩
      obtain rfl := Option.some.inj hq
      exact hsame he _ (h r hr)
    · exact hs.runsFor (hsame he _ (h r hr))

/-- A request is for the job that is followed when it is issued. -/
theorem RunsFor.step_follow {job : Option String} (h : RunsFor (job = some ·) p) (now : Nat)
    (e : Event) :
    RunsFor (e.follow job = some ·) (Poller.step now p e).1 ∧
      ∀ x ∈ fetches (Poller.step now p e).2, e.follow job = some x.2 := by
  refine h.step now ?_ fun he ↦ ?_
  · rintro job' rfl
    rfl
  · cases e <;> simp_all [Event.follow, Event.endsRun]

/-- After any run, a poller runs for the job that was named last. -/
theorem RunsFor.after {job : Option String} (h : RunsFor (job = some ·) p)
    (es : List (Nat × Event)) :
    RunsFor (es.foldl (fun job x ↦ x.2.follow job) job = some ·)
      (Machine.after Poller.step p es) := by
  induction es generalizing p job with
  | nil => exact h
  | cons x es ih => exact ih (h.step_follow x.1 x.2).1

/-- Without a run, or with a final status, there is nothing to ask for. -/
def Quiet (p : Poller) : Prop := p.run = none ∨ p.cell.value.isTerminal

/-- Until it is started again, a quiet poller asks for nothing. -/
theorem Quiet.step (h : Quiet p) {e : Event} (he : ∀ job, e ≠ .start job) :
    Quiet (step now p e).1 ∧ fetches (step now p e).2 = [] := by
  rcases e.endsRun_cases with ⟨job, rfl⟩ | rfl | he
  · exact absurd rfl (he job)
  · exact ⟨.inl rfl, rfl⟩
  · rcases step_cases p now he with ⟨hs, -⟩ | ⟨r, hr, hs, -⟩ | ⟨r, hr, hs, -⟩
    · rw [hs]
      exact ⟨h, rfl⟩
    · rw [hs]
      exact ⟨.inr (h.resolve_left (by simp [hr])), rfl⟩
    · have hfinal := hs.final (h.resolve_left (by simp [hr]))
      refine ⟨.inr hfinal, ?_⟩
      rcases hs.asks with ⟨hf, -⟩ | ⟨-, -, -, hfetch⟩
      · exact hf
      · simp [Tracker.shouldFetch, hfinal] at hfetch

/-- A quiet poller asks for nothing until the next start. -/
theorem Quiet.outputs (h : Quiet p) {es : List (Nat × Event)}
    (hes : ∀ x ∈ es, ∀ job, x.2 ≠ .start job) (id : Nat) (job : String) :
    ∀ x ∈ Machine.outputs Poller.step p es, x.2 ≠ .fetch id job := by
  have keep : ∀ now p (e : Event), (∀ job, e ≠ .start job) → Quiet p →
      Quiet (Poller.step now p e).1 := fun _ _ _ he hq ↦ (hq.step he).1
  have emit : ∀ now p (e : Event), (∀ job, e ≠ .start job) → Quiet p →
      ∀ o ∈ (Poller.step now p e).2, o ≠ .fetch id job := by
    intro now p e he hq o ho heq
    have hmem : (id, job) ∈ fetches (Poller.step now p e).2 := mem_fetches.2 (heq ▸ ho)
    rw [(hq.step he).2] at hmem
    exact List.not_mem_nil hmem
  exact Machine.outputs_of_step keep emit h hes

/-! ## Earlier runs -/

/-- Numbers and epochs only go on: a request gets a number that was not used before, and the end of
a run takes the cell to the next epoch. -/
structure Advances (p : Poller) (e : Event) (q : Poller) (out : List Output) : Prop where
  requests_le : p.requests ≤ q.requests
  epoch_eq : q.cell.epoch = p.cell.epoch + if e.endsRun then 1 else 0
  mem_awaited : ∀ id ∈ q.awaited, p.requests ≤ id ∨ e.endsRun = false ∧ id ∈ p.awaited
  fetch_lt : ∀ x ∈ fetches out, x.1 < q.requests
  writer : ∀ r, q.run = some r →
    r.writer.epoch = q.cell.epoch ∨ ∃ r₀, p.run = some r₀ ∧ r.writer = r₀.writer

/-- A run that goes on in a poller with the same requests advances, given its epoch and its writer.
-/
theorem GoesOn.advances {p' : Poller} {r : Run} {e : Event} {q : Poller} {out : List Output}
    (h : GoesOn p' r q out) (hrequests : p'.requests = p.requests)
    (hepoch : p'.cell.epoch = p.cell.epoch + if e.endsRun then 1 else 0)
    (hwriter : r.writer.epoch = p'.cell.epoch ∨ p.run = some r) : Advances p e q out := by
  obtain ⟨r', hr', -, hw⟩ := h.run
  have hrun : ∀ r, q.run = some r →
      r.writer.epoch = q.cell.epoch ∨ ∃ r₀, p.run = some r₀ ∧ r.writer = r₀.writer := by
    intro r'' hr''
    obtain rfl := Option.some.inj (hr'.symm.trans hr'')
    rcases hwriter with hw' | hr
    · exact .inl (by rw [hw, hw', h.epoch])
    · exact .inr ⟨r, hr, hw⟩
  rcases h.asks with ⟨hf, ha, hq⟩ | ⟨hf, ha, hq, -⟩
  · exact ⟨by omega, h.epoch.trans hepoch, by simp [ha], by simp [hf], hrun⟩
  · exact ⟨by omega, h.epoch.trans hepoch, by simp [ha, hrequests], by simp [hf, hq], hrun⟩

/-- In every step, numbers and epochs only go on. -/
theorem advances_step (now : Nat) (p : Poller) (e : Event) :
    Advances p e (step now p e).1 (step now p e).2 := by
  rcases e.endsRun_cases with ⟨job, rfl⟩ | rfl | he
  · rcases start_cases p now job with h | ⟨r, -, hw, h⟩
    · rw [h]
      exact ⟨Nat.le_refl _, rfl, by simp [awaited], by simp, by simp⟩
    · exact h.advances rfl rfl (.inl (by rw [hw]; rfl))
  · exact ⟨Nat.le_refl _, rfl, by simp [step, dispose, awaited], by simp [step, dispose],
      by simp [step, dispose]⟩
  · rcases step_cases p now he with ⟨h, -⟩ | ⟨r, hr, h, -⟩ | ⟨r, hr, h, -⟩
    · rw [h]
      exact ⟨Nat.le_refl _, by simp [he], fun id hid ↦ .inr ⟨he, hid⟩, by simp,
        fun r hr ↦ .inr ⟨r, hr, rfl⟩⟩
    · rw [h]
      refine ⟨Nat.le_refl _, by simp [he], fun id hid ↦ .inr ⟨he, ?_⟩, by simp, fun q hq ↦ ?_⟩
      · simpa [awaited, hr] using hid
      · obtain rfl := Option.some.inj hq
        exact .inr ⟨r, hr, rfl⟩
    · exact h.advances rfl (by simp [he]) (.inr hr)

/-- The poller is past a number of requests and a number of resets: it waits for no request of
before, and no writer of before is current. -/
structure Past (requests epoch : Nat) (p : Poller) : Prop where
  requests_le : requests ≤ p.requests
  le_of_awaited : ∀ id ∈ p.awaited, requests ≤ id
  epoch_le : epoch ≤ p.cell.epoch

/-- An event that ends a run leaves every request of it behind. -/
theorem past_of_endsRun {e : Event} (he : e.endsRun) :
    Past p.requests (p.cell.epoch + 1) (step now p e).1 := by
  have h := advances_step now p e
  refine ⟨h.requests_le, fun id hid ↦ (h.mem_awaited id hid).resolve_right ?_, ?_⟩
  · simp [he]
  · simp [h.epoch_eq, he]

theorem Past.step {n m : Nat} (h : Past n m p) (e : Event) : Past n m (step now p e).1 := by
  have ha := advances_step now p e
  refine ⟨Nat.le_trans h.requests_le ha.requests_le, fun id hid ↦ ?_, ?_⟩
  · rcases ha.mem_awaited id hid with hnew | ⟨-, hold⟩
    · exact Nat.le_trans h.requests_le hnew
    · exact h.le_of_awaited id hold
  · exact Nat.le_trans h.epoch_le (ha.epoch_eq ▸ Nat.le_add_right ..)

/-- An answer that is not waited for is ignored. -/
theorem step_reply_of_notMem {id : Nat} (h : id ∉ p.awaited) (now : Nat) (reply : Reply) :
    step now p (.reply id reply) = (p, []) := by
  cases hr : p.run with
  | none => simp [step, hr]
  | some r =>
    have hs : r.stage ≠ .fetching id := fun hs ↦ h (by simp [awaited, hr, hs, Stage.awaited])
    simp only [step, hr, hs, if_false]

/-- Every request has a number below the number of requests. -/
theorem fetch_lt_requests (p : Poller) (es : List (Nat × Event)) :
    p.requests ≤ (Machine.after step p es).requests ∧
      ∀ x ∈ Machine.outputs step p es, ∀ id job, x.2 = .fetch id job →
        id < (Machine.after step p es).requests := by
  induction es generalizing p with
  | nil => exact ⟨Nat.le_refl _, fun x hx ↦ absurd hx List.not_mem_nil⟩
  | cons x es ih =>
    obtain ⟨now, e⟩ := x
    obtain ⟨hle, hlt⟩ := ih (step now p e).1
    have h := advances_step now p e
    refine ⟨Nat.le_trans h.requests_le hle, fun x hx id job heq ↦ ?_⟩
    rcases List.mem_append.1 hx with hx | hx
    · obtain ⟨o, ho, rfl⟩ := List.mem_map.1 hx
      exact Nat.lt_of_lt_of_le (h.fetch_lt (id, job) (mem_fetches.2 (heq ▸ ho))) hle
    · exact hlt x hx id job heq

/-- No writer is of an epoch to come. -/
theorem writer_le_epoch (settings : PollSettings) (es : List (Nat × Event)) :
    ∀ r, (Machine.after step (new settings) es).run = some r →
      r.writer.epoch ≤ (Machine.after step (new settings) es).cell.epoch := by
  have keep : ∀ now (p : Poller) e, (∀ r, p.run = some r → r.writer.epoch ≤ p.cell.epoch) →
      ∀ r, (step now p e).1.run = some r → r.writer.epoch ≤ (step now p e).1.cell.epoch := by
    intro now p e h r hr
    have ha := advances_step now p e
    rcases ha.writer r hr with hw | ⟨r₀, hr₀, hw⟩
    · exact Nat.le_of_eq hw
    · rw [hw, ha.epoch_eq]
      exact Nat.le_trans (h r₀ hr₀) (Nat.le_add_right ..)
  have hnew : ∀ r, (new settings).run = some r → r.writer.epoch ≤ (new settings).cell.epoch :=
    fun r hr ↦ (nomatch hr)
  exact Machine.after_of_every_step keep hnew es

/-! ## What is published -/

section Value

variable (p : Poller) (now : Nat)

@[simp] theorem cell_proceed (r : Run) : (p.proceed r).1.cell = p.cell := by
  unfold proceed
  split <;> rfl

/-- The status of a run changes by attempts to fetch it and in no other way. -/
theorem value_step {P : Tracker → Prop} (happly : ∀ t e, P t → P (t.apply e)) {e : Event}
    (he : e.endsRun = false) (h : P p.cell.value) : P (step now p e).1.cell.value := by
  cases e with
  | start | dispose => exact nomatch he
  | visible =>
    simp only [step, visible]
    split
    · exact h
    · split
      · rwa [cell_proceed]
      · exact h
  | tick =>
    simp only [step, tick]
    split
    · exact h
    · split
      · rwa [cell_proceed]
      · exact h
  | reply id reply =>
    simp only [step]
    split
    next r _ =>
      split
      · by_cases hw : p.cell.isCurrent r.writer
        · simp only [answered, Cell.update_of_current _ hw]
          split
          · exact happly _ _ h
          · split
            · rw [cell_proceed]
              exact happly _ _ h
            · exact happly _ _ h
        · rw [Bool.not_eq_true] at hw
          simpa only [answered, Cell.update_of_stale _ hw] using h
      · exact h
    · exact h

/-- A status stays that of its job until the run is ended. -/
theorem jobId_step {e : Event} (he : e.endsRun = false) :
    (step now p e).1.cell.value.jobId = p.cell.value.jobId :=
  p.value_step now (P := fun t ↦ t.jobId = p.cell.value.jobId)
    (fun _ _ h ↦ (Tracker.jobId_apply ..).trans h) he rfl

/-- A start publishes the fresh tracker of its job. -/
theorem value_start (job : String) :
    (p.start now job).1.cell.value = .new (some job) p.settings.failureThreshold := by
  simp only [start]
  split
  · rfl
  · rw [cell_proceed]
    rfl

theorem jobId_start (job : String) : (p.start now job).1.cell.value.jobId = some job := by
  rw [value_start]
  rfl

/-- The stage that is shown is that of the status, and so is the sign that it is final. -/
theorem agrees_step (e : Event) (h : p.cell.value.Agrees) : (step now p e).1.cell.value.Agrees := by
  cases e with
  | start job =>
    have hvalue : (step now p (.start job)).1.cell.value = _ := p.value_start now job
    exact hvalue ▸ Tracker.agrees_new ..
  | dispose => exact Tracker.agrees_new ..
  | visible | tick | reply => exact p.value_step now (fun _ _ h ↦ h.apply _) rfl h

end Value

/-! ## Every run -/

/-- What holds of a poller in every state that events lead to.

A request is for the job that is followed when it is issued, so there is none after disposal. At
most one request of the current run is not answered. Once the status is ready or failed nothing more
is asked for until the next start. After the end of a run, the answers to its requests are ignored,
and its writer is refused. -/
theorem polling_is_safe (settings : PollSettings) (es : List (Nat × Event)) :
    let p := Machine.after step (new settings) es
    (∀ now e id job, .fetch id job ∈ (step now p e).2 → following (es ++ [(now, e)]) = some job) ∧
    (outstanding (new settings) [] es).length ≤ 1 ∧
    (p.cell.value.status = .ready ∨ p.cell.value.status = .failed →
      ∀ later, (∀ x ∈ later, ∀ job, x.2 ≠ .start job) →
        ∀ x ∈ Machine.outputs step p later, ∀ id job, x.2 ≠ .fetch id job) ∧
    (∀ now later, (∀ x ∈ later, ∀ job, x.2 ≠ .start job) →
      ∀ x ∈ Machine.outputs step p ((now, .dispose) :: later), ∀ id job, x.2 ≠ .fetch id job) ∧
    (∀ now e later, e.endsRun →
      let q := Machine.after step p ((now, e) :: later)
      (∀ x ∈ Machine.outputs step (new settings) es, ∀ id job, x.2 = .fetch id job →
        ∀ time reply, step time q (.reply id reply) = (q, [])) ∧
      ∀ r, p.run = some r → ∀ f : Tracker → Tracker × Unit, q.cell.update r.writer f = none) := by
  intro p
  refine ⟨fun now e id job hout ↦ ?_, ?_, fun hstatus later hlater ↦ ?_, fun now later hlater ↦ ?_,
    fun now e later he ↦ ?_⟩
  · have hnew : RunsFor ((none : Option String) = some ·) (new settings) := fun r hr ↦ nomatch hr
    have hfollows : RunsFor (following es = some ·) p := hnew.after es
    have hjob := (hfollows.step_follow now e).2 (id, job) (mem_fetches.2 hout)
    simpa [following, List.foldl_append] using hjob
  · have h := outstanding_eq_awaited (new settings) es
    exact h ▸ length_awaited_le p
  · have hagrees : p.cell.value.Agrees :=
      Machine.after_of_every_step (P := fun p : Poller ↦ p.cell.value.Agrees)
        (fun now p e h ↦ p.agrees_step now e h) (Tracker.agrees_new ..) es
    have hquiet : Quiet p := by
      refine .inr (hagrees.isTerminal.trans ?_)
      rcases hstatus with h | h <;> rw [h] <;> rfl
    exact fun x hx id job ↦ hquiet.outputs hlater id job x hx
  · have hquiet : Quiet p.dispose.1 := .inl rfl
    intro x hx id job
    rcases List.mem_append.1 hx with hx | hx
    · obtain ⟨o, ho, rfl⟩ := List.mem_map.1 hx
      obtain rfl := List.mem_singleton.1 ho
      exact fun heq ↦ nomatch heq
    · exact hquiet.outputs hlater id job x hx
  · intro q
    have hpast : Past p.requests (p.cell.epoch + 1) q :=
      Machine.after_of_every_step (fun _ _ e h ↦ h.step e) (past_of_endsRun he) later
    refine ⟨fun x hx id job heq time reply ↦ ?_, fun r hr f ↦ ?_⟩
    · have hlt : id < p.requests := (fetch_lt_requests _ es).2 x hx id job heq
      refine step_reply_of_notMem (fun hid ↦ ?_) time reply
      exact absurd (hpast.le_of_awaited id hid) (Nat.not_le_of_lt hlt)
    · have hle := writer_le_epoch settings es r hr
      have hlt : r.writer.epoch < q.cell.epoch := Nat.lt_of_le_of_lt hle hpast.epoch_le
      refine Cell.update_of_stale f ?_
      simpa [Cell.isCurrent] using (Nat.ne_of_lt hlt).symm

/-- A job that is ready is not asked for again when the host is shown or a tick is due, and when it
is started over, a second answer to the first request is ignored. -/
theorem ready_job_left_alone :
    let es := [(0, .start "j1"), (1, .reply 0 (.ok "[\"ready\"]".toUTF8.toList))]
    let p := Machine.after step (new .standard) es
    let q := Machine.after step p [(6000, .start "j1")]
    p.cell.value.status = .ready ∧
    (∀ x ∈ Machine.outputs step p [(2, .visible), (5001, .tick)], ∀ id job, x.2 ≠ .fetch id job) ∧
    (0, .fetch 0 "j1") ∈ Machine.outputs step (new .standard) es ∧
    step 6001 q (.reply 0 (.ok "[\"failed\"]".toUTF8.toList)) = (q, []) := by
  intro es p q
  have hready : p.cell.value.status = .ready := by decide +kernel
  have hfetch : (0, .fetch 0 "j1") ∈ Machine.outputs step (new .standard) es :=
    List.mem_cons_of_mem _ List.mem_cons_self
  obtain ⟨-, -, final, -, earlier⟩ := polling_is_safe .standard es
  refine ⟨hready, final (.inl hready) _ (by simp), hfetch, ?_⟩
  exact (earlier 6000 (.start "j1") [] rfl).1 _ hfetch 0 "j1" rfl 6001 _

end Poller

end JobWatch

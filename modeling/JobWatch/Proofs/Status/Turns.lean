import JobWatch.Proofs.Status.Safety

/-!
# The turns of the loop

`Poller.step` takes up a sign of visibility in the step that brings it. Here the loop that polls has
turns of its own: a start or a sign wakes it, what it was woken for is done at its next turn, and
more may happen before that. Where a tick is due and a sign is there at one turn, either may come
first, so that the choice is part of the move. Signs are numbered, and a request names its cause.

What a turn can do is said once, in `turn_cases` and `take_of_fetching`, for a run that is in order;
every move leaves it so. The events of `Poller.step` are the histories in which the loop has its
turns at once.
-/

namespace JobWatch

namespace Poller

/-- What causes a request. -/
inductive Cause where
  | start
  | interval
  /-- The sign of visibility with a number. -/
  | sign (n : Nat)
deriving DecidableEq, Repr

/-- A poller whose loop has turns of its own. -/
structure Scheduled where
  poller : Poller
  /-- What the loop was woken for and has not done yet. -/
  woken : Option Cause
  /-- The number of the sign that the run keeps, if it keeps one. -/
  kept : Nat
  /-- The number of signs so far. -/
  signs : Nat

namespace Scheduled

/-- What may happen. Where both a sign and a tick could be next, `tickFirst` chooses the tick. -/
inductive Move where
  | start (job : String)
  | visible
  | dispose
  /-- The loop has a turn. -/
  | turn (tickFirst : Bool)
  /-- The loop has a turn that takes the answer to a request. -/
  | reply (request : Nat) (reply : Reply) (tickFirst : Bool)

/-- What comes out: requests with their cause, and what is published. -/
inductive Notice where
  | ask (cause : Cause) (request : Nat) (job : String)
  | publish (t : Tracker)

/-- What comes out of a poller, whatever the cause. -/
def Notice.output : Notice → Output
  | .ask _ id job => .fetch id job
  | .publish t => .publish t

def fresh (settings : PollSettings) : Scheduled := ⟨.new settings, none, 0, 0⟩

/-- Names the cause of what comes out of a poller. -/
def because (c : Cause) (out : List Output) : List Notice :=
  out.map fun
    | .fetch id job => .ask c id job
    | .publish t => .publish t

/-- Whether the loop waits and nothing has woken it. -/
def isIdle (s : Scheduled) : Bool :=
  s.woken.isNone && s.poller.run.any (·.stage = .waiting)

def isDue (s : Scheduled) (now : Nat) : Bool := s.poller.run.any (·.due ≤ now)

/-- Keeps a sign for the time after the next answer. -/
def keep (s : Scheduled) (n : Nat) : Scheduled :=
  { s with
    poller := { s.poller with run := s.poller.run.map ({ · with permit := true }) }
    kept := n }

def start (s : Scheduled) (now : Nat) (job : String) : Scheduled × List Notice :=
  let p := s.poller
  let (cell, writer) := p.cell.reset (p.fresh (some job))
  let run : Option Run :=
    if p.settings.interval = 0 then none
    else some ⟨job, writer, now + p.settings.interval, false, .waiting⟩
  ({ s with poller := { p with cell := cell, run := run }, woken := run.map fun _ ↦ .start },
    [.publish (p.fresh (some job))])

/-- A sign wakes an idle loop, and is kept otherwise. -/
def visible (s : Scheduled) : Scheduled :=
  let next := { s with signs := s.signs + 1 }
  if s.isIdle then { next with woken := some (.sign s.signs) } else next.keep s.signs

/-- The turn of a loop that takes up a tick, if one is due. -/
def tick (s : Scheduled) (now : Nat) : Scheduled × List Notice :=
  let (p, out) := s.poller.tick now
  ({ s with poller := p, woken := none }, because .interval out)

/-- The turn of a loop that does what it was woken for. -/
def resume (s : Scheduled) (now : Nat) (c : Cause) : Scheduled × List Notice :=
  let (p, out) := s.poller.visible now
  ({ s with poller := p, woken := none }, because c out)

/-- A turn of the loop. A sign that woke it is kept if a tick comes first. -/
def turn (s : Scheduled) (now : Nat) (tickFirst : Bool) : Scheduled × List Notice :=
  match s.woken with
  | none => s.tick now
  | some (.sign n) =>
    if tickFirst && s.isDue now then ((s.tick now).1.keep n, (s.tick now).2)
    else s.resume now (.sign n)
  | some c => s.resume now c

/-- A turn of the loop that takes an answer, and then a kept sign or, in its stead, a tick. -/
def take (s : Scheduled) (now id : Nat) (reply : Reply) (tickFirst : Bool) :
    Scheduled × List Notice :=
  match s.poller.run with
  | none => (s, [])
  | some r =>
    if r.stage = .fetching id then
      if tickFirst && r.permit && s.isDue now then
        let (p, told) := s.poller.answered now { r with permit := false } reply
        let (p, asked) := p.tick now
        ({ s with poller := p, woken := none }.keep s.kept, because .interval (told ++ asked))
      else
        let (p, out) := s.poller.answered now r reply
        ({ s with poller := p, woken := none }, because (.sign s.kept) out)
    else (s, [])

def move (now : Nat) (s : Scheduled) : Move → Scheduled × List Notice
  | .start job => s.start now job
  | .visible => (s.visible, [])
  | .dispose =>
    let (p, out) := s.poller.dispose
    ({ s with poller := p, woken := none }, because .start out)
  | .turn tickFirst => s.turn now tickFirst
  | .reply id reply tickFirst => s.take now id reply tickFirst

@[simp] theorem because_nil (c : Cause) : because c [] = [] := rfl

@[simp] theorem map_output_because (c : Cause) (out : List Output) :
    (because c out).map Notice.output = out := by
  rw [because, List.map_map]
  refine List.map_id'' (fun o ↦ ?_) out
  cases o <;> rfl

/-! ## What a turn does -/

def status (s : Scheduled) : Tracker := s.poller.cell.value

/-- The run is in order: its writer is current, its job is known, and the loop has ended if and only
if the status is final. It was woken only if it waits, and a sign is kept only for the time after an
answer or for the next turn. -/
structure Tends (s : Scheduled) (r : Run) : Prop where
  run : s.poller.run = some r
  current : s.poller.cell.isCurrent r.writer
  job : s.status.jobId = some r.job
  finished : r.stage = .finished ↔ s.status.isTerminal
  waits : s.woken.isSome → r.stage = .waiting
  rests : r.stage = .waiting → s.woken = none → r.permit = false

/-- Either a run is in order, or there is none and, if the interval allows for one, no job. -/
inductive Attentive (s : Scheduled) : Prop where
  | tends (r : Run) (h : Tends s r)
  | absent (run : s.poller.run = none) (woken : s.woken = none)
    (job : 0 < s.poller.settings.interval → s.status.jobId = none)

def ask (s : Scheduled) (r : Run) (c : Cause) : Scheduled × List Notice :=
  ({ s with poller := (s.poller.issue r).1, woken := none }, [.ask c s.poller.requests r.job])

/-- What an answer says is published. -/
def hear (s : Scheduled) (reply : Reply) : Scheduled :=
  let c := s.poller.cell
  { s with
    poller.cell := ⟨c.value.apply (eventOf reply), c.epoch, c.version + 1⟩
    woken := none }

def reach (s : Scheduled) (r : Run) (stage : Stage) : Scheduled :=
  { s with poller.run := some { r with stage := stage } }

section Turns

variable {s : Scheduled} {r : Run} {reply : Reply}

/-- A poller tends one run at a time. -/
theorem Tends.unique {r' : Run} (h : Tends s r) (h' : Tends s r') : r = r' :=
  Option.some.inj (h.run.symm.trans h'.run)

theorem Tends.isTerminal_of_ne (h : Tends s r) (hs : r.stage ≠ .finished) :
    s.status.isTerminal = false := Bool.eq_false_iff.2 fun ht ↦ hs (h.finished.2 ht)

theorem Tends.shouldFetch (h : Tends s r) (hs : r.stage ≠ .finished) : s.status.shouldFetch := by
  simp [Tracker.shouldFetch, h.job, h.isTerminal_of_ne hs]

theorem proceed_of_shouldFetch {p : Poller} (hfetch : p.cell.value.shouldFetch) :
    p.proceed r = p.issue r := if_pos hfetch

/-- A tick that is due leads a waiting run to a request. -/
theorem tick_eq_issue {p : Poller} {now : Nat} (hrun : p.run = some r) (hs : r.stage = .waiting)
    (hdue : r.due ≤ now) (hfetch : p.cell.value.shouldFetch) :
    p.tick now = p.issue { r with due := nextTick p.settings.interval r.due now } := by
  simp only [Poller.tick, hrun, hs, hdue, and_self, if_true, proceed_of_shouldFetch hfetch]

/-- A loop that takes up a tick asks, if the tick is due; else nothing happens. -/
theorem tick_of_due {now : Nat} (h : Tends s r) (hs : r.stage = .waiting) (hdue : r.due ≤ now) :
    s.tick now =
      s.ask { r with due := nextTick s.poller.settings.interval r.due now } .interval := by
  simp only [tick, tick_eq_issue h.run hs hdue (h.shouldFetch (by simp [hs]))]
  rfl

/-- A turn for a tick that is not due only takes up that the loop was woken. -/
theorem tick_of_not_due {now : Nat}
    (hs : ∀ r, s.poller.run = some r → ¬ (r.stage = .waiting ∧ r.due ≤ now)) :
    s.tick now = ({ s with woken := none }, []) := by
  unfold tick Poller.tick
  cases hrun : s.poller.run with
  | none => rfl
  | some r => simp only [if_neg (hs r hrun), because_nil]

/-- A loop that was not woken has nothing to do before a tick is due. -/
theorem turn_of_not_due {now : Nat} (tickFirst : Bool) (hwoken : s.woken = none)
    (hs : ∀ r, s.poller.run = some r → ¬ (r.stage = .waiting ∧ r.due ≤ now)) :
    s.turn now tickFirst = (s, []) := by
  have hsame : { s with woken := none } = s := by rw [← hwoken]
  simp only [turn, hwoken, tick_of_not_due hs, hsame]

/-- A loop that was woken asks. -/
theorem resume_of_waiting (now : Nat) (c : Cause) (h : Tends s r) (hs : r.stage = .waiting) :
    s.resume now c = s.ask { r with due := now + s.poller.settings.interval } c := by
  have hfetch := h.shouldFetch (by simp [hs])
  simp only [resume, Poller.visible, h.run, hs, proceed_of_shouldFetch hfetch]
  rfl

/-- A turn of the loop does nothing, or asks for what the loop was woken for, or asks because of a
tick and keeps the sign that the loop was woken for. -/
theorem turn_cases (now : Nat) (tickFirst : Bool) (h : Attentive s) :
    s.turn now tickFirst = (s, []) ∧ s.woken = none ∨
    ∃ r due, Tends s r ∧ r.stage = .waiting ∧
      (s.turn now tickFirst = s.ask { r with due := due } (s.woken.getD .interval) ∨
      ∃ n, s.woken = some (.sign n) ∧
        let asked := s.ask { r with due := due } .interval
        s.turn now tickFirst = (asked.1.keep n, asked.2)) := by
  cases h with
  | absent hrun hwoken => exact .inl ⟨turn_of_not_due tickFirst hwoken (by simp [hrun]), hwoken⟩
  | tends r h =>
    cases hw : s.woken with
    | none =>
      by_cases hs : r.stage = .waiting ∧ r.due ≤ now
      · refine .inr ⟨r, nextTick s.poller.settings.interval r.due now, h, hs.1, .inl ?_⟩
        simp only [turn, hw, tick_of_due h hs.1 hs.2, Option.getD_none]
      · refine .inl ⟨turn_of_not_due tickFirst hw ?_, rfl⟩
        exact fun r' hr' ↦ Option.some.inj (h.run.symm.trans hr') ▸ hs
    | some c =>
      have hs : r.stage = .waiting := h.waits (by simp [hw])
      simp only [turn, hw]
      cases c with
      | start | interval => exact .inr ⟨r, _, h, hs, .inl (resume_of_waiting now _ h hs)⟩
      | sign n =>
        by_cases hfirst : tickFirst && s.isDue now
        · have hdue : r.due ≤ now := by simpa [isDue, h.run] using (Bool.and_eq_true_iff.1 hfirst).2
          refine .inr ⟨r, nextTick s.poller.settings.interval r.due now, h, hs, .inr ⟨n, rfl, ?_⟩⟩
          simp only [hfirst, if_true, tick_of_due h hs hdue]
        · refine .inr ⟨r, now + s.poller.settings.interval, h, hs, .inl ?_⟩
          exact (if_neg hfirst).trans (resume_of_waiting now _ h hs)

theorem Tends.jobId_hear (h : Tends s r) : (s.hear reply).status.jobId = some r.job :=
  (Tracker.jobId_apply _ _).trans h.job

theorem Tends.shouldFetch_hear (h : Tends s r) (hopen : (s.hear reply).status.isTerminal = false) :
    (s.hear reply).status.shouldFetch := by
  simp [Tracker.shouldFetch, h.jobId_hear, hopen]

/-- An answer is published. If the status is final, the loop ends. -/
theorem answered_of_final (now : Nat) (h : Tends s r) (permit : Bool)
    (hfinal : (s.hear reply).status.isTerminal) :
    s.poller.answered now { r with permit := permit } reply =
      (((s.hear reply).reach { r with permit := permit } .finished).poller,
        [.publish (s.hear reply).status]) := by
  have hcurrent : s.poller.cell.isCurrent { r with permit := permit }.writer := h.current
  have hfinal' : (s.poller.cell.value.apply (eventOf reply)).isTerminal := hfinal
  simp only [answered, Cell.update_of_current _ hcurrent, hfinal', if_true]
  rfl

/-- If the status is not final, a loop that keeps no sign waits. -/
theorem answered_of_waiting (now : Nat) (h : Tends s r)
    (hopen : (s.hear reply).status.isTerminal = false) :
    s.poller.answered now { r with permit := false } reply =
      (((s.hear reply).reach { r with permit := false } .waiting).poller,
        [.publish (s.hear reply).status]) := by
  have hcurrent : s.poller.cell.isCurrent { r with permit := false }.writer := h.current
  have hopen' : (s.poller.cell.value.apply (eventOf reply)).isTerminal = false := hopen
  simp only [answered, Cell.update_of_current _ hcurrent, hopen', Bool.false_eq_true, if_false]
  rfl

/-- And one that keeps a sign asks. -/
theorem answered_of_kept (now : Nat) (h : Tends s r) (hpermit : r.permit)
    (hopen : (s.hear reply).status.isTerminal = false) :
    ∃ due, s.poller.answered now r reply =
      (((s.hear reply).poller.issue { r with permit := false, due := due }).1,
        [.publish (s.hear reply).status, .fetch s.poller.requests r.job]) := by
  have hopen' : (s.poller.cell.value.apply (eventOf reply)).isTerminal = false := hopen
  have hfetch' : (s.poller.cell.value.apply (eventOf reply)).shouldFetch := h.shouldFetch_hear hopen
  refine ⟨now + s.poller.settings.interval, ?_⟩
  simp only [answered, Cell.update_of_current _ h.current, hopen', hpermit, proceed, hfetch',
    Bool.false_eq_true, if_false, if_true]
  rfl

/-- A turn that takes the answer of a run publishes the status. If it is final, the loop ends. Else
a kept sign leads to a request, unless a tick does and the sign stays; without a sign the loop
waits. -/
theorem take_of_fetching (now id : Nat) (reply : Reply) (tickFirst : Bool) (h : Tends s r)
    (hid : r.stage = .fetching id) :
    let u := s.hear reply
    (u.status.isTerminal ∧
      s.take now id reply tickFirst = (u.reach r .finished, [.publish u.status])) ∨
    u.status.isTerminal = false ∧
      ((r.permit = false ∧
        s.take now id reply tickFirst = (u.reach r .waiting, [.publish u.status])) ∨
      r.permit ∧ ∃ due,
        (let asked := u.ask { r with permit := false, due := due } (.sign s.kept)
        s.take now id reply tickFirst = (asked.1, .publish u.status :: asked.2)) ∨
        let asked := u.ask { r with permit := false, due := due } .interval
        s.take now id reply tickFirst = (asked.1.keep s.kept, .publish u.status :: asked.2)) := by
  intro u
  simp only [take, h.run, if_pos hid]
  by_cases hfirst : tickFirst && r.permit && s.isDue now
  · -- the loop would wait, and the tick that is due makes it ask
    obtain ⟨hpermit, hdue⟩ : r.permit = true ∧ r.due ≤ now := by
      simp_all [isDue, h.run]
    have hsame : { r with permit := true } = r := by rw [← hpermit]
    simp only [hfirst, if_true]
    cases hu : u.status.isTerminal with
    | true =>
      refine .inl ⟨rfl, ?_⟩
      rw [answered_of_final now h false hu, ← hsame]
      rfl
    | false =>
      refine .inr ⟨rfl, .inr ⟨hpermit, nextTick s.poller.settings.interval r.due now, .inr ?_⟩⟩
      have htick := tick_eq_issue (p := (u.reach { r with permit := false } .waiting).poller) rfl
        rfl hdue (h.shouldFetch_hear hu)
      simp only [answered_of_waiting now h hu]
      rw [htick]
      rfl
  · simp only [hfirst]
    cases hu : u.status.isTerminal with
    | true =>
      refine .inl ⟨rfl, ?_⟩
      rw [answered_of_final now h r.permit hu]
      rfl
    | false =>
      refine .inr ⟨rfl, ?_⟩
      cases hpermit : r.permit with
      | false =>
        have hsame : { r with permit := false } = r := by rw [← hpermit]
        refine .inl ⟨rfl, ?_⟩
        rw [← hsame, answered_of_waiting now h hu]
        rfl
      | true =>
        obtain ⟨due, hanswer⟩ := answered_of_kept now h hpermit hu
        refine .inr ⟨rfl, due, .inl ?_⟩
        rw [hanswer]
        rfl

/-- An answer is that of the run, or it is ignored. -/
theorem take_cases (now id : Nat) (reply : Reply) (tickFirst : Bool) (h : Attentive s) :
    s.take now id reply tickFirst = (s, []) ∨ ∃ r, Tends s r ∧ r.stage = .fetching id := by
  unfold take
  cases h with
  | absent hrun => exact .inl (by simp only [hrun])
  | tends r h =>
    by_cases hid : r.stage = .fetching id
    · exact .inr ⟨r, h, hid⟩
    · exact .inl (by simp only [h.run, if_neg hid])

end Turns

/-! ## Every state that moves lead to -/

section Moves

variable {s : Scheduled} {r : Run} (now : Nat)

theorem attentive_fresh (settings : PollSettings) : Attentive (fresh settings) :=
  .absent rfl rfl fun _ ↦ rfl

/-- A loop that has asked is in order. -/
theorem attentive_ask (c : Cause) (hcurrent : s.poller.cell.isCurrent r.writer)
    (hjob : s.status.jobId = some r.job) (hopen : s.status.isTerminal = false) :
    Attentive (s.ask r c).1 := by
  refine .tends _ ⟨rfl, hcurrent, hjob, ?_, nofun, nofun⟩
  exact iff_of_false nofun (Bool.eq_false_iff.1 hopen)

/-- A loop that has ended, or waits without a sign, is in order. -/
theorem attentive_reach {stage : Stage} (hcurrent : s.poller.cell.isCurrent r.writer)
    (hjob : s.status.jobId = some r.job) (hfinal : stage = .finished ↔ s.status.isTerminal)
    (hwoken : s.woken = none) (hrests : stage = .waiting → r.permit = false) :
    Attentive (s.reach r stage) :=
  .tends _ ⟨rfl, hcurrent, hjob, hfinal, by simp [reach, hwoken], fun hs _ ↦ hrests hs⟩

/-- A loop that is not idle may keep a sign. -/
theorem Tends.keep (n : Nat) (h : Tends s r) (hidle : s.isIdle = false) :
    Tends (s.keep n) { r with permit := true } := by
  refine ⟨by simp [Scheduled.keep, h.run], h.current, h.job, h.finished, h.waits, ?_⟩
  intro hs hwoken
  have hnone : s.woken = none := hwoken
  have hwaiting : r.stage = .waiting := hs
  simp [isIdle, hnone, h.run, hwaiting] at hidle

theorem Attentive.keep (n : Nat) (h : Attentive s) (hidle : s.isIdle = false) :
    Attentive (s.keep n) := by
  cases h with
  | tends r h => exact .tends _ (h.keep n hidle)
  | absent hrun hwoken hjob => exact .absent (by simp [Scheduled.keep, hrun]) hwoken hjob

/-- The number of signs has no part in that. -/
theorem Tends.count (n : Nat) (h : Tends s r) : Tends { s with signs := n } r :=
  ⟨h.run, h.current, h.job, h.finished, h.waits, h.rests⟩

theorem woken_of_idle (hidle : s.isIdle) : s.woken = none :=
  Option.isNone_iff_eq_none.1 (Bool.and_eq_true_iff.1 hidle).1

theorem isIdle_of_absent (hrun : s.poller.run = none) : s.isIdle = false := by
  simp [isIdle, hrun]

theorem visible_of_idle (hidle : s.isIdle) :
    s.visible = { s with signs := s.signs + 1, woken := some (.sign s.signs) } := if_pos hidle

theorem visible_of_not_idle (hidle : s.isIdle = false) :
    s.visible = { s with signs := s.signs + 1 }.keep s.signs :=
  if_neg (Bool.eq_false_iff.1 hidle)

/-- A sign wakes a loop that is idle. -/
theorem Tends.wake (h : Tends s r) (hidle : s.isIdle) : Tends s.visible r := by
  obtain ⟨-, hwaits⟩ := Bool.and_eq_true_iff.1 hidle
  rw [visible_of_idle hidle]
  exact ⟨h.run, h.current, h.job, h.finished, fun _ ↦ by simpa [h.run] using hwaits, nofun⟩

/-- Every move leaves the run in order. -/
theorem Attentive.move (h : Attentive s) (m : Move) : Attentive (move now s m).1 := by
  cases m with
  | start job =>
    simp only [Scheduled.move, start]
    by_cases hzero : s.poller.settings.interval = 0
    · refine .absent (by simp [hzero]) (by simp [hzero]) fun hpos ↦ ?_
      exact absurd hzero (Nat.ne_of_gt hpos)
    · refine .tends _ ⟨by simp only [if_neg hzero]; rfl, Cell.isCurrent_reset .., rfl, ?_, ?_, ?_⟩
      · exact iff_of_false nofun nofun
      · exact fun _ ↦ rfl
      · exact fun _ _ ↦ rfl
  | dispose => exact .absent rfl rfl fun _ ↦ rfl
  | visible =>
    simp only [Scheduled.move]
    cases h with
    | absent hrun hwoken hjob =>
      rw [visible_of_not_idle (isIdle_of_absent hrun)]
      exact .absent (by simp [Scheduled.keep, hrun]) hwoken hjob
    | tends r h =>
      cases hidle : s.isIdle with
      | true => exact .tends r (h.wake hidle)
      | false =>
        rw [visible_of_not_idle hidle]
        exact .tends _ ((h.count _).keep _ hidle)
  | turn tickFirst =>
    simp only [Scheduled.move]
    rcases turn_cases now tickFirst h with
      ⟨heq, -⟩ | ⟨r, due, h, hs, heq | ⟨n, -, heq⟩⟩ <;> rw [heq]
    · exact h
    · exact attentive_ask _ h.current h.job (h.isTerminal_of_ne (by simp [hs]))
    · refine Attentive.keep n ?_ rfl
      exact attentive_ask _ h.current h.job (h.isTerminal_of_ne (by simp [hs]))
  | reply id reply tickFirst =>
    simp only [Scheduled.move]
    rcases take_cases now id reply tickFirst h with heq | ⟨r, h, hid⟩
    · exact heq ▸ h
    · rcases take_of_fetching now id reply tickFirst h hid with
        ⟨hfinal, heq⟩ | ⟨hopen, ⟨hpermit, heq⟩ | ⟨-, due, heq | heq⟩⟩ <;> rw [heq]
      · exact attentive_reach h.current h.jobId_hear (by simp [hfinal]) rfl nofun
      · exact attentive_reach h.current h.jobId_hear (by simp [hopen]) rfl fun _ ↦ hpermit
      · exact attentive_ask (.sign s.kept) h.current h.jobId_hear hopen
      · refine Attentive.keep s.kept ?_ rfl
        exact attentive_ask _ h.current h.jobId_hear hopen

/-- A poller is attentive after any moves. -/
theorem Attentive.after (h : Attentive s) (ms : List (Nat × Move)) :
    Attentive (Machine.after Scheduled.move s ms) :=
  Machine.after_of_every_step (fun now _ m h ↦ h.move now m) h ms

/-- A poller keeps its settings. -/
theorem settings_move (m : Move) :
    (Scheduled.move now s m).1.poller.settings = s.poller.settings := by
  cases m with
  | start | dispose => rfl
  | visible =>
    simp only [Scheduled.move, visible]
    split <;> rfl
  | turn tickFirst =>
    have htick : (s.tick now).1.poller.settings = s.poller.settings :=
      settings_step s.poller now .tick
    have hresume (c : Cause) : (s.resume now c).1.poller.settings = s.poller.settings :=
      settings_step s.poller now .visible
    simp only [Scheduled.move, turn]
    split
    · exact htick
    · split
      · exact htick
      · exact hresume _
    · exact hresume _
  | reply id reply tickFirst =>
    simp only [Scheduled.move, take]
    split
    · rfl
    · split
      · split
        · exact (settings_step _ now .tick).trans (GoesOn.answered ..).settings
        · exact (GoesOn.answered ..).settings
      · rfl

theorem settings_after (ms : List (Nat × Move)) :
    (Machine.after Scheduled.move s ms).poller.settings = s.poller.settings := by
  have keep : ∀ now q m, q.poller.settings = s.poller.settings →
      (Scheduled.move now q m).1.poller.settings = s.poller.settings :=
    fun now q m h ↦ (settings_move now m).trans h
  exact Machine.after_of_every_step keep rfl ms

end Moves

/-! ## The loop that has its turn at once -/

section AtOnce

def moves : Event → List Move
  | .start job => [.start job, .turn false]
  | .visible => [.visible, .turn false]
  | .dispose => [.dispose]
  | .tick => [.turn false]
  | .reply id reply => [.reply id reply false]

def history (es : List (Nat × Event)) : List (Nat × Move) :=
  es.flatMap fun x ↦ (moves x.2).map (x.1, ·)

/-- What a poller does, without the turns of its loop and the causes. -/
def forget (x : Scheduled × List Notice) : Poller × List Output :=
  (x.1.poller, x.2.map Notice.output)

variable {s : Scheduled} (now : Nat)

/-- Without the causes, a turn that takes a tick is the tick of the poller. -/
theorem forget_tick : forget (s.tick now) = s.poller.tick now := by
  simp [forget, tick]

/-- Without the causes, a turn that takes an answer is the answer to the poller. -/
theorem forget_take (id : Nat) (reply : Reply) :
    forget (s.take now id reply false) = Poller.step now s.poller (.reply id reply) := by
  simp only [take, Poller.step]
  cases s.poller.run with
  | none => rfl
  | some r => by_cases hid : r.stage = .fetching id <;> simp [hid, forget]

theorem woken_take (id : Nat) (reply : Reply) (tickFirst : Bool) (hwoken : s.woken = none) :
    (s.take now id reply tickFirst).1.woken = none := by
  unfold take
  split
  · exact hwoken
  · split
    · split <;> rfl
    · exact hwoken

/-- The first turn of a loop does what a start does. -/
theorem forget_start (job : String) :
    let (q, told) := s.start now job
    let (q, asked) := q.turn now false
    q.woken = none ∧ forget (q, told ++ asked) = s.poller.start now job := by
  by_cases hzero : s.poller.settings.interval = 0
  · simp [start, turn, tick, Poller.tick, forget, Poller.start, hzero, Notice.output, Poller.fresh]
  · simp only [start, turn, resume, Poller.visible, Poller.start, hzero, if_false, Option.map_some,
      forget, List.map_append, map_output_because]
    exact ⟨trivial, rfl⟩

/-- The next turn of a loop takes up a sign. -/
theorem forget_visible (hwoken : s.woken = none) :
    (s.visible.turn now false).1.woken = none ∧
      forget (s.visible.turn now false) = s.poller.visible now := by
  cases hidle : s.isIdle with
  | true => simp [visible_of_idle hidle, turn, resume, forget]
  | false =>
    -- the sign is kept, and the turn finds nothing to do
    have hvisible := visible_of_not_idle hidle
    have hwoken' : s.visible.woken = none := by
      rw [hvisible]
      exact hwoken
    have hbusy : ∀ r, s.visible.poller.run = some r → ¬ (r.stage = .waiting ∧ r.due ≤ now) := by
      rw [hvisible]
      rintro r hrun ⟨hs, -⟩
      obtain ⟨r', hrun', rfl⟩ := Option.map_eq_some_iff.1 hrun
      have hold : s.poller.run = some r' := hrun'
      have hwaits : r'.stage = .waiting := hs
      simp [isIdle, hwoken, hold, hwaits] at hidle
    rw [turn_of_not_due false hwoken' hbusy, hvisible]
    refine ⟨hwoken, ?_⟩
    unfold Poller.visible
    cases hrun : s.poller.run with
    | none =>
      have hsame : { s.poller with run := none } = s.poller := by rw [← hrun]
      simp [forget, keep, hrun, hsame]
    | some r =>
      cases hs : r.stage with
      | waiting => simp [isIdle, hwoken, hrun, hs] at hidle
      | fetching | finished => simp [forget, keep, hrun, hs]

/-- Moves at one time end with nothing to do for the loop, and do what a poller does. -/
def Does (s : Scheduled) (ms : List Move) (y : Poller × List Output) : Prop :=
  let q := Machine.after Scheduled.move s (ms.map (now, ·))
  q.woken = none ∧ q.poller = y.1 ∧
    (Machine.outputs Scheduled.move s (ms.map (now, ·))).map (fun x ↦ (x.1, x.2.output)) =
      y.2.map (now, ·)

theorem does_move {m : Move} {y : Poller × List Output}
    (hwoken : (Scheduled.move now s m).1.woken = none) (h : forget (Scheduled.move now s m) = y) :
    Does now s [m] y := by
  subst h
  exact ⟨hwoken, rfl, by simp [forget, Function.comp_def]⟩

theorem does_moves {m m' : Move} {y : Poller × List Output}
    (hwoken : (Scheduled.move now (Scheduled.move now s m).1 m').1.woken = none)
    (h : forget ((Scheduled.move now (Scheduled.move now s m).1 m').1,
      (Scheduled.move now s m).2 ++ (Scheduled.move now (Scheduled.move now s m).1 m').2) = y) :
    Does now s [m, m'] y := by
  subst h
  exact ⟨hwoken, rfl, by simp [forget, Function.comp_def]⟩

/-- The moves of an event do what the event does. -/
theorem does_event (hwoken : s.woken = none) (e : Event) :
    Does now s (moves e) (Poller.step now s.poller e) := by
  cases e with
  | dispose => exact ⟨rfl, rfl, rfl⟩
  | tick =>
    have hturn : s.turn now false = s.tick now := by simp only [turn, hwoken]
    refine does_move now ?_ ?_ <;> simp only [Scheduled.move, hturn]
    · rfl
    · exact forget_tick now
  | reply id reply =>
    exact does_move now (woken_take now id reply false hwoken) (forget_take now id reply)
  | start job =>
    obtain ⟨hnone, heq⟩ := forget_start (s := s) now job
    exact does_moves now hnone heq
  | visible =>
    obtain ⟨hnone, heq⟩ := forget_visible now hwoken
    exact does_moves now hnone heq

/-- The events of a poller are a history in which the loop has its turns at once. -/
theorem after_history {s : Scheduled} (hwoken : s.woken = none) (es : List (Nat × Event)) :
    (Machine.after Scheduled.move s (history es)).poller = Machine.after Poller.step s.poller es ∧
      (Machine.outputs Scheduled.move s (history es)).map (fun x ↦ (x.1, x.2.output)) =
        Machine.outputs Poller.step s.poller es := by
  induction es generalizing s with
  | nil => exact ⟨rfl, rfl⟩
  | cons x es ih =>
    obtain ⟨now, e⟩ := x
    obtain ⟨hw, hpoller, hout⟩ := does_event now hwoken e
    obtain ⟨hpollers, houts⟩ := ih hw
    rw [hpoller] at hpollers houts
    have hcons : history ((now, e) :: es) = (moves e).map (now, ·) ++ history es := rfl
    rw [hcons, Machine.after_append, Machine.outputs_append, List.map_append, hout]
    exact ⟨hpollers, congrArg _ houts⟩

end AtOnce

end Scheduled

end Poller

end JobWatch

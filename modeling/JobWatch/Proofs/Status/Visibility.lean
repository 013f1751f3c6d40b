import JobWatch.Proofs.Status.Turns
import Mathlib.Data.List.Perm.Subperm

/-!
# Signs of visibility

What becomes of the signs that a host gives when it is shown, whenever the loop that polls has its
turns. No sign is lost: after a sign, the next turn of the loop asks for the status or, where an
answer is awaited, the turn that takes the answer does, unless the status is final. Nor do signs
pile up: one that finds the loop at work or woken is kept, and one only. So the signs between two
requests cause at most two more, and at most one where none of them comes between the sign that
wakes the loop and its turn.

What carries the second half is `pending`, the signs that are still to cause a request: a move gives
out and leaves no others than were pending, but for the sign that it is itself.
-/

namespace JobWatch

open scoped List

namespace Poller

def Cause.sign? : Cause → Option Nat
  | .sign n => some n
  | _ => none

namespace Scheduled

/-! ## What is read off a history -/

def Move.endsRun : Move → Bool
  | .start _ | .dispose => true
  | _ => false

/-- Whether a move is a turn of the loop that takes no answer. -/
def Move.isTurn : Move → Bool
  | .turn _ => true
  | _ => false

def Move.isSign : Move → Bool
  | .visible => true
  | _ => false

def Move.answers (id : Nat) : Move → Bool
  | .reply id' _ _ => id' == id
  | _ => false

/-- The sign that caused a request. -/
def Notice.sign? : Notice → Option Nat
  | .ask c _ _ => c.sign?
  | .publish _ => none

/-- Whether a request for a job comes out. -/
def AsksFor (job : String) (out : List Notice) : Prop := ∃ c id, .ask c id job ∈ out

def causes (out : List Notice) : List Nat := out.filterMap Notice.sign?

def causesOf (s : Scheduled) (ms : List (Nat × Move)) : List Nat :=
  causes ((Machine.outputs move s ms).map (·.2))

/-- The sign that the loop was woken by, if it was. -/
def wakers (s : Scheduled) : List Nat := (s.woken.bind Cause.sign?).toList

/-- The signs that are still to cause a request. -/
def pending (s : Scheduled) : List Nat :=
  s.wakers ++ if s.poller.run.any (·.permit) then [s.kept] else []

@[simp] theorem causes_nil : causes [] = [] := rfl

@[simp] theorem causes_publish (t : Tracker) (out : List Notice) :
    causes (.publish t :: out) = causes out := rfl

/-! ## Signs are not piled up -/

section Pending

variable {s : Scheduled} {r : Run} (now : Nat)

/-- The signs that are still to cause a request are the one that woke the loop and the one that is
kept. -/
theorem pending_of_run (hrun : s.poller.run = some r) :
    pending s = s.wakers ++ if r.permit then [s.kept] else [] := by
  simp [pending, hrun]

theorem pending_keep (n : Nat) :
    pending (s.keep n) = s.wakers ++ if s.poller.run.isSome then [n] else [] := by
  cases hrun : s.poller.run <;> simp [pending, wakers, keep, hrun]

theorem pending_ask (r : Run) (c : Cause) :
    pending (s.ask r c).1 = if r.permit then [s.kept] else [] := rfl

theorem pending_ask_keep (r : Run) (c : Cause) (n : Nat) :
    pending ((s.ask r c).1.keep n) = [n] := rfl

theorem causes_ask (r : Run) (c : Cause) : causes (s.ask r c).2 = c.sign?.toList := by
  cases c <;> rfl

/-- A run that starts knows of no sign. -/
theorem pending_start (job : String) : pending (s.start now job).1 = [] := by
  by_cases hzero : s.poller.settings.interval = 0 <;>
    simp [pending, wakers, start, hzero, Cause.sign?]

/-- The signs that a move gives out or leaves pending were pending before, but for the sign that it
is itself. -/
theorem Attentive.accounts (h : Attentive s) (m : Move) :
    causes (Scheduled.move now s m).2 ++ pending (Scheduled.move now s m).1 <+~
      pending s ++ if m.isSign then [s.signs] else [] := by
  cases m with
  | start job =>
    have hleft : causes (s.start now job).2 ++ pending (s.start now job).1 = [] :=
      pending_start now job
    exact hleft ▸ List.nil_subperm
  | dispose => exact List.nil_subperm
  | visible =>
    simp only [Scheduled.move, Move.isSign, if_true, causes_nil, List.nil_append]
    cases hidle : s.isIdle with
    | true =>
      rw [visible_of_idle hidle]
      simp only [pending, wakers, woken_of_idle hidle]
      exact List.perm_append_comm.subperm
    | false =>
      rw [visible_of_not_idle hidle, pending_keep]
      have hkept : (if s.poller.run.isSome then [s.signs] else []).Sublist [s.signs] := by
        split <;> simp
      exact ((List.sublist_append_left ..).append hkept).subperm
  | turn tickFirst =>
    simp only [Scheduled.move, Move.isSign, Bool.false_eq_true, if_false, List.append_nil]
    rcases turn_cases now tickFirst h with ⟨heq, -⟩ | ⟨r, due, h, hs, heq | ⟨n, hwoken, heq⟩⟩ <;>
      rw [heq]
    · exact List.Subperm.refl _
    · have hcause : (s.woken.getD .interval).sign?.toList = s.wakers := by
        unfold wakers
        cases s.woken <;> rfl
      rw [causes_ask, hcause, pending_ask, pending_of_run h.run]
    · have hwakers : s.wakers = [n] := by simp [wakers, hwoken, Cause.sign?]
      rw [causes_ask, pending_ask_keep, pending_of_run h.run, hwakers]
      exact (List.sublist_append_left ..).subperm
  | reply id reply tickFirst =>
    simp only [Scheduled.move, Move.isSign, Bool.false_eq_true, if_false, List.append_nil]
    rcases take_cases now id reply tickFirst h with heq | ⟨r, h, hid⟩
    · rw [heq]
      exact List.Subperm.refl _
    · rw [pending_of_run h.run]
      rcases take_of_fetching now id reply tickFirst h hid with
        ⟨hfinal, heq⟩ | ⟨hopen, ⟨hpermit, heq⟩ | ⟨hpermit, due, heq | heq⟩⟩ <;>
        simp only [heq, causes_publish, causes_nil, List.nil_append]
      · exact (List.sublist_append_right ..).subperm
      · exact (List.sublist_append_right ..).subperm
      · rw [causes_ask, pending_ask, if_pos hpermit]
        exact (List.sublist_append_right ..).subperm
      · rw [causes_ask, pending_ask_keep, if_pos hpermit]
        exact (List.sublist_append_right ..).subperm

/-- Signs are numbered in order. -/
theorem signs_move (m : Move) :
    (Scheduled.move now s m).1.signs = s.signs + if m.isSign then 1 else 0 := by
  cases m with
  | start | dispose => rfl
  | visible =>
    simp only [Scheduled.move, visible]
    split <;> rfl
  | turn tickFirst =>
    simp only [Scheduled.move, turn]
    split
    · rfl
    · split <;> rfl
    · rfl
  | reply id reply tickFirst =>
    simp only [Scheduled.move, take]
    split
    · rfl
    · split
      · split <;> rfl
      · rfl

theorem causesOf_cons (m : Move) (ms : List (Nat × Move)) :
    causesOf s ((now, m) :: ms) =
      causes (Scheduled.move now s m).2 ++ causesOf (Scheduled.move now s m).1 ms := by
  simp only [causesOf, Machine.map_outputs_cons, causes, List.filterMap_append]

/-- The signs that caused the requests of a history, its parts have caused one after the other. -/
theorem causesOf_append (ms later : List (Nat × Move)) :
    causesOf s (ms ++ later) =
      causesOf s ms ++ causesOf (Machine.after Scheduled.move s ms) later := by
  simp only [causesOf, Machine.outputs_append, List.map_append, causes, List.filterMap_append]

/-- Without requests, no sign causes one. -/
theorem causesOf_of_quiet {ms : List (Nat × Move)}
    (h : ∀ x ∈ Machine.outputs Scheduled.move s ms, ∀ c id job, x.2 ≠ .ask c id job) :
    causesOf s ms = [] := by
  refine List.filterMap_eq_nil_iff.2 fun o ho ↦ ?_
  obtain ⟨x, hx, rfl⟩ := List.mem_map.1 ho
  cases heq : x.2 with
  | ask c id job => exact absurd heq (h x hx c id job)
  | publish t => rfl

/-- The requests of a history that signs of before it caused are not more than the signs that were
pending. -/
theorem Attentive.countP_causesOf_le (h : Attentive s) {P : Nat → Bool}
    (hP : ∀ n, s.signs ≤ n → P n = false) (ms : List (Nat × Move)) :
    (causesOf s ms).countP P ≤ (pending s).countP P := by
  induction ms generalizing s with
  | nil => exact Nat.zero_le _
  | cons x ms ih =>
    obtain ⟨now, m⟩ := x
    have hnew : (if m.isSign then [s.signs] else []).countP P = 0 := by
      split <;> simp [hP]
    have hstep := (h.accounts now m).countP_le P
    have hrest := ih (h.move now m) fun n hn ↦ hP n (by rw [signs_move] at hn; omega)
    rw [List.countP_append, List.countP_append, hnew] at hstep
    rw [causesOf_cons, List.countP_append]
    omega

/-- At most two signs are still to cause a request. -/
theorem length_pending_le (s : Scheduled) : (pending s).length ≤ 2 := by
  unfold pending wakers
  cases s.woken.bind Cause.sign? <;> split <;> simp

/-- A sign that does not find the loop woken by another is the only one pending. -/
theorem Attentive.length_pending_visible (h : Attentive s) (hwakers : s.wakers = []) :
    (pending s.visible).length ≤ 1 := by
  cases hidle : s.isIdle with
  | false =>
    rw [visible_of_not_idle hidle, pending_keep]
    have hwakers' : wakers { s with signs := s.signs + 1 } = [] := hwakers
    rw [hwakers']
    split <;> simp
  | true =>
    cases h with
    | absent hrun => simp [isIdle_of_absent hrun] at hidle
    | tends r h =>
      have hwaits : r.stage = .waiting := (h.wake hidle).waits (by simp [visible_of_idle hidle])
      have hpermit : r.permit = false := h.rests hwaits (woken_of_idle hidle)
      rw [visible_of_idle hidle]
      simp [pending, wakers, h.run, hpermit, Cause.sign?]

/-- What is pending is a sign of before. -/
theorem lt_signs_of_mem_pending (settings : PollSettings) (ms : List (Nat × Move)) :
    let s := Machine.after Scheduled.move (fresh settings) ms
    ∀ n ∈ pending s, n < s.signs := by
  have keep : ∀ now s m, (Attentive s ∧ ∀ n ∈ pending s, n < s.signs) →
      Attentive (Scheduled.move now s m).1 ∧
        ∀ n ∈ pending (Scheduled.move now s m).1, n < (Scheduled.move now s m).1.signs := by
    rintro now s m ⟨h, hlt⟩
    refine ⟨h.move now m, fun n hn ↦ ?_⟩
    have hmem := (h.accounts now m).subset (List.mem_append_right _ hn)
    rw [signs_move]
    rcases List.mem_append.1 hmem with hold | hnew
    · exact Nat.lt_of_lt_of_le (hlt n hold) (Nat.le_add_right ..)
    · cases hm : m.isSign with
      | true => simp_all
      | false => simp [hm] at hnew
  have hfresh : ∀ n ∈ pending (fresh settings), n < (fresh settings).signs := nofun
  exact (Machine.after_of_every_step keep ⟨attentive_fresh settings, hfresh⟩ ms).2

/-- As long as no sign follows one that woke the loop, at most one of the signs with a property is
pending. -/
theorem Attentive.countP_pending_le_one (h : Attentive s) {P : Nat → Bool}
    (hle : (pending s).countP P ≤ 1) {ms : List (Nat × Move)}
    (hms : Machine.Along Scheduled.move (fun _ s m ↦ m.isSign → s.wakers = []) s ms) :
    (pending (Machine.after Scheduled.move s ms)).countP P ≤ 1 := by
  induction ms generalizing s with
  | nil => exact hle
  | cons x ms ih =>
    obtain ⟨now, m⟩ := x
    obtain ⟨hm, hms⟩ := hms
    refine ih (h.move now m) ?_ hms
    by_cases hsign : m.isSign
    · obtain rfl : m = .visible := by cases m <;> simp_all [Move.isSign]
      exact Nat.le_trans List.countP_le_length (h.length_pending_visible (hm rfl))
    · have hstep := (h.accounts now m).countP_le P
      rw [List.countP_append, if_neg hsign, List.append_nil] at hstep
      omega

end Pending

/-! ## Signs are not lost -/

section Answered

variable {s : Scheduled} {r : Run} (now : Nat)

/-- The loop of a job was woken and has not had its turn yet. -/
def Woken (job : String) (s : Scheduled) : Prop := s.woken.isSome ∧ ∃ r, Tends s r ∧ r.job = job

/-- A sign is kept for the time after the answer to a request for a job. -/
def Owing (job : String) (id : Nat) (s : Scheduled) : Prop :=
  ∃ r, Tends s r ∧ r.job = job ∧ r.stage = .fetching id ∧ r.permit

/-- Before its turn, a loop that was woken stays so. -/
theorem Woken.move {job : String} (h : Woken job s) {m : Move}
    (hm : m.endsRun = false ∧ m.isTurn = false) : Woken job (Scheduled.move now s m).1 := by
  obtain ⟨hwoken, r, h, hjob⟩ := h
  cases m with
  | start | dispose => exact absurd hm.1 nofun
  | turn => exact absurd hm.2 nofun
  | visible =>
    have hidle : s.isIdle = false := by
      cases hw : s.woken <;> simp_all [isIdle]
    simp only [Scheduled.move, visible_of_not_idle hidle]
    exact ⟨hwoken, _, (h.count _).keep _ hidle, hjob⟩
  | reply id reply tickFirst =>
    simp only [Scheduled.move]
    rcases take_cases now id reply tickFirst (.tends r h) with heq | ⟨r', h', hid⟩
    · exact heq ▸ ⟨hwoken, r, h, hjob⟩
    · exact absurd (h'.waits hwoken) (by simp [hid])

/-- Before the answer, the sign stays kept. -/
theorem Owing.move {job : String} {id : Nat} (h : Owing job id s) {m : Move}
    (hm : m.endsRun = false ∧ m.answers id = false) :
    Owing job id (Scheduled.move now s m).1 := by
  obtain ⟨r, h, hjob, hid, hpermit⟩ := h
  cases m with
  | start | dispose => exact absurd hm.1 nofun
  | turn tickFirst =>
    simp only [Scheduled.move]
    rcases turn_cases now tickFirst (.tends r h) with ⟨heq, -⟩ | ⟨r', due, h', hs, -⟩
    · exact heq ▸ ⟨r, h, hjob, hid, hpermit⟩
    · obtain rfl := h.unique h'
      exact absurd hs (by simp [hid])
  | visible =>
    have hidle : s.isIdle = false := by simp [isIdle, h.run, hid]
    simp only [Scheduled.move, visible_of_not_idle hidle]
    exact ⟨_, (h.count _).keep _ hidle, hjob, hid, rfl⟩
  | reply id' reply tickFirst =>
    simp only [Scheduled.move]
    rcases take_cases now id' reply tickFirst (.tends r h) with heq | ⟨r', h', hid'⟩
    · exact heq ▸ ⟨r, h, hjob, hid, hpermit⟩
    · obtain rfl := h.unique h'
      simp_all [Move.answers]

/-- The next turn of a loop that was woken asks. -/
theorem Woken.turn {job : String} (h : Woken job s) (tickFirst : Bool) :
    AsksFor job (Scheduled.move now s (.turn tickFirst)).2 := by
  obtain ⟨hwoken, r, h, rfl⟩ := h
  simp only [Scheduled.move]
  rcases turn_cases now tickFirst (.tends r h) with
    ⟨-, hnone⟩ | ⟨r', due, h', -, heq | ⟨n, -, heq⟩⟩
  · simp [hnone] at hwoken
  · obtain rfl := h.unique h'
    exact heq ▸ ⟨_, _, List.mem_cons_self⟩
  · obtain rfl := h.unique h'
    exact heq ▸ ⟨_, _, List.mem_cons_self⟩

/-- A kept sign leads to a request with the answer, unless the status is final. -/
theorem Owing.reply {job : String} {id : Nat} (h : Owing job id s) (reply : Reply)
    (tickFirst : Bool) :
    let x := Scheduled.move now s (.reply id reply tickFirst)
    x.1.status.isTerminal ∨ AsksFor job x.2 := by
  obtain ⟨r, h, rfl, hid, hpermit⟩ := h
  simp only [Scheduled.move]
  rcases take_of_fetching now id reply tickFirst h hid with
    ⟨hfinal, heq⟩ | ⟨-, ⟨hnot, -⟩ | ⟨-, due, heq | heq⟩⟩
  · exact .inl (heq ▸ hfinal)
  · simp [hpermit] at hnot
  · exact .inr (heq ▸ ⟨_, _, List.mem_cons_of_mem _ List.mem_cons_self⟩)
  · exact .inr (heq ▸ ⟨_, _, List.mem_cons_of_mem _ List.mem_cons_self⟩)

/-- A run whose status is not final waits or has asked. -/
theorem Attentive.stage_cases {job : String} (h : Attentive s)
    (hpos : 0 < s.poller.settings.interval) (hjob : s.status.jobId = some job)
    (hopen : s.status.isTerminal = false) :
    ∃ r, Tends s r ∧ r.job = job ∧ (r.stage = .waiting ∧ s.poller.awaited = [] ∨
      ∃ id, r.stage = .fetching id ∧ s.poller.awaited = [id]) := by
  cases h with
  | absent hrun hwoken hnone => simp [hnone hpos] at hjob
  | tends r h =>
    refine ⟨r, h, Option.some.inj (h.job.symm.trans hjob), ?_⟩
    cases hs : r.stage with
    | waiting => exact .inl ⟨rfl, by simp [awaited, h.run, hs, Stage.awaited]⟩
    | fetching id => exact .inr ⟨id, rfl, by simp [awaited, h.run, hs, Stage.awaited]⟩
    | finished => simp [h.finished.1 hs] at hopen

/-- A sign wakes a loop that waits, or finds it woken. -/
theorem Tends.woken_visible (h : Tends s r) (hs : r.stage = .waiting) :
    Woken r.job s.visible := by
  cases hidle : s.isIdle with
  | true => exact ⟨by simp [visible_of_idle hidle], r, h.wake hidle, rfl⟩
  | false =>
    rw [visible_of_not_idle hidle]
    refine ⟨?_, _, (h.count _).keep _ hidle, rfl⟩
    have hwoken : s.woken.isSome := by
      cases hw : s.woken <;> simp_all [isIdle, h.run]
    exact hwoken

/-- A sign is kept by a loop that waits for an answer. -/
theorem Tends.owing_visible {id : Nat} (h : Tends s r) (hid : r.stage = .fetching id) :
    Owing r.job id s.visible := by
  have hidle : s.isIdle = false := by simp [isIdle, h.run, hid]
  rw [visible_of_not_idle hidle]
  exact ⟨_, (h.count _).keep _ hidle, rfl, hid, rfl⟩

end Answered

/-! ## Every history -/

/-- What becomes of the signs of visibility, after every history.

Where the interval allows for a loop and the status is not final, a sign is followed by a request
for the job: if no answer is awaited, the next turn of the loop asks, and if one is awaited, the
turn that takes it does, unless the status is final then. What comes in between, but for the end of
the run, makes no difference.

The signs of a stretch in which nothing is asked cause at most two requests in all, and at most one
if none of them comes between the sign that wakes the loop and its turn. What a start is followed by
is caused by no sign of before.

The events of `Poller.step` are a history in which the loop has its turns at once. -/
theorem signs_taken_up (settings : PollSettings) (ms : List (Nat × Move)) :
    let s := Machine.after move (fresh settings) ms
    (∀ job, 0 < settings.interval → s.status.jobId = some job → s.status.isTerminal = false →
      (s.poller.awaited = [] → ∀ time later,
        (∀ x ∈ later, x.2.endsRun = false ∧ x.2.isTurn = false) →
        let q := Machine.after move s ((time, .visible) :: later)
        ∀ now tickFirst, AsksFor job (move now q (.turn tickFirst)).2) ∧
      ∀ id ∈ s.poller.awaited, ∀ time later,
        (∀ x ∈ later, x.2.endsRun = false ∧ x.2.answers id = false) →
        let q := Machine.after move s ((time, .visible) :: later)
        ∀ now reply tickFirst,
          let x := move now q (.reply id reply tickFirst)
          x.1.status.isTerminal ∨ AsksFor job x.2) ∧
    (∀ stretch later,
      (∀ x ∈ Machine.outputs move s stretch, ∀ c id job, x.2 ≠ .ask c id job) →
      let q := Machine.after move s stretch
      let caused := (causesOf s (stretch ++ later)).countP fun n ↦ s.signs ≤ n ∧ n < q.signs
      caused ≤ 2 ∧
        (Machine.Along move (fun _ s m ↦ m.isSign → s.wakers = []) s stretch → caused ≤ 1)) ∧
    (∀ now job later, ∀ n ∈ causesOf (move now s (.start job)).1 later, s.signs ≤ n) ∧
    ∀ es,
      (Machine.after move (fresh settings) (history es)).poller =
        Machine.after Poller.step (.new settings) es ∧
      (Machine.outputs move (fresh settings) (history es)).map (fun x ↦ (x.1, x.2.output)) =
        Machine.outputs Poller.step (.new settings) es := by
  intro s
  have hs : Attentive s := (attentive_fresh settings).after ms
  refine ⟨fun job hpos hjob hopen ↦ ?_, fun stretch later hquiet ↦ ?_,
    fun now job later n hn ↦ ?_, fun es ↦ after_history rfl es⟩
  · have hpos' : 0 < s.poller.settings.interval := by
      rwa [settings_after]
    obtain ⟨r, h, rfl, ⟨hwaits, hnone⟩ | ⟨id, hid, hone⟩⟩ := hs.stage_cases hpos' hjob hopen
    · refine ⟨?_, by simp [hnone]⟩
      intro _ time later hlater q now tickFirst
      have hwoken : Woken r.job q := Machine.after_of_step
        (fun now _ _ hm h ↦ h.move now hm) (h.woken_visible hwaits) hlater
      exact hwoken.turn now tickFirst
    · refine ⟨by simp [hone], ?_⟩
      intro id' hid' time later hlater q now reply tickFirst
      obtain rfl : id' = id := by simpa [hone] using hid'
      have howing : Owing r.job id' q := Machine.after_of_step
        (fun now _ _ hm h ↦ h.move now hm) (h.owing_visible hid) hlater
      exact howing.reply now reply tickFirst
  · intro q caused
    have hq : Attentive q := hs.after stretch
    have hcaused : caused ≤ (pending q).countP fun n ↦ s.signs ≤ n ∧ n < q.signs := by
      simp only [caused, causesOf_append, causesOf_of_quiet hquiet, List.nil_append]
      exact hq.countP_causesOf_le (by grind) later
    refine ⟨?_, fun hms ↦ ?_⟩
    · exact Nat.le_trans hcaused (Nat.le_trans List.countP_le_length (length_pending_le q))
    · -- what is pending when the stretch begins is of before
      have hold : (pending s).countP (fun n ↦ s.signs ≤ n ∧ n < q.signs) = 0 := by
        refine List.countP_eq_zero.2 fun n hn ↦ ?_
        have hlt : n < s.signs := lt_signs_of_mem_pending settings ms n hn
        simp [Nat.not_le_of_lt hlt]
      exact Nat.le_trans hcaused (hs.countP_pending_le_one (by omega) hms)
  · have hnew := (hs.move now (.start job)).countP_causesOf_le (P := fun n ↦ n < s.signs)
      (by simp [signs_move, Move.isSign]) later
    have hnone : pending (move now s (.start job)).1 = [] := pending_start now job
    rw [hnone, List.countP_nil, Nat.le_zero, List.countP_eq_zero] at hnew
    simpa using hnew n hn

/-- Two signs that come before the first answer make one request more, and so does one that comes
after it. -/
theorem shown_before_and_after_answer :
    let code : Reply := .ok "[\"code\"]".toUTF8.toList
    let asked := [(0, Move.start "j1"), (0, .turn false)]
    let s := Machine.after move (fresh .standard) asked
    let t := Machine.after move (fresh .standard) (asked ++ [(3, .reply 0 code false)])
    let signs := [(1, Move.visible), (2, .visible)]
    s.status.jobId = some "j1" ∧ s.status.isTerminal = false ∧ s.poller.awaited = [0] ∧
    AsksFor "j1" (move 3 (Machine.after move s signs) (.reply 0 code false)).2 ∧
    (causesOf s (signs ++ [(3, .reply 0 code false)])).countP (fun n ↦ 0 ≤ n ∧ n < 2) ≤ 1 ∧
    t.status.isTerminal = false ∧ t.poller.awaited = [] ∧
    AsksFor "j1" (move 5 (Machine.after move t [(4, .visible)]) (.turn true)).2 := by
  intro code asked s t signs
  have hs : s.status.jobId = some "j1" ∧ s.status.isTerminal = false ∧ s.poller.awaited = [0] := by
    decide +kernel
  have ht : t.status.jobId = some "j1" ∧ t.status.isTerminal = false ∧ t.poller.awaited = [] := by
    decide +kernel
  obtain ⟨answered, once, -, -⟩ := signs_taken_up .standard asked
  obtain ⟨waiting, -, -, -⟩ := signs_taken_up .standard (asked ++ [(3, .reply 0 code false)])
  have hasked := (answered "j1" (by decide) hs.1 hs.2.1).2 0 (by rw [hs.2.2]; simp)
    1 [(2, .visible)] (by simp [Move.endsRun, Move.answers]) 3 code false
  have hopen : (move 3 (Machine.after move s signs) (.reply 0 code false)).1.status.isTerminal =
      false := by decide +kernel
  have hnone : Machine.outputs move s signs = [] := rfl
  have hquiet : ∀ x ∈ Machine.outputs move s signs, ∀ c id job, x.2 ≠ .ask c id job := by
    simp [hnone]
  refine ⟨hs.1, hs.2.1, hs.2.2, hasked.resolve_left (Bool.eq_false_iff.1 hopen), ?_, ht.2.1,
    ht.2.2, ?_⟩
  · exact (once signs [(3, .reply 0 code false)] hquiet).2 ⟨fun _ ↦ rfl, fun _ ↦ rfl, trivial⟩
  · exact (waiting "j1" (by decide) ht.1 ht.2.1).1 ht.2.2 4 [] (by simp) 5 true

/-- Without an interval there is no loop, and the signs are lost. With one, a sign that follows the
one that wakes the loop, before the loop has its turn, is kept, so that two requests follow one
another. -/
theorem signs_lost_and_doubled :
    let code : Reply := .ok "[\"code\"]".toUTF8.toList
    let asked := [(0, Move.start "j1"), (0, .turn false)]
    let s := Machine.after move (fresh ⟨0, 3⟩) asked
    let t := Machine.after move (fresh .standard) (asked ++ [(1, .reply 0 code false)])
    let signs := [(2, Move.visible), (2, .visible)]
    (s.status.jobId = some "j1" ∧ s.status.isTerminal = false ∧ s.poller.awaited = [] ∧
      (move 2 (Machine.after move s [(2, .visible)]) (.turn false)).2 = []) ∧
    (Machine.outputs move t signs).length = 0 ∧
    causesOf t (signs ++ [(3, .turn false), (4, .reply 1 code false)]) = [0, 1] := by
  intro code asked s t signs
  refine ⟨⟨rfl, rfl, rfl, rfl⟩, rfl, ?_⟩
  decide +kernel

end Scheduled

end Poller

end JobWatch

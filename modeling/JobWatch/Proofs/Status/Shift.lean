import JobWatch.Status.Poller
import JobWatch.Proofs.Offset

/-!
# A poller with shifted numbers

A poller that is shifted takes the shifted steps, and does not listen to answers to the requests of
before.
-/

namespace JobWatch

namespace Poller

variable (o : Offset)

def Stage.shift : Stage → Stage
  | .fetching id => .fetching (id + o.requests)
  | .waiting => .waiting
  | .finished => .finished

def Run.shift (r : Run) : Run := { r with writer := r.writer.shift o, stage := r.stage.shift o }

/-- A poller whose numbers are shifted. -/
def shift (p : Poller) : Poller where
  settings := p.settings
  cell := p.cell.shift o
  run := p.run.map (Run.shift o)
  requests := p.requests + o.requests

def Event.shift : Event → Event
  | .reply id answer => .reply (id + o.requests) answer
  | e => e

def Output.shift : Output → Output
  | .fetch id job => .fetch (id + o.requests) job
  | .publish t => .publish t

/-- The event without the shift, unless it answers a request of before. -/
def Event.unshift? : Event → Option Event
  | .reply id answer => (o.unshift? id).map (.reply · answer)
  | e => some e

theorem Event.eq_shift_of_unshift? {e e' : Event} (h : e.unshift? o = some e') :
    e = e'.shift o := by
  cases e with
  | reply id reply =>
    obtain ⟨id', hid, rfl⟩ := Option.map_eq_some_iff.1 h
    rw [o.eq_add_of_unshift? hid]
    rfl
  | start | visible | dispose | tick =>
    obtain rfl := Option.some.inj h
    rfl

/-- An event without a counterpart is an answer to a request of before. -/
theorem Event.reply_of_unshift? {e : Event} (h : e.unshift? o = none) :
    ∃ id reply, e = .reply id reply ∧ id < o.requests := by
  cases e with
  | reply id reply => exact ⟨id, reply, rfl, o.lt_of_unshift? (Option.map_eq_none_iff.1 h)⟩
  | start | visible | dispose | tick => simp [unshift?] at h

/-! ## Steps -/

def shiftResult (x : Poller × List Output) : Poller × List Output :=
  (x.1.shift o, x.2.map (Output.shift o))

variable (p : Poller) (r : Run) (now : Nat)

@[simp] theorem settings_shift : (p.shift o).settings = p.settings := rfl

@[simp] theorem cell_shift : (p.shift o).cell = p.cell.shift o := rfl

@[simp] theorem run_shift : (p.shift o).run = p.run.map (Run.shift o) := rfl

theorem issue_shift : (p.shift o).issue (r.shift o) = shiftResult o (p.issue r) := by
  simp [issue, shiftResult, shift, Run.shift, Stage.shift, Output.shift, Nat.add_right_comm]

theorem proceed_shift : (p.shift o).proceed (r.shift o) = shiftResult o (p.proceed r) := by
  unfold proceed
  rw [cell_shift, Cell.value_shift]
  split
  · exact issue_shift o p r
  · rfl

/-- Telling the host of a status before the rest does not change with the shift. -/
theorem publish_shiftResult {x y : Poller × List Output} (h : x = shiftResult o y) (t : Tracker) :
    (x.1, .publish t :: x.2) = shiftResult o (y.1, .publish t :: y.2) := by
  rw [h]
  rfl

theorem start_shift (job : String) :
    (p.shift o).start now job = shiftResult o (p.start now job) := by
  simp only [start, settings_shift, cell_shift, Cell.reset_shift]
  split
  · rfl
  · refine publish_shiftResult o ?_ _
    rw [← proceed_shift]
    rfl

theorem answered_shift (reply : Reply) :
    (p.shift o).answered now (r.shift o) reply = shiftResult o (p.answered now r reply) := by
  have hw : (r.shift o).writer = r.writer.shift o := rfl
  simp only [answered, cell_shift, hw, Cell.update_shift]
  cases p.cell.update r.writer fun t ↦ (t.apply (eventOf reply), ()) with
  | none => rfl
  | some x =>
    obtain ⟨cell, -⟩ := x
    refine publish_shiftResult o ?_ _
    rw [Cell.value_shift]
    split
    · rfl
    · split
      next h =>
        rw [if_pos (by exact h), ← proceed_shift]
        rfl
      next h =>
        rw [if_neg (by exact h)]
        rfl

theorem visible_shift : (p.shift o).visible now = shiftResult o (p.visible now) := by
  simp only [visible, run_shift]
  cases p.run with
  | none => rfl
  | some r =>
    cases hs : r.stage with
    | waiting =>
      simp only [Option.map_some, Run.shift, hs, Stage.shift]
      rw [← proceed_shift]
      simp only [Run.shift, Stage.shift, settings_shift]
    | fetching id | finished =>
      simp [Run.shift, hs, Stage.shift, shiftResult, shift]

theorem tick_shift : (p.shift o).tick now = shiftResult o (p.tick now) := by
  simp only [tick, run_shift]
  cases p.run with
  | none => rfl
  | some r =>
    have hwaiting : (r.shift o).stage = .waiting ↔ r.stage = .waiting := by
      cases hs : r.stage <;> simp [Run.shift, hs, Stage.shift]
    have hdue : (r.shift o).due = r.due := rfl
    simp only [Option.map_some, hwaiting, hdue]
    split
    · rw [← proceed_shift]
      rfl
    · rfl

/-- A shifted poller takes the shifted steps. -/
theorem step_shift (e : Event) :
    step now (p.shift o) (e.shift o) = shiftResult o (step now p e) := by
  cases e with
  | start job => exact start_shift o p now job
  | visible => exact visible_shift o p now
  | dispose => simp [Event.shift, step, dispose, shiftResult, shift, Output.shift]
  | tick => exact tick_shift o p now
  | reply id reply =>
    simp only [Event.shift, step, run_shift]
    cases p.run with
    | none => rfl
    | some r =>
      have hfetching :
          (r.shift o).stage = .fetching (id + o.requests) ↔ r.stage = .fetching id := by
        cases hs : r.stage <;> simp [Run.shift, hs, Stage.shift]
      simp only [Option.map_some, hfetching]
      split
      · exact answered_shift o p r now reply
      · rfl

/-- A shifted poller ignores the answers to the requests of before. -/
theorem step_shift_of_late {id : Nat} (h : id < o.requests) (reply : Reply) :
    step now (p.shift o) (.reply id reply) = (p.shift o, []) := by
  simp only [step, run_shift]
  cases p.run with
  | none => rfl
  | some r =>
    have hstage : (r.shift o).stage ≠ .fetching id := by
      cases hs : r.stage <;> simp [Run.shift, hs, Stage.shift]
      omega
    simp only [Option.map_some, hstage, if_false]

@[simp] theorem nextDue_shift : (p.shift o).nextDue = p.nextDue := by
  simp only [nextDue, run_shift]
  cases p.run with
  | none => rfl
  | some r => cases hs : r.stage <;> simp [Run.shift, hs, Stage.shift]

/-! ## Starting over -/

def offset : Offset := ⟨p.requests, p.cell.epoch, p.cell.version⟩

/-- Started over, a poller is a new one that is shifted. -/
theorem start_eq_shift (job : String) :
    p.start now job = shiftResult p.offset ((new p.settings).start now job) := by
  rw [← start_shift]
  simp only [start, new, shift, Cell.shift_new, Cell.reset, offset, Nat.zero_add]

end Poller

end JobWatch

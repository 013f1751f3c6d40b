import JobWatch.Preview.Driver
import JobWatch.Proofs.Offset

/-!
# A preview driver with shifted numbers

A driver that is shifted takes the shifted steps, and does not listen to answers to the requests of
before.
-/

namespace JobWatch

namespace PreviewDriver

variable (o : Offset)

def Run.shift (r : Run) : Run where
  job := r.job
  writer := r.writer.shift o
  inbox := r.inbox
  loadTimeout := r.loadTimeout
  countdown := r.countdown
  resumeRetry := r.resumeRetry
  inFlight := r.inFlight.map fun (id, query) ↦ (id + o.requests, query)

/-- A driver whose numbers are shifted. -/
def shift (d : PreviewDriver) : PreviewDriver where
  timing := d.timing
  cell := d.cell.shift o
  current := d.current
  run := d.run.map (Run.shift o)
  requests := d.requests + o.requests

def Event.shift : Event → Event
  | .reply id answer => .reply (id + o.requests) answer
  | e => e

def Output.shift : Output → Output
  | .request id query job => .request (id + o.requests) query job
  | .publish s => .publish s
  | .notice job remaining => .notice job remaining

/-- The event without the shift, unless it answers a request of before. -/
def Event.unshift? : Event → Option Event
  | .reply id answer => (o.unshift? id).map (.reply · answer)
  | e => some e

theorem Event.eq_shift_of_unshift? {e e' : Event} (h : e.unshift? o = some e') :
    e = e'.shift o := by
  cases e with
  | reply id answer =>
    obtain ⟨id', hid, rfl⟩ := Option.map_eq_some_iff.1 h
    rw [o.eq_add_of_unshift? hid]
    rfl
  | _ =>
    obtain rfl := Option.some.inj h
    rfl

/-- An event without a counterpart is an answer to a request of before. -/
theorem Event.reply_of_unshift? {e : Event} (h : e.unshift? o = none) :
    ∃ id answer, e = .reply id answer ∧ id < o.requests := by
  cases e with
  | reply id answer => exact ⟨id, answer, rfl, o.lt_of_unshift? (Option.map_eq_none_iff.1 h)⟩
  | _ => simp [unshift?] at h

/-! ## Steps -/

def shiftResult (x : PreviewDriver × List Output) : PreviewDriver × List Output :=
  (x.1.shift o, x.2.map (Output.shift o))

variable (d : PreviewDriver) (r : Run) (now : Nat)

@[simp] theorem timing_shift : (d.shift o).timing = d.timing := rfl

@[simp] theorem cell_shift : (d.shift o).cell = d.cell.shift o := rfl

@[simp] theorem current_shift : (d.shift o).current = d.current := rfl

@[simp] theorem run_shift : (d.shift o).run = d.run.map (Run.shift o) := rfl

theorem ask_shift (query : Query) :
    (d.shift o).ask (r.shift o) query = shiftResult o (d.ask r query) := by
  simp [ask, shiftResult, shift, Run.shift, Output.shift, Nat.add_right_comm]

theorem perform_shift (e : PreviewEffect) :
    (d.shift o).perform now (r.shift o) e = shiftResult o (d.perform now r e) := by
  cases e with
  | checkEligibility | requestResume => exact ask_shift o d r _
  | startCountdown =>
    by_cases ht : d.timing.countdownTick = 0
    · simp only [perform, timing_shift, ht, if_true]
      rfl
    · simp only [perform, timing_shift, ht, if_false]
      rfl
  | _ => rfl

theorem performAll_shift (es : List PreviewEffect) :
    (d.shift o).performAll now es = shiftResult o (d.performAll now es) := by
  induction es generalizing d with
  | nil => rfl
  | cons e es ih =>
    simp only [performAll, run_shift]
    cases d.run with
    | none => rfl
    | some r =>
      simp only [Option.map_some, perform_shift]
      simp only [shiftResult, ih, List.map_append]

/-- Telling the host of a preview before the rest does not change with the shift. -/
theorem publish_shiftResult {x y : PreviewDriver × List Output} (h : x = shiftResult o y)
    (s : PreviewState) : (x.1, .publish s :: x.2) = shiftResult o (y.1, .publish s :: y.2) := by
  rw [h]
  rfl

theorem start_shift (job : String) (params : PreviewParams) :
    (d.shift o).start now job params = shiftResult o (d.start now job params) := by
  simp only [start, timing_shift, cell_shift, Cell.reset_shift]
  refine publish_shiftResult o ?_ _
  rw [← performAll_shift]
  rfl

theorem setPaused_shift (paused : Bool) :
    (d.shift o).setPaused now paused = shiftResult o (d.setPaused now paused) := by
  simp only [setPaused, current_shift]
  split
  · rfl
  · split
    · rfl
    · exact start_shift ..

theorem send_shift (signal : Signal) : (d.shift o).send signal = shiftResult o (d.send signal) := by
  simp only [send, run_shift]
  cases d.run <;> rfl

theorem apply_shift (event : PreviewEvent) :
    (d.shift o).apply now (r.shift o) event = shiftResult o (d.apply now r event) := by
  have hw : (r.shift o).writer = r.writer.shift o := rfl
  simp only [apply, cell_shift, hw, Cell.update_shift]
  cases d.cell.update r.writer (·.apply event) with
  | none => rfl
  | some x =>
    obtain ⟨cell, effects⟩ := x
    refine publish_shiftResult o ?_ _
    rw [← performAll_shift]
    rfl

theorem Run.take_shift (timing : PreviewTiming) (e : Event) :
    (r.shift o).take timing now (e.shift o) =
      (r.take timing now e).map fun (r, event) ↦ (r.shift o, event) := by
  cases e with
  | receive => cases h : r.inbox <;> simp [Event.shift, take, Run.shift, h]
  | loadTimeout =>
    by_cases h : r.loadTimeout.any (· ≤ now) <;> simp [Event.shift, take, Run.shift, h]
  | countdown clock =>
    cases h : r.countdown with
    | none => simp [Event.shift, take, Run.shift, h]
    | some due => by_cases hdue : due ≤ now <;> simp [Event.shift, take, Run.shift, h, hdue]
  | resumeRetry =>
    by_cases h : r.resumeRetry.any (· ≤ now) <;> simp [Event.shift, take, Run.shift, h]
  | reply id answer =>
    cases h : r.inFlight with
    | none => simp [Event.shift, take, Run.shift, h]
    | some x =>
      obtain ⟨request, query⟩ := x
      by_cases hid : request = id <;> simp [Event.shift, take, Run.shift, h, hid]
  | _ => rfl

theorem proceed_shift (e : Event) :
    (d.shift o).proceed now (e.shift o) = shiftResult o (d.proceed now e) := by
  simp only [proceed, run_shift]
  cases d.run with
  | none => rfl
  | some r =>
    simp only [Option.map_some, timing_shift, Run.take_shift]
    cases r.take d.timing now e with
    | none => rfl
    | some taken => exact apply_shift ..

/-- A shifted driver takes the shifted steps. -/
theorem step_shift (e : Event) :
    step now (d.shift o) (e.shift o) = shiftResult o (step now d e) := by
  cases e with
  | start job params => exact start_shift ..
  | setPaused paused => exact setPaused_shift ..
  | dispose => simp [Event.shift, step, dispose, shiftResult, shift, Output.shift]
  | markLoaded | retry | resume | reportError => exact send_shift ..
  | receive | loadTimeout | countdown | resumeRetry | reply => exact proceed_shift ..

/-- A shifted driver ignores the answers to the requests of before. -/
theorem step_shift_of_late {id : Nat} (h : id < o.requests) (reply : Reply) :
    step now (d.shift o) (.reply id reply) = (d.shift o, []) := by
  simp only [step, proceed, run_shift]
  cases d.run with
  | none => rfl
  | some r =>
    have htake : (r.shift o).take (d.shift o).timing now (.reply id reply) = none := by
      cases hflight : r.inFlight with
      | none => simp [Run.take, Run.shift, hflight]
      | some x =>
        have hne : x.1 + o.requests ≠ id := by omega
        simp [Run.take, Run.shift, hflight, hne]
    simp only [Option.map_some, htake]

@[simp] theorem timers_shift (clock : Nat → Timestamp) :
    (d.shift o).timers clock = d.timers clock := by
  simp only [timers, run_shift]
  cases d.run <;> rfl

/-! ## Starting over -/

def offset : Offset := ⟨d.requests, d.cell.epoch, d.cell.version⟩

/-- Disposed of, a driver is a new one that is shifted. -/
theorem dispose_eq_shift : d.dispose = shiftResult d.offset (new d.timing).dispose := by
  simp [dispose, new, shiftResult, shift, Cell.shift, Cell.new, Cell.reset, offset, Output.shift,
    Nat.add_comm]

end PreviewDriver

end JobWatch

import JobWatch.Logs.Feed
import JobWatch.Proofs.Offset

/-!
# A feed with shifted numbers

A feed that is shifted takes the shifted steps. It may still have requests for earlier lines under
way that are older than the shift; their answers are dropped, and it does not listen to the streams
of before.
-/

namespace JobWatch

namespace Feed

variable (o : Offset)

def Stage.shift : Stage → Stage
  | .opening request => .opening (request + o.requests)
  | .reading request position => .reading (request + o.requests) position
  | .closed => .closed

def Run.shift (r : Run) : Run := ⟨r.job, r.writer.shift o, r.stage.shift o⟩

def PageCall.shift (c : PageCall) : PageCall := ⟨c.request + o.requests, c.job, c.writer.shift o⟩

/-- A feed whose numbers are shifted, with the requests under way that are older than the shift. -/
def shift (late : List PageCall) (f : Feed) : Feed where
  limit := f.limit
  cell := f.cell.shift o
  writer := f.writer.map (·.shift o)
  run := f.run.map (Run.shift o)
  calls := late ++ f.calls.map (PageCall.shift o)
  requests := f.requests + o.requests

/-- The event with the number of its request changed, if it belongs to one. -/
def Event.renumber (g : Nat → Nat) : Event → Event
  | .opened request outcome => .opened (g request) outcome
  | .chunk request bytes => .chunk (g request) bytes
  | .ended request => .ended (g request)
  | .page request reply => .page (g request) reply
  | e => e

def Event.shift (e : Event) : Event := e.renumber (· + o.requests)

def Output.shift : Output → Output
  | .openStream request job => .openStream (request + o.requests) job
  | .fetchPage request job cursor limit => .fetchPage (request + o.requests) job cursor limit
  | .publish b => .publish b
  | .loaded request added => .loaded (request + o.requests) added

def Event.request? : Event → Option Nat
  | .opened request _ | .chunk request _ | .ended request | .page request _ => some request
  | .start _ | .dispose | .loadEarlier => none

/-- The event without the shift, unless it belongs to a request of before. -/
def Event.unshift? (e : Event) : Option Event :=
  match e.request? with
  | some request => (o.unshift? request).map fun request ↦ e.renumber fun _ ↦ request
  | none => some e

theorem Event.eq_shift_of_unshift? {e e' : Event} (h : e.unshift? o = some e') :
    e = e'.shift o := by
  cases e with
  | opened | chunk | ended | page =>
    obtain ⟨request', hid, rfl⟩ := Option.map_eq_some_iff.1 h
    rw [o.eq_add_of_unshift? hid]
    rfl
  | start | dispose | loadEarlier =>
    obtain rfl := Option.some.inj h
    rfl

/-- An event that belongs to no request of the unshifted feed belongs to an earlier one. -/
theorem Event.late_of_unshift? {e : Event} (h : e.unshift? o = none) :
    ∃ request, e.request? = some request ∧ request < o.requests := by
  unfold unshift? at h
  split at h
  next request hr => exact ⟨request, hr, o.lt_of_unshift? (Option.map_eq_none_iff.1 h)⟩
  next => contradiction

/-! ## Steps -/

variable (late : List PageCall)

def shiftResult (x : Feed × List Output) : Feed × List Output :=
  (x.1.shift o late, x.2.map (Output.shift o))

variable (f : Feed) (r : Run)

@[simp] theorem limit_shift : (f.shift o late).limit = f.limit := rfl

@[simp] theorem cell_shift : (f.shift o late).cell = f.cell.shift o := rfl

@[simp] theorem run_shift : (f.shift o late).run = f.run.map (Run.shift o) := rfl

theorem start_shift (job : String) :
    (f.shift o late).start job = shiftResult o late (f.start job) := by
  simp only [start, cell_shift, Cell.reset_shift]
  simp [shiftResult, shift, Run.shift, Stage.shift, Output.shift, Nat.add_right_comm]

theorem dispose_shift : (f.shift o late).dispose = shiftResult o late f.dispose := by
  simp [dispose, shiftResult, shift, Output.shift]

theorem loadEarlier_shift : (f.shift o late).loadEarlier = shiftResult o late f.loadEarlier := by
  cases hw : f.writer <;> cases hj : f.cell.value.jobId <;>
    simp [loadEarlier, shiftResult, shift, hw, hj, Output.shift, PageCall.shift, Nat.add_right_comm]

theorem record_shift (event : LogEvent) :
    (f.shift o late).record (r.shift o) event = (f.record r event).map (shift o late) := by
  have hw : (r.shift o).writer = r.writer.shift o := rfl
  simp only [record, cell_shift, hw, Cell.update_shift]
  cases f.cell.update r.writer fun b ↦ (b.apply event, ()) <;> rfl

/-- Telling the host of a log before the rest does not change with the shift. -/
theorem publish_shiftResult {x y : Feed × List Output} (h : x = shiftResult o late y)
    (b : LogBuffer) : (x.1, .publish b :: x.2) = shiftResult o late (y.1, .publish b :: y.2) := by
  rw [h]
  rfl

theorem close_shift : (f.shift o late).close (r.shift o) = shiftResult o late (f.close r) := by
  have hstage : { f.shift o late with run := some { r.shift o with stage := .closed } } =
      shift o late { f with run := some { r with stage := .closed } } := rfl
  simp only [close, hstage, record_shift]
  cases record { f with run := some { r with stage := .closed } } r .disconnected <;> rfl

theorem opened_shift (request : Nat) (outcome : Except ApiError Unit) :
    (f.shift o late).opened (r.shift o) (request + o.requests) outcome =
      shiftResult o late (f.opened r request outcome) := by
  cases outcome with
  | error e => exact close_shift ..
  | ok u =>
    simp only [opened, record_shift]
    cases f.record r .connected <;> rfl

theorem readBytes_shift (request : Nat) (position : EventStream.State) (bytes : List UInt8) :
    (f.shift o late).readBytes (r.shift o) (request + o.requests) position bytes =
      shiftResult o late (f.readBytes r request position bytes) := by
  induction bytes generalizing f position with
  | nil => rfl
  | cons b bytes ih =>
    simp only [readBytes]
    cases (position.read b).2.bind fun e ↦ StreamEvent.parse? e.type e.data with
    | none => exact ih ..
    | some event =>
      simp only [record_shift]
      cases f.record r (.stream event) with
      | none => rfl
      | some g =>
        cases event with
        | done status => exact publish_shiftResult o late (close_shift ..) _
        | heartbeat | log line => exact publish_shiftResult o late (ih ..) _

section Pages

theorem beq_add_requests (a b : Nat) : (a + o.requests == b + o.requests) = (a == b) := by
  rw [Bool.eq_iff_iff]
  simp

variable {late} (h : ∀ c ∈ late, c.request < o.requests)

include h

/-- A request is found among those of a shifted feed if it was found before, since the late ones are
older. -/
theorem find?_shift (id : Nat) :
    (f.shift o late).calls.find? (·.request == id + o.requests) =
      (f.calls.find? (·.request == id)).map (PageCall.shift o) := by
  have hlate : late.find? (·.request == id + o.requests) = none := by
    refine List.find?_eq_none.2 fun c hc ↦ ?_
    have := h c hc
    simp only [beq_iff_eq]
    omega
  simp [shift, List.find?_append, hlate, List.find?_map, Function.comp_def, PageCall.shift,
    beq_add_requests]

theorem filter_shift (id : Nat) :
    (f.shift o late).calls.filter (·.request != id + o.requests) =
      late ++ (f.calls.filter (·.request != id)).map (PageCall.shift o) := by
  have hlate : late.filter (·.request != id + o.requests) = late := by
    refine List.filter_eq_self.2 fun c hc ↦ ?_
    have := h c hc
    simp only [bne_iff_ne]
    omega
  simp only [shift, List.filter_append, hlate]
  simp [List.filter_map, Function.comp_def, PageCall.shift, bne, beq_add_requests]

theorem received_shift (c : PageCall) (reply : Reply) :
    (f.shift o late).received (c.shift o) reply = shiftResult o late (f.received c reply) := by
  have hw : (c.shift o).writer = c.writer.shift o := rfl
  have hid : (c.shift o).request = c.request + o.requests := rfl
  simp only [received, cell_shift, hw, hid, filter_shift o f h, Cell.update_shift]
  cases (reply.read : Except ApiError LogsPage) with
  | error e => rfl
  | ok page =>
    simp only
    cases f.cell.update c.writer fun b ↦ (b.apply (.backfill page), b.added (.backfill page)) <;>
      rfl

end Pages

/-- A shifted feed takes the shifted steps. -/
theorem step_shift (h : ∀ c ∈ late, c.request < o.requests) (e : Event) :
    (f.shift o late).step (e.shift o) = shiftResult o late (f.step e) := by
  cases e with
  | start job => exact start_shift ..
  | dispose => exact dispose_shift ..
  | loadEarlier => exact loadEarlier_shift ..
  | opened id outcome =>
    simp only [Event.shift, Event.renumber, step, run_shift]
    cases f.run with
    | none => rfl
    | some r =>
      have hopening : (r.shift o).stage = .opening (id + o.requests) ↔ r.stage = .opening id := by
        cases hs : r.stage <;> simp [Run.shift, hs, Stage.shift]
      simp only [Option.map_some, hopening]
      split
      · exact opened_shift ..
      · rfl
  | chunk id bytes =>
    simp only [Event.shift, Event.renumber, step, run_shift]
    cases f.run with
    | none => rfl
    | some r =>
      obtain ⟨job, w, stage⟩ := r
      cases stage with
      | reading request position =>
        simp only [Option.map_some, Run.shift, Stage.shift, Nat.add_right_cancel_iff]
        split
        · exact readBytes_shift o late f ⟨job, w, .reading request position⟩ id position bytes
        · rfl
      | opening request | closed => rfl
  | ended id =>
    simp only [Event.shift, Event.renumber, step, run_shift]
    cases f.run with
    | none => rfl
    | some r =>
      obtain ⟨job, w, stage⟩ := r
      cases stage with
      | reading request position =>
        simp only [Option.map_some, Run.shift, Stage.shift, Nat.add_right_cancel_iff]
        split
        · exact close_shift o late f ⟨job, w, .reading request position⟩
        · rfl
      | opening request | closed => rfl
  | page id reply =>
    simp only [Event.shift, Event.renumber, step, find?_shift o f h]
    cases f.calls.find? (·.request == id) with
    | none => rfl
    | some c => exact received_shift o f h c reply

/-- A page asked for before the shift is dropped: the host is told that the request is done, and
nothing is published. -/
theorem received_shift_of_late {c : PageCall} (hid : c.request < o.requests)
    (hw : c.writer.epoch ≤ o.epoch) (hepoch : 0 < f.cell.epoch) (reply : Reply) :
    ∃ added, (f.shift o late).received c reply =
      (f.shift o (late.filter (·.request != c.request)), [.loaded c.request added]) := by
  have hcalls : (f.shift o late).calls.filter (·.request != c.request) =
      (f.shift o (late.filter (·.request != c.request))).calls := by
    have hnew : (f.calls.map (PageCall.shift o)).filter (·.request != c.request) =
        f.calls.map (PageCall.shift o) := by
      refine List.filter_eq_self.2 fun x hx ↦ ?_
      obtain ⟨y, -, rfl⟩ := List.mem_map.1 hx
      simp only [PageCall.shift, bne_iff_ne]
      omega
    simp only [shift, List.filter_append, hnew]
  have hstale : (f.cell.shift o).isCurrent c.writer = false :=
    Cell.isCurrent_shift_of_le f.cell c.writer o hw hepoch
  simp only [received, cell_shift, hcalls, Cell.update_of_stale _ hstale]
  cases (reply.read : Except ApiError LogsPage) with
  | error e => exact ⟨.error e, rfl⟩
  | ok page => exact ⟨.ok 0, rfl⟩

/-- A shifted feed does not listen to the streams of before. -/
theorem step_shift_of_late_stream {e : Event} {id : Nat} (he : e.request? = some id)
    (hid : id < o.requests) (hpage : ∀ reply, e ≠ .page id reply) :
    (f.shift o late).step e = (f.shift o late, []) := by
  have hne : ∀ request : Nat, request + o.requests ≠ id := fun request ↦ by omega
  cases e with
  | start | dispose | loadEarlier => simp [Event.request?] at he
  | page request reply =>
    obtain rfl := Option.some.inj he
    exact absurd rfl (hpage reply)
  | opened request outcome =>
    obtain rfl := Option.some.inj he
    simp only [step, run_shift]
    cases f.run with
    | none => rfl
    | some r =>
      obtain ⟨job, w, stage⟩ := r
      cases stage <;> simp [Run.shift, Stage.shift, hne]
  | chunk request bytes =>
    obtain rfl := Option.some.inj he
    simp only [step, run_shift]
    cases f.run with
    | none => rfl
    | some r =>
      obtain ⟨job, w, stage⟩ := r
      cases stage <;> simp [Run.shift, Stage.shift, hne]
  | ended request =>
    obtain rfl := Option.some.inj he
    simp only [step, run_shift]
    cases f.run with
    | none => rfl
    | some r =>
      obtain ⟨job, w, stage⟩ := r
      cases stage <;> simp [Run.shift, Stage.shift, hne]

/-- What belongs to a request of before changes nothing but which of them are under way, and the
host is told at most that the request is done. -/
theorem step_shift_of_late (h : ∀ c ∈ late, c.request < o.requests ∧ c.writer.epoch ≤ o.epoch)
    (hepoch : 0 < f.cell.epoch) {e : Event} {id : Nat} (he : e.request? = some id)
    (hid : id < o.requests) :
    ∃ late' ⊆ late, ((f.shift o late).step e).1 = f.shift o late' ∧
      ∀ x ∈ ((f.shift o late).step e).2, ∃ added, x = .loaded id added := by
  by_cases hpage : ∃ reply, e = .page id reply
  · obtain ⟨reply, rfl⟩ := hpage
    simp only [step]
    split
    next c hc =>
      have hrequest : c.request = id := by simpa using List.find?_some hc
      have hmem : c ∈ late := by
        rcases List.mem_append.1 (List.mem_of_find?_eq_some hc) with hold | hnew
        · exact hold
        · obtain ⟨c', -, rfl⟩ := List.mem_map.1 hnew
          simp only [PageCall.shift] at hrequest
          omega
      obtain ⟨added, hreceived⟩ :=
        received_shift_of_late o late f (hrequest ▸ hid) (h c hmem).2 hepoch reply
      rw [hreceived]
      refine ⟨_, List.filter_sublist.subset, rfl, fun x hx ↦ ⟨added, ?_⟩⟩
      rw [List.mem_singleton.1 hx, hrequest]
    next => exact ⟨late, fun _ hc ↦ hc, rfl, fun _ hx ↦ nomatch hx⟩
  · have hpage : ∀ reply, e ≠ .page id reply := fun reply heq ↦ hpage ⟨reply, heq⟩
    rw [step_shift_of_late_stream o late f he hid hpage]
    exact ⟨late, fun _ hc ↦ hc, rfl, fun _ hx ↦ nomatch hx⟩

/-! ## Starting over -/

def offset : Offset := ⟨f.requests, f.cell.epoch, f.cell.version⟩

/-- Started over, a feed is a new one that is shifted, but for the requests that are under way. -/
theorem start_eq_shift (job : String) :
    f.start job = shiftResult f.offset f.calls ((new f.limit).start job) := by
  rw [← start_shift]
  simp only [start, new, shift, Cell.shift_new, Cell.reset, offset, Nat.zero_add, List.map_nil,
    List.append_nil]

end Feed

end JobWatch

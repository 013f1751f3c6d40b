import JobWatch.Logs.Feed
import JobWatch.Proofs.Logs.Integrity
import JobWatch.Proofs.Machine

/-!
# What a stream tells a log

The octets of a stream come in parts, cut wherever the network has cut them: between the octets of a
character, between CR and LF, in the middle of a name. A feed takes them up one at a time, so all
that counts is which octets have come of the stream of its run, and whether the stream has ended:
the `Delivery`. It fixes which events the log is told of (`Delivery.script`) and what the feed is
doing with the stream (`Delivery.stage`).

The step of a feed is compared with that once, in `Listens.tells`. Two cuts of the same octets are
the same delivery, hence the same run (`published_of_any_cut`).
-/

namespace JobWatch

namespace StreamEvent

/-- The events up to the first one that ends the stream. -/
def upToDone : List StreamEvent → List StreamEvent
  | [] => []
  | .done status :: _ => [.done status]
  | e :: es => e :: upToDone es

/-- What the first event that ends the stream says of the build. -/
def firstDone? : List StreamEvent → Option (Option DoneStatus)
  | [] => none
  | .done status :: _ => some status
  | _ :: es => firstDone? es

variable (es fs : List StreamEvent)

/-- How the build has ended is told by the first part of a stream that tells it. -/
theorem firstDone?_append : firstDone? (es ++ fs) = (firstDone? es).or (firstDone? fs) := by
  induction es with
  | nil => rfl
  | cons e es ih =>
    cases e with
    | done status => rfl
    | heartbeat | log line => exact ih

/-- Of the events that an event of an event stream can be, only the one for it ends the stream. -/
theorem firstDone?_parse (type data : String) :
    firstDone? (parse? type data).toList =
      if type = "done" then some (doneStatus? data) else none := by
  unfold parse?
  by_cases hheartbeat : type = "heartbeat"
  · simp [hheartbeat, firstDone?]
  · by_cases hlog : type = "log"
    · cases (Wire.ofString? data : Option LogLine) <;> simp [hlog, firstDone?]
    · by_cases hdone : type = "done" <;> simp [hheartbeat, hlog, hdone, firstDone?]

variable {es}

theorem upToDone_of_none (h : firstDone? es = none) : upToDone es = es := by
  induction es with
  | nil => rfl
  | cons e es ih =>
    cases e with
    | done status => exact nomatch h
    | heartbeat | log line => exact congrArg (List.cons _) (ih h)

theorem upToDone_append_of_some {status : Option DoneStatus} (h : firstDone? es = some status) :
    upToDone (es ++ fs) = upToDone es := by
  induction es with
  | nil => exact nomatch h
  | cons e es ih =>
    cases e with
    | done status => rfl
    | heartbeat | log line => exact congrArg (List.cons _) (ih h)

/-- If a part of a stream does not end it, the next one is heard. -/
theorem upToDone_append_of_none (h : firstDone? es = none) :
    upToDone (es ++ fs) = es ++ upToDone fs := by
  induction es with
  | nil => rfl
  | cons e es ih =>
    cases e with
    | done status => exact nomatch h
    | heartbeat | log line => exact congrArg (List.cons _) (ih h)

end StreamEvent

namespace EventStream

variable (s : State) (b : UInt8) (xs ys : List UInt8)

/-- The events of a log stream that octets complete. -/
def events : List StreamEvent :=
  (readAll s xs).2.filterMap fun e ↦ StreamEvent.parse? e.type e.data

theorem readAll_cons :
    readAll s (b :: xs) =
      ((readAll (s.read b).1 xs).1, (s.read b).2.toList ++ (readAll (s.read b).1 xs).2) := rfl

/-- Octets may be read in parts. -/
theorem readAll_append :
    readAll s (xs ++ ys) =
      ((readAll (readAll s xs).1 ys).1, (readAll s xs).2 ++ (readAll (readAll s xs).1 ys).2) := by
  induction xs generalizing s with
  | nil => rfl
  | cons b xs ih =>
    rw [List.cons_append, readAll_cons, readAll_cons, ih]
    simp only [List.append_assoc]

theorem events_append : events s (xs ++ ys) = events s xs ++ events (readAll s xs).1 ys := by
  simp only [events, readAll_append, List.filterMap_append]

/-- An event that ends the stream does so whatever its data is. -/
theorem firstDone?_events :
    StreamEvent.firstDone? (events s xs) =
      ((readAll s xs).2.find? (·.type = "done")).map fun e ↦ StreamEvent.doneStatus? e.data := by
  rw [events]
  induction (readAll s xs).2 with
  | nil => rfl
  | cons e es ih =>
    have hcons : (e :: es).filterMap (fun e ↦ StreamEvent.parse? e.type e.data) =
        (StreamEvent.parse? e.type e.data).toList ++
          es.filterMap fun e ↦ StreamEvent.parse? e.type e.data := by
      cases he : StreamEvent.parse? e.type e.data <;> simp [he]
    rw [hcons, StreamEvent.firstDone?_append, StreamEvent.firstDone?_parse, ih, List.find?_cons]
    by_cases hdone : e.type = "done"
    · simp only [hdone, if_true, decide_true, Option.map_some, Option.some_or]
    · simp only [hdone, if_false, decide_false, Option.none_or]

theorem events_cons :
    events s (b :: xs) =
      ((s.read b).2.bind fun e ↦ StreamEvent.parse? e.type e.data).toList ++
        events (s.read b).1 xs := by
  simp only [events, readAll_cons, List.filterMap_append]
  cases (s.read b).2 with
  | none => rfl
  | some e => cases he : StreamEvent.parse? e.type e.data <;> simp [he]

end EventStream

/-! ## Histories of a log -/

namespace LogBuffer

/-- The states that a log comes to, one for each event. -/
def history : LogBuffer → List LogEvent → List LogBuffer
  | _, [] => []
  | b, e :: es => b.apply e :: history (b.apply e) es

variable (b : LogBuffer) (e : LogEvent) (es fs : List LogEvent)

@[simp] theorem applyAll_nil : b.applyAll [] = b := rfl

@[simp] theorem applyAll_cons : b.applyAll (e :: es) = (b.apply e).applyAll es := rfl

@[simp] theorem applyAll_append : b.applyAll (es ++ fs) = (b.applyAll es).applyAll fs :=
  List.foldl_append

@[simp] theorem history_nil : b.history [] = [] := rfl

@[simp] theorem history_cons : b.history (e :: es) = b.apply e :: (b.apply e).history es := rfl

/-- A history goes on from the state that the first part of it has come to. -/
@[simp] theorem history_append :
    b.history (es ++ fs) = b.history es ++ (b.applyAll es).history fs := by
  induction es generalizing b with
  | nil => rfl
  | cons e es ih => exact congrArg (List.cons _) (ih _)

end LogBuffer

namespace Feed

/-- A feed takes its steps whatever the time is. -/
abbrev machine : Machine Feed Event Output := fun _ f e ↦ f.step e

def Output.published? : Output → Option LogBuffer
  | .publish b => some b
  | _ => none

/-- The logs that a run publishes, in their order. -/
def published (f : Feed) (es : List (Nat × Event)) : List LogBuffer :=
  ((Machine.outputs machine f es).map (·.2)).filterMap Output.published?

@[simp] theorem filterMap_published? (bs : List LogBuffer) :
    (bs.map .publish).filterMap Output.published? = bs := by
  rw [List.filterMap_map]
  exact List.filterMap_some

/-- What a run publishes, its parts publish one after the other. -/
theorem published_append (f : Feed) (es fs : List (Nat × Event)) :
    published f (es ++ fs) = published f es ++ published (Machine.after machine f es) fs := by
  simp only [published, Machine.outputs_append, List.map_append, List.filterMap_append]

theorem published_start (f : Feed) (now : Nat) (job : String) (es : List (Nat × Event)) :
    published f ((now, .start job) :: es) = .forJob job :: published (f.start job).1 es := rfl

/-- What has come of a stream. -/
inductive Delivery where
  /-- It is neither open nor refused. -/
  | awaited
  | refused
  /-- It is open, or was: the octets so far, and whether it has ended. -/
  | opened (octets : List UInt8) (ended : Bool)
deriving DecidableEq, Repr

namespace Delivery

/-- What an event adds to a stream with a number. Before a stream is open and after it has ended
nothing comes of it. -/
def add (id : Nat) : Delivery → Event → Delivery
  | .awaited, .opened request (.ok ()) => if request = id then .opened [] false else .awaited
  | .awaited, .opened request (.error _) => if request = id then .refused else .awaited
  | .opened octets false, .chunk request bytes =>
    if request = id then .opened (octets ++ bytes) false else .opened octets false
  | .opened octets false, .ended request => .opened octets (request = id)
  | d, _ => d

def addAll (id : Nat) (d : Delivery) (es : List (Nat × Event)) : Delivery :=
  es.foldl (fun d x ↦ d.add id x.2) d

/-- How the build ended, if the stream has told so: what can be read of the first event for that. -/
def done? : Delivery → Option (Option DoneStatus)
  | .opened octets _ =>
    ((EventStream.readAll .start octets).2.find? (·.type = "done")).map fun e ↦
      StreamEvent.doneStatus? e.data
  | _ => none

/-- Whether nothing more is read of a stream: it was refused, it has ended, or it has told that the
build has. -/
def isOver : Delivery → Bool
  | .awaited => false
  | .refused => true
  | .opened octets ended => ended || (opened octets ended).done?.isSome

/-- What the log is told of. -/
def script : Delivery → List LogEvent
  | .awaited => []
  | .refused => [.disconnected]
  | .opened octets ended =>
    .connected :: (StreamEvent.upToDone (EventStream.events .start octets)).map .stream ++
      if (opened octets ended).isOver then [.disconnected] else []

def stage (id : Nat) : Delivery → Stage
  | .awaited => .opening id
  | .refused => .closed
  | .opened octets ended =>
    if (opened octets ended).isOver then .closed
    else .reading id (EventStream.readAll .start octets).1

variable (id : Nat) (d : Delivery) (x : Nat × Event) (es fs : List (Nat × Event))

@[simp] theorem addAll_nil : d.addAll id [] = d := rfl

@[simp] theorem addAll_cons : d.addAll id (x :: es) = (d.add id x.2).addAll id es := rfl

@[simp] theorem addAll_append : d.addAll id (es ++ fs) = (d.addAll id es).addAll id fs :=
  List.foldl_append

end Delivery

/-! ## The log of a run -/

section Advance

variable (f : Feed) (r : Run) (stage : Stage) (e : LogEvent) (es : List LogEvent)

/-- The log is told of an event. -/
def tell : Feed :=
  { f with cell := ⟨f.cell.value.apply e, f.cell.epoch, f.cell.version + 1⟩ }

/-- The log of a run is told of some events, one after the other, and the run comes to a stage. -/
def advance : Feed × List Output :=
  ({ f with
      cell := ⟨f.cell.value.applyAll es, f.cell.epoch, f.cell.version + es.length⟩
      run := some { r with stage := stage } },
    (f.cell.value.history es).map .publish)

variable {f r}

theorem advance_nil (h : f.run = some r) : f.advance r r.stage [] = (f, []) := by
  obtain ⟨limit, cell, writer, run, calls, requests⟩ := f
  obtain rfl : run = some r := h
  rfl

/-- To be told of an event and then of others is to be told of them all. -/
theorem publish_advance :
    (((f.tell e).advance r stage es).1,
        .publish (f.tell e).cell.value :: ((f.tell e).advance r stage es).2) =
      f.advance r stage (e :: es) := by
  simp only [advance, tell, LogBuffer.applyAll_cons, LogBuffer.history_cons, List.map_cons,
    List.length_cons, Nat.add_assoc, Nat.add_comm 1]

theorem advance_append (stage' : Stage) (fs : List LogEvent) :
    (((f.advance r stage es).1.advance { r with stage := stage } stage' fs).1,
        (f.advance r stage es).2 ++
          ((f.advance r stage es).1.advance { r with stage := stage } stage' fs).2) =
      f.advance r stage' (es ++ fs) := by
  simp only [advance, LogBuffer.applyAll_append, LogBuffer.history_append, List.map_append,
    List.length_append, Nat.add_assoc]

variable (h : f.cell.isCurrent r.writer)

include h

/-- The log of a run that was not given up is told of every event. -/
theorem record_of_current : f.record r e = some (f.tell e) := by
  simp only [record, Cell.update_of_current _ h, Option.map_some, tell]

/-- The end of a run tells its log of the end of the stream. -/
theorem close_of_current : f.close r = f.advance r .closed [.disconnected] := by
  have hclosed : Cell.isCurrent { f with run := some { r with stage := .closed } }.cell r.writer :=
    h
  simp only [close, record_of_current _ hclosed]
  rfl

theorem opened_of_current (id : Nat) :
    f.opened r id (.ok ()) = f.advance r (.reading id .start) [.connected] := by
  simp only [opened, record_of_current _ h]
  rfl

end Advance

open StreamEvent EventStream in
/-- What a log is told of by octets that are read on from a position: the events that they complete,
up to the first one that ends the stream. -/
def heard (position : EventStream.State) (bytes : List UInt8) : List LogEvent :=
  (upToDone (events position bytes)).map .stream ++
    if (firstDone? (events position bytes)).isSome then [.disconnected] else []

open StreamEvent EventStream in
/-- Octets tell the log of the events that they complete, up to the first one that ends the stream.
-/
theorem readBytes_of_current {f : Feed} {r : Run} (h : f.cell.isCurrent r.writer) (id : Nat)
    (position : EventStream.State) (bytes : List UInt8) :
    f.readBytes r id position bytes =
      f.advance r
        (if (firstDone? (events position bytes)).isSome then .closed
          else .reading id (readAll position bytes).1)
        (heard position bytes) := by
  induction bytes generalizing f position with
  | nil => rfl
  | cons b bytes ih =>
    simp only [readBytes, heard, events_cons, readAll_cons]
    cases (position.read b).2.bind fun e ↦ StreamEvent.parse? e.type e.data with
    | none => exact ih h _
    | some event =>
      have htold : (f.tell (.stream event)).cell.isCurrent r.writer := h
      simp only [record_of_current _ h, Option.toList_some, List.cons_append, List.nil_append]
      cases event with
      | done status =>
        simp only [close_of_current htold]
        exact publish_advance ..
      | heartbeat | log line =>
        simp only [ih htold]
        exact publish_advance ..

/-! ## The stream of a run -/

/-- The number of the stream that an event tells of. -/
def Event.stream? : Event → Option Nat
  | .opened request _ | .chunk request _ | .ended request => some request
  | .start _ | .dispose | .loadEarlier | .page _ _ => none

namespace Delivery

variable {id : Nat} {d : Delivery} {octets : List UInt8}

/-- Only what tells of a stream adds to it. -/
theorem add_of_ne {e : Event} (he : e.stream? ≠ some id) : d.add id e = d := by
  have hne : ∀ request, e.stream? = some request → request ≠ id := by
    rintro request hrequest rfl
    exact he hrequest
  cases d with
  | refused => rfl
  | awaited =>
    cases e with
    | opened request outcome => cases outcome <;> exact if_neg (hne request rfl)
    | _ => rfl
  | opened octets ended =>
    cases ended with
    | true => rfl
    | false =>
      cases e with
      | chunk request bytes => exact if_neg (hne request rfl)
      | ended request => exact congrArg _ (decide_eq_false (hne request rfl))
      | _ => rfl

theorem add_chunk (bytes : List UInt8) :
    (opened octets false).add id (.chunk id bytes) = .opened (octets ++ bytes) false := if_pos rfl

theorem add_ended : (opened octets false).add id (.ended id) = .opened octets true :=
  congrArg _ (decide_eq_true rfl)

theorem stage_of_isOver (h : d.isOver) : d.stage id = .closed := by
  cases d with
  | awaited => exact nomatch h
  | refused => rfl
  | opened octets ended => exact if_pos h

/-- A stream that has neither ended nor told of the end of the build is read on. -/
theorem isOver_of_done?_eq_none (h : (opened octets false).done? = none) :
    (opened octets false).isOver = false := by
  rw [isOver, h]
  rfl

theorem eq_of_stage_opening {request : Nat} (h : d.stage id = .opening request) : request = id := by
  cases d with
  | awaited => exact (Stage.opening.inj h).symm
  | refused => exact nomatch h
  | opened octets ended =>
    simp only [stage] at h
    split at h <;> exact nomatch h

theorem eq_of_stage_reading {request : Nat} {position : EventStream.State}
    (h : d.stage id = .reading request position) : request = id := by
  cases d with
  | awaited | refused => exact nomatch h
  | opened octets ended =>
    simp only [stage] at h
    split at h
    · exact nomatch h
    · exact (Stage.reading.inj h).1.symm

/-- How the build has ended is told by the first event for that among those of the stream. -/
theorem done?_opened (ended : Bool) :
    (opened octets ended).done? = StreamEvent.firstDone? (EventStream.events .start octets) :=
  (EventStream.firstDone?_events ..).symm

theorem done?_append (ended : Bool) (bytes : List UInt8) :
    (opened (octets ++ bytes) ended).done? =
      (opened octets ended).done?.or
        (StreamEvent.firstDone?
          (EventStream.events (EventStream.readAll .start octets).1 bytes)) := by
  rw [done?_opened, done?_opened, EventStream.events_append, StreamEvent.firstDone?_append]

/-- What comes of a stream of which nothing more is read makes no difference. -/
theorem add_of_isOver (h : d.isOver) (e : Event) :
    (d.add id e).isOver ∧ (d.add id e).script = d.script ∧ (d.add id e).done? = d.done? := by
  by_cases he : e.stream? = some id
  · cases d with
    | awaited => exact nomatch h
    | refused => exact ⟨rfl, rfl, rfl⟩
    | opened octets ended =>
      cases ended with
      | true => exact ⟨h, rfl, rfl⟩
      | false =>
        obtain ⟨status, hdone⟩ := Option.isSome_iff_exists.1 h
        cases e with
        | opened request outcome => exact ⟨h, rfl, rfl⟩
        | start | dispose | loadEarlier | page => exact nomatch he
        | chunk request bytes =>
          obtain rfl : request = id := Option.some.inj he
          have hafter : (opened (octets ++ bytes) false).done? = some status := by
            rw [done?_append, hdone, Option.some_or]
          have hover : (opened (octets ++ bytes) false).isOver :=
            Option.isSome_iff_exists.2 ⟨_, hafter⟩
          rw [add_chunk]
          refine ⟨hover, ?_, hafter.trans hdone.symm⟩
          rw [done?_opened] at hdone
          simp only [script, hover, h, EventStream.events_append,
            StreamEvent.upToDone_append_of_some _ hdone]
        | ended request =>
          obtain rfl : request = id := Option.some.inj he
          have hover : (opened octets true).isOver := rfl
          rw [add_ended]
          refine ⟨hover, ?_, rfl⟩
          simp only [script, hover, h]
  · rw [add_of_ne he]
    exact ⟨h, rfl, rfl⟩

end Delivery

/-- A run listens to the stream with a number, of which so much has come. -/
structure Listens (f : Feed) (r : Run) (id : Nat) (d : Delivery) : Prop where
  run : f.run = some r
  isCurrent : f.cell.isCurrent r.writer
  stage : r.stage = d.stage id

/-- An event of the stream tells the log of just what it adds to the script. -/
def Tells (f : Feed) (r : Run) (id : Nat) (d : Delivery) (e : Event) : Prop :=
  ∃ told, d.script ++ told = (d.add id e).script ∧
    f.step e = f.advance r ((d.add id e).stage id) told

namespace Listens

variable {f : Feed} {r : Run} {id : Nat} {d : Delivery} {octets : List UInt8}

theorem start (f : Feed) (job : String) :
    Listens (f.start job).1 ⟨job, ⟨f.cell.epoch + 1⟩, .opening f.requests⟩ f.requests .awaited :=
  ⟨rfl, f.cell.isCurrent_reset _, rfl⟩

theorem advance (h : Listens f r id d) (d' : Delivery) (told : List LogEvent) :
    Listens (f.advance r (d'.stage id) told).1 { r with stage := d'.stage id } id d' :=
  ⟨rfl, h.isCurrent, rfl⟩

/-- An event of another stream is ignored. -/
theorem step_of_ne (h : Listens f r id d) {e : Event} {request : Nat}
    (he : e.stream? = some request) (hne : request ≠ id) : f.step e = (f, []) := by
  have hopening : r.stage ≠ .opening request := fun hs ↦
    hne (Delivery.eq_of_stage_opening (h.stage.symm.trans hs))
  have hreading : ∀ position, r.stage ≠ .reading request position := fun position hs ↦
    hne (Delivery.eq_of_stage_reading (h.stage.symm.trans hs))
  cases e with
  | opened id' outcome =>
    obtain rfl : id' = request := Option.some.inj he
    simp only [step, h.run, hopening, if_false]
  | chunk id' bytes =>
    obtain rfl : id' = request := Option.some.inj he
    cases hs : r.stage with
    | reading other position =>
      have hother : other ≠ id' := fun heq ↦ hreading position (heq ▸ hs)
      simp only [step, h.run, hs, hother, if_false]
    | opening | closed => simp only [step, h.run, hs]
  | ended id' =>
    obtain rfl : id' = request := Option.some.inj he
    cases hs : r.stage with
    | reading other position =>
      have hother : other ≠ id' := fun heq ↦ hreading position (heq ▸ hs)
      simp only [step, h.run, hs, hother, if_false]
    | opening | closed => simp only [step, h.run, hs]
  | start | dispose | loadEarlier | page => exact nomatch he

/-- A run that is over does not listen any more. -/
theorem step_of_isOver (h : Listens f r id d) (hover : d.isOver) {e : Event} {request : Nat}
    (he : e.stream? = some request) : f.step e = (f, []) := by
  have hstage : r.stage = .closed := h.stage.trans (Delivery.stage_of_isOver hover)
  cases e with
  | opened | chunk | ended => simp [step, h.run, hstage]
  | start | dispose | loadEarlier | page => exact nomatch he

/-- Of an event that is ignored, and adds nothing, the log is not told. -/
theorem tells_nothing (h : Listens f r id d) {e : Event}
    (hscript : (d.add id e).script = d.script) (hstage : (d.add id e).stage id = d.stage id)
    (hstep : f.step e = (f, [])) : Tells f r id d e := by
  refine ⟨[], ?_, ?_⟩
  · rw [hscript, List.append_nil]
  · rw [hstep, hstage, ← h.stage, advance_nil h.run]

/-- A stream is opened, or refused. -/
theorem tells_opened (h : Listens f r id .awaited) (outcome : Except ApiError Unit) :
    Tells f r id .awaited (.opened id outcome) := by
  have hstage : r.stage = .opening id := h.stage
  have hstep : f.step (.opened id outcome) = f.opened r id outcome := by
    simp only [step, h.run, hstage, if_true]
  cases outcome with
  | ok u =>
    have hadd : Delivery.awaited.add id (.opened id (.ok u)) = .opened [] false := if_pos rfl
    refine ⟨[.connected], ?_, ?_⟩
    · rw [hadd]
      rfl
    · rw [hstep, hadd]
      exact opened_of_current h.isCurrent id
  | error error =>
    have hadd : Delivery.awaited.add id (.opened id (.error error)) = .refused := if_pos rfl
    refine ⟨[.disconnected], ?_, ?_⟩
    · rw [hadd]
      rfl
    · rw [hstep, hadd]
      exact close_of_current h.isCurrent

section Reading

variable (h : Listens f r id (.opened octets false))
  (hnone : (Delivery.opened octets false).done? = none)

include h hnone

/-- Where the reading of a stream stands that is not over. -/
theorem stage_reading : r.stage = .reading id (EventStream.readAll .start octets).1 := by
  rw [h.stage, Delivery.stage, Delivery.isOver_of_done?_eq_none hnone]
  rfl

/-- Octets of a stream that is not over are read on from where the reading stands. -/
theorem tells_chunk (bytes : List UInt8) :
    Tells f r id (.opened octets false) (.chunk id bytes) := by
  have hfirst : StreamEvent.firstDone? (EventStream.events .start octets) = none :=
    (Delivery.done?_opened false).symm.trans hnone
  have hover : (Delivery.opened (octets ++ bytes) false).isOver =
      (StreamEvent.firstDone?
        (EventStream.events (EventStream.readAll .start octets).1 bytes)).isSome := by
    simp only [Delivery.isOver, Delivery.done?_append, hnone, Option.none_or, Bool.false_or]
  have hbefore := Delivery.isOver_of_done?_eq_none hnone
  refine ⟨heard (EventStream.readAll .start octets).1 bytes, ?_, ?_⟩
  · rw [Delivery.add_chunk, Delivery.script, Delivery.script, hover, hbefore,
      EventStream.events_append, StreamEvent.upToDone_append_of_none _ hfirst,
      StreamEvent.upToDone_of_none hfirst]
    simp [heard]
  · simp only [step, h.run, h.stage_reading hnone, if_true]
    rw [readBytes_of_current h.isCurrent, Delivery.add_chunk, Delivery.stage, hover,
      EventStream.readAll_append]

/-- A stream that is not over ends. -/
theorem tells_ended : Tells f r id (.opened octets false) (.ended id) := by
  have hbefore := Delivery.isOver_of_done?_eq_none hnone
  have hover : (Delivery.opened octets true).isOver = true := rfl
  refine ⟨[.disconnected], ?_, ?_⟩
  · rw [Delivery.add_ended, Delivery.script, Delivery.script, hover, hbefore]
    simp
  · simp only [step, h.run, h.stage_reading hnone, if_true]
    rw [close_of_current h.isCurrent, Delivery.add_ended, Delivery.stage_of_isOver hover]

end Reading

/-- What comes of the stream of a run tells the log of just what it adds to the script. -/
theorem tells (h : Listens f r id d) {e : Event} {request : Nat} (he : e.stream? = some request) :
    Tells f r id d e := by
  by_cases hid : request = id
  · subst hid
    by_cases hover : d.isOver
    · obtain ⟨hover', hscript, -⟩ :
          (d.add request e).isOver ∧ (d.add request e).script = d.script ∧ _ :=
        Delivery.add_of_isOver hover e
      refine h.tells_nothing hscript ?_ (h.step_of_isOver hover he)
      rw [Delivery.stage_of_isOver hover, Delivery.stage_of_isOver hover']
    · cases d with
      | refused => exact absurd rfl hover
      | awaited =>
        cases e with
        | opened id outcome =>
          obtain rfl : id = request := Option.some.inj he
          exact h.tells_opened outcome
        | chunk | ended =>
          refine h.tells_nothing rfl rfl ?_
          simp only [step, h.run, h.stage, Delivery.stage]
        | start | dispose | loadEarlier | page => exact nomatch he
      | opened octets ended =>
        obtain ⟨rfl, hnone⟩ : ended = false ∧ (Delivery.opened octets ended).done? = none := by
          simpa [Delivery.isOver] using hover
        cases e with
        | opened id outcome =>
          refine h.tells_nothing rfl rfl ?_
          simp only [step, h.run, h.stage_reading hnone, reduceCtorEq, if_false]
        | chunk id bytes =>
          obtain rfl : id = request := Option.some.inj he
          exact h.tells_chunk hnone bytes
        | ended id =>
          obtain rfl : id = request := Option.some.inj he
          exact h.tells_ended hnone
        | start | dispose | loadEarlier | page => exact nomatch he
  · have hadd : d.add id e = d := by
      refine Delivery.add_of_ne fun heq ↦ hid ?_
      exact Option.some.inj (he.symm.trans heq)
    exact h.tells_nothing (by rw [hadd]) (by rw [hadd]) (h.step_of_ne he hid)

/-- What comes of the stream of a run, in whatever events, tells the log of just what it adds to the
script. -/
theorem run_of_stream (h : Listens f r id d) {es : List (Nat × Event)}
    (hes : ∀ x ∈ es, ∃ request, x.2.stream? = some request) :
    ∃ told, d.script ++ told = (d.addAll id es).script ∧
      (Machine.after machine f es, (Machine.outputs machine f es).map (·.2)) =
        f.advance r ((d.addAll id es).stage id) told := by
  induction es generalizing f r d with
  | nil =>
    refine ⟨[], List.append_nil _, ?_⟩
    rw [Delivery.addAll_nil, ← h.stage, advance_nil h.run]
    rfl
  | cons x es ih =>
    obtain ⟨now, e⟩ := x
    obtain ⟨request, he⟩ := hes _ List.mem_cons_self
    obtain ⟨told, hscript, hstep⟩ := h.tells he
    obtain ⟨more, hscript', hrun⟩ := ih (h.advance (d.add id e) told) fun y hy ↦
      hes y (List.mem_cons_of_mem _ hy)
    refine ⟨told ++ more, ?_, ?_⟩
    · rw [← List.append_assoc, hscript, hscript', Delivery.addAll_cons]
    · rw [Delivery.addAll_cons, ← advance_append ((d.add id e).stage id), ← hrun,
        Machine.map_outputs_cons, ← hstep]
      rfl

end Listens

/-! ## Any cut -/

/-- A stream is opened, or refused, and comes in some parts, each at its time. -/
def comes (id : Nat) (opening : Nat) (outcome : Except ApiError Unit)
    (parts : List (Nat × List UInt8)) : List (Nat × Event) :=
  (opening, .opened id outcome) :: parts.map fun x ↦ (x.1, .chunk id x.2)

/-- The octets of some parts. -/
def octets (parts : List (Nat × List UInt8)) : List UInt8 := parts.flatMap (·.2)

section Cut

variable (id opening ending : Nat) (outcome : Except ApiError Unit)
  (parts : List (Nat × List UInt8))

theorem stream?_comes :
    ∀ x ∈ comes id opening outcome parts, ∃ request, x.2.stream? = some request := by
  intro x hx
  rcases List.mem_cons.1 hx with rfl | hx
  · exact ⟨id, rfl⟩
  · obtain ⟨part, -, rfl⟩ := List.mem_map.1 hx
    exact ⟨id, rfl⟩

theorem Delivery.addAll_chunks (before : List UInt8) :
    (Delivery.opened before false).addAll id (parts.map fun x ↦ (x.1, .chunk id x.2)) =
      .opened (before ++ octets parts) false := by
  induction parts generalizing before with
  | nil => rw [octets, List.flatMap_nil, List.append_nil]; rfl
  | cons part parts ih =>
    rw [List.map_cons, addAll_cons, add_chunk, ih, octets, octets, List.flatMap_cons,
      List.append_assoc]

/-- What has come of a stream does not tell where it was cut. -/
theorem Delivery.addAll_comes :
    Delivery.awaited.addAll id (comes id opening outcome parts) =
      match outcome with
      | .ok _ => .opened (octets parts) false
      | .error _ => .refused := by
  rw [comes, addAll_cons]
  cases outcome with
  | ok u =>
    have hadd : Delivery.awaited.add id (.opened id (.ok u)) = .opened [] false := if_pos rfl
    rw [hadd, addAll_chunks, List.nil_append]
  | error e =>
    have hadd : Delivery.awaited.add id (.opened id (.error e)) = .refused := if_pos rfl
    rw [hadd]
    induction parts with
    | nil => rfl
    | cons part parts ih => exact ih

end Cut

/-- A run that is given the stream of its job publishes what the script of the stream tells the log.
-/
theorem published_of_stream (f : Feed) (now : Nat) (job : String) {es : List (Nat × Event)}
    (hes : ∀ x ∈ es, ∃ request, x.2.stream? = some request) :
    published f ((now, .start job) :: es) =
      .forJob job ::
        (LogBuffer.forJob job).history (Delivery.awaited.addAll f.requests es).script := by
  obtain ⟨told, hscript, hrun⟩ := (Listens.start f job).run_of_stream hes
  obtain rfl : told = (Delivery.awaited.addAll f.requests es).script := hscript
  rw [published_start, published, (Prod.mk.inj hrun).2, filterMap_published?]
  rfl

/-- It makes no difference where a stream is cut into parts.

A feed is started on a job, and the stream of the job is opened, or refused, and comes in parts. Let
two cuts have the same octets. Then, whatever comes later, be it the end of the stream or anything
else, the feed publishes the same logs in the same order and is in the same state. In particular,
when the stream ends, all that the feed has published are the states that the log comes to by the
events of the whole stream, up to the first one that ends it. -/
theorem published_of_any_cut (f : Feed) (job : String) (starting opening ending : Nat)
    (outcome : Except ApiError Unit) {xs ys : List (Nat × List UInt8)} (h : octets xs = octets ys) :
    let run parts := (starting, .start job) :: comes f.requests opening outcome parts
    (∀ later, published f (run xs ++ later) = published f (run ys ++ later) ∧
      Machine.after machine f (run xs ++ later) = Machine.after machine f (run ys ++ later)) ∧
    published f (run xs ++ [(ending, .ended f.requests)]) =
      .forJob job :: (LogBuffer.forJob job).history
        (match outcome with
          | .ok _ => (Delivery.opened (octets xs) true).script
          | .error _ => [.disconnected]) := by
  intro run
  have hdelivered : Delivery.awaited.addAll f.requests (comes f.requests opening outcome xs) =
      Delivery.awaited.addAll f.requests (comes f.requests opening outcome ys) := by
    rw [Delivery.addAll_comes, Delivery.addAll_comes, h]
  have hrun : (Machine.after machine f (run xs), (Machine.outputs machine f (run xs)).map (·.2)) =
      (Machine.after machine f (run ys), (Machine.outputs machine f (run ys)).map (·.2)) := by
    obtain ⟨told, hscript, hxs⟩ := (Listens.start f job).run_of_stream
      (stream?_comes f.requests opening outcome xs)
    obtain ⟨told', hscript', hys⟩ := (Listens.start f job).run_of_stream
      (stream?_comes f.requests opening outcome ys)
    obtain rfl : told = told' := hscript.trans (hdelivered ▸ hscript'.symm)
    rw [hdelivered, ← hys] at hxs
    obtain ⟨hafter, houtputs⟩ := Prod.mk.inj hxs
    refine Prod.ext hafter ?_
    simp only [run, Machine.outputs_cons, List.map_append]
    exact congrArg _ houtputs
  obtain ⟨hafter, houtputs⟩ := Prod.mk.inj hrun
  refine ⟨fun later ↦ ⟨?_, ?_⟩, ?_⟩
  · have hpublished : published f (run xs) = published f (run ys) :=
      congrArg (List.filterMap Output.published?) houtputs
    rw [published_append, published_append, hafter, hpublished]
  · rw [Machine.after_append, Machine.after_append, hafter]
  · have hes : ∀ x ∈ comes f.requests opening outcome xs ++ [(ending, .ended f.requests)],
        ∃ request, x.2.stream? = some request := by
      intro x hx
      rcases List.mem_append.1 hx with hx | hx
      · exact stream?_comes f.requests opening outcome xs x hx
      · obtain rfl := List.mem_singleton.1 hx
        exact ⟨_, rfl⟩
    rw [List.cons_append, published_of_stream f starting job hes, Delivery.addAll_append,
      Delivery.addAll_comes]
    cases outcome with
    | ok u => rw [Delivery.addAll_cons, Delivery.add_ended]; rfl
    | error e => rfl

/-- A stream that is cut in a character, between CR and LF, and where nothing has come, still tells
that the build has ended. -/
theorem published_of_cut_character :
    let whole := [(9, "event:done\x0d\ndata:é\x0d\n\x0d\n".toUTF8.toList)]
    let parts := [(2, "event:done\x0d".toUTF8.toList), (3, []), (4, "\ndata:".toUTF8.toList),
      (5, [0xC3]), (6, [0xA9, 0x0D]), (7, "\n\x0d\n".toUTF8.toList)]
    let run parts := (0, .start "j1") :: comes 0 1 (.ok ()) parts
    octets parts = octets whole ∧
      published (new 100) (run parts) = published (new 100) (run whole) ∧
      ((published (new 100) (run parts)).map fun b ↦ (b.isConnected, b.isDone)) =
        [(false, false), (true, false), (false, true), (false, true)] := by
  intro whole parts run
  have hoctets : octets parts = octets whole := by decide +kernel
  obtain ⟨hsame, -⟩ := published_of_any_cut (new 100) "j1" 0 1 10 (.ok ()) hoctets
  have hpublished := (hsame []).1
  rw [List.append_nil, List.append_nil] at hpublished
  refine ⟨hoctets, hpublished, ?_⟩
  decide +kernel

end Feed

end JobWatch

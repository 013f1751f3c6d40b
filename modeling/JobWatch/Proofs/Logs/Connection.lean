import JobWatch.Proofs.Logs.Stream

/-!
# The connection of a run

The link of a log is what it says of its connection: whether it is connected, whether it is closed,
and how the build has ended. A log by itself would let itself be connected again after it was
closed. That it never is comes from the order in which a run tells it of things: the events of the
stream are told as the `Delivery` scripts them, and pages of earlier lines, which come at any time
in between, leave the link alone (`GoesOn`).

So a log is awaited, then live, then closed, and each of these but once (`connection_life_cycle`).

All this is said of streams that do not begin with a byte order mark. The reader of event streams
does not survive one: the task that follows the stream ends with it, and the log is left as it is.
-/

namespace JobWatch

/-- What a log says of its connection. -/
structure Link where
  isConnected : Bool
  isClosed : Bool
  isDone : Bool
  doneStatus : Option DoneStatus
deriving DecidableEq, Repr

namespace Link

/-- The stream is neither open nor refused. -/
def awaited : Link := ⟨false, false, false, none⟩

def live : Link := ⟨true, false, false, none⟩

/-- Nothing more is read of the stream. If it has told that the build has ended, it is known how, as
far as that could be read. -/
def closed (done : Option (Option DoneStatus)) : Link := ⟨false, true, done.isSome, done.join⟩

/-- What an event makes of a link. -/
def apply (l : Link) : LogEvent → Link
  | .connected => if l.isDone then l else { l with isConnected := true }
  | .disconnected => { l with isConnected := false, isClosed := true }
  | .stream (.done status) => if l.isDone then l else closed (some status)
  | .stream .heartbeat | .stream (.log _) | .backfill _ => l

/-- The end of the stream adds nothing to a closed link. -/
theorem closed_disconnected (done : Option (Option DoneStatus)) :
    (closed done).apply .disconnected = closed done := rfl

end Link

def LogEvent.ofStream : LogEvent → Bool
  | .connected | .stream _ | .disconnected => true
  | .backfill _ => false

namespace LogBuffer

def link (b : LogBuffer) : Link := ⟨b.isConnected, b.isClosed, b.isDone, b.doneStatus⟩

variable (b : LogBuffer)

@[simp] theorem link_noteAutoFix (text : String) : (b.noteAutoFix text).link = b.link := by
  unfold noteAutoFix
  split <;> rfl

@[simp] theorem link_append (line : LogLine) : (b.append line).link = b.link := by
  unfold append
  split
  · rfl
  · change LogBuffer.link (if _ then _ else _) = _
    split
    · exact link_noteAutoFix ..
    · rfl

/-- What an event makes of the link of a log depends on that link alone. -/
@[simp] theorem link_apply (e : LogEvent) : (b.apply e).link = b.link.apply e := by
  cases e with
  | disconnected | backfill page => rfl
  | connected => by_cases h : b.isDone <;> simp [apply, Link.apply, link, h]
  | stream event =>
    cases event with
    | heartbeat => by_cases h : b.isDone <;> simp [apply, applyStream, Link.apply, h]
    | log line => by_cases h : b.isDone <;> simp [apply, applyStream, Link.apply, h]
    | done status =>
      by_cases h : b.isDone <;> simp [apply, applyStream, Link.apply, link, Link.closed, h]

/-- The stream brings no line in front of the held ones. -/
theorem lines_apply_of_ofStream {b : LogBuffer} (h : Sound b) {e : LogEvent} (he : e.ofStream) :
    (b.apply e).lines = b.lines ++ b.back e := by
  have hfront : b.front e = [] := by
    cases e with
    | backfill page => exact nomatch he
    | connected | disconnected | stream event => rfl
  rw [lines_apply h, hfront, List.nil_append]

/-- Events that do not come from the stream leave the link alone. -/
theorem link_applyAll (es : List LogEvent) :
    (b.applyAll es).link = (es.filter LogEvent.ofStream).foldl Link.apply b.link := by
  induction es generalizing b with
  | nil => rfl
  | cons e es ih =>
    rw [applyAll_cons, ih, link_apply]
    cases e with
    | backfill page => rfl
    | connected | stream event | disconnected => rfl

end LogBuffer

namespace Feed

/-! ## Awaited, live, closed -/

namespace Delivery

def link : Delivery → Link
  | .awaited => .awaited
  | .refused => .closed none
  | .opened octets ended =>
    if (opened octets ended).isOver then .closed (opened octets ended).done? else .live

def octets : Delivery → List UInt8
  | .awaited | .refused => []
  | .opened octets _ => octets

/-- The octets of the stream begin with a byte order mark. -/
def IsMarked (d : Delivery) : Prop := [0xEF, 0xBB, 0xBF] <+: d.octets

instance (d : Delivery) : Decidable d.IsMarked := inferInstanceAs (Decidable (_ <+: _))

theorem isClosed_link (d : Delivery) : d.link.isClosed = d.isOver := by
  cases d with
  | awaited | refused => rfl
  | opened octets ended =>
    simp only [link]
    split
    next h => rw [h]; rfl
    next h => rw [Bool.not_eq_true] at h; rw [h]; rfl

/-- All that the script tells comes from the stream. -/
theorem ofStream_script (d : Delivery) : ∀ e ∈ d.script, e.ofStream = true := by
  intro e he
  cases d with
  | awaited => exact absurd he List.not_mem_nil
  | refused =>
    obtain rfl := List.mem_singleton.1 he
    rfl
  | opened octets ended =>
    simp only [script, List.cons_append, List.mem_cons, List.mem_append, List.mem_map] at he
    rcases he with rfl | ⟨event, -, rfl⟩ | he
    · rfl
    · rfl
    · split at he
      · obtain rfl := List.mem_singleton.1 he
        rfl
      · exact absurd he List.not_mem_nil

end Delivery

open StreamEvent in
/-- What an open stream carries makes of a live log one that is live, or closed by the first event
that ends the stream. -/
theorem live_foldl (es : List StreamEvent) :
    ((upToDone es).map LogEvent.stream).foldl Link.apply .live =
      if (firstDone? es).isSome then .closed (firstDone? es) else .live := by
  induction es with
  | nil => rfl
  | cons e es ih =>
    cases e with
    | heartbeat | log line => exact ih
    | done status => rfl

/-- The script of a stream makes of an awaited link what the log says when it has been told of all.
-/
theorem foldl_script (d : Delivery) : d.script.foldl Link.apply .awaited = d.link := by
  cases d with
  | awaited | refused => rfl
  | opened octets ended =>
    have hlive : Link.awaited.apply .connected = .live := rfl
    simp only [Delivery.script, Delivery.link, List.cons_append, List.foldl_cons, List.foldl_append,
      hlive, live_foldl, ← Delivery.done?_opened ended]
    cases hdone : (Delivery.opened octets ended).done? with
    | some status => simp [Delivery.isOver, hdone, Link.closed_disconnected]
    | none =>
      simp only [Delivery.isOver, hdone, Option.isSome_none, Bool.or_false, Bool.false_eq_true,
        if_false]
      cases ended <;> rfl

section Phases

open StreamEvent LogBuffer

section Links

variable (b : LogBuffer) {es : List LogEvent}

/-- Events that do not come from the stream only repeat the link. -/
theorem links_of_pages (hes : es.filter LogEvent.ofStream = []) :
    (b.history es).map link = List.replicate es.length b.link := by
  induction es generalizing b with
  | nil => rfl
  | cons e es ih =>
    cases e with
    | backfill page =>
      have hkept : (b.apply (.backfill page)).link = b.link := link_apply ..
      rw [history_cons, List.map_cons, ih _ hes, hkept]
      rfl
    | connected | stream event | disconnected => exact nomatch hes

/-- Up to the next event from the stream the link is repeated; then it is what that event makes of
it. -/
theorem links_of_cons {e : LogEvent} {fs : List LogEvent}
    (hes : es.filter LogEvent.ofStream = e :: fs) :
    ∃ (n : Nat) (b' : LogBuffer) (rest : List LogEvent),
      b'.link = b.link.apply e ∧ rest.filter LogEvent.ofStream = fs ∧
        (b.history es).map link =
          List.replicate n b.link ++ b'.link :: (b'.history rest).map link := by
  induction es generalizing b with
  | nil => exact nomatch hes
  | cons e' es ih =>
    cases e' with
    | backfill page =>
      have hkept : (b.apply (.backfill page)).link = b.link := link_apply ..
      obtain ⟨n, b', rest, hb', hrest, hlinks⟩ := ih (b.apply (.backfill page)) hes
      rw [hkept] at hb' hlinks
      refine ⟨n + 1, b', rest, hb', hrest, ?_⟩
      rw [history_cons, List.map_cons, hlinks, hkept, List.replicate_succ, List.cons_append]
    | connected | stream event | disconnected =>
      obtain ⟨rfl, hrest⟩ := List.cons.inj hes
      exact ⟨0, _, es, link_apply .., hrest, rfl⟩

end Links

variable {b : LogBuffer} {es ending : List LogEvent} {done : Option (Option DoneStatus)}
  (hending : ∀ e ∈ ending, e = .disconnected)

include hending

/-- A closed log stays closed, by pages and by a second end. -/
theorem links_of_closed (hb : b.link = .closed done) (hes : es.filter LogEvent.ofStream = ending) :
    ∃ o, (b.history es).map link = List.replicate o (.closed done) := by
  induction ending generalizing b es with
  | nil => exact ⟨es.length, hb ▸ links_of_pages b hes⟩
  | cons e ending ih =>
    obtain rfl : e = .disconnected := hending e List.mem_cons_self
    obtain ⟨n, b', rest, hb', hrest, hlinks⟩ := links_of_cons b hes
    rw [hb, Link.closed_disconnected] at hb'
    obtain ⟨o, hclosed⟩ := ih (fun e he ↦ hending e (List.mem_cons_of_mem _ he)) hb' hrest
    refine ⟨n + (o + 1), ?_⟩
    rw [hlinks, hclosed, hb, hb', ← List.replicate_succ, List.replicate_append_replicate]

/-- What closes a log leaves it closed. -/
theorem links_of_end {e : LogEvent} (he : b.link.apply e = .closed done)
    (hes : es.filter LogEvent.ofStream = e :: ending) :
    ∃ n o, (b.history es).map link =
      List.replicate n b.link ++ List.replicate o (.closed done) := by
  obtain ⟨n, b', rest, hb', hrest, hlinks⟩ := links_of_cons b hes
  rw [he] at hb'
  obtain ⟨o, hclosed⟩ := links_of_closed hending hb' hrest
  refine ⟨n, o + 1, ?_⟩
  rw [hlinks, hclosed, hb', List.replicate_succ]

/-- A live log stays live up to the first event that ends the stream, or up to the end. -/
theorem links_of_live {events : List StreamEvent} (hb : b.link = .live)
    (hes : es.filter LogEvent.ofStream = (upToDone events).map .stream ++ ending) :
    ∃ l o, (b.history es).map link =
      List.replicate l .live ++ List.replicate o (.closed (firstDone? events)) := by
  induction events generalizing b es with
  | nil =>
    cases ending with
    | nil =>
      refine ⟨es.length, 0, ?_⟩
      rw [links_of_pages b hes, hb, List.replicate_zero, List.append_nil]
    | cons e ending =>
      obtain rfl : e = .disconnected := hending e List.mem_cons_self
      have hends : b.link.apply .disconnected = .closed none := by rw [hb]; rfl
      rw [← hb]
      exact links_of_end (fun e he ↦ hending e (List.mem_cons_of_mem _ he)) hends hes
  | cons event events ih =>
    cases event with
    | done status =>
      have hends : b.link.apply (.stream (.done status)) = .closed (some status) := by rw [hb]; rfl
      rw [← hb]
      exact links_of_end hending hends hes
    | heartbeat | log line =>
      obtain ⟨n, b', rest, hb', hrest, hlinks⟩ := links_of_cons b hes
      rw [hb] at hb' hlinks
      obtain ⟨l, o, hlive⟩ := ih hb' hrest
      refine ⟨n + (l + 1), o, ?_⟩
      rw [hlinks, hlive, hb', ← List.replicate_append_replicate, List.append_assoc]
      rfl

omit hending

/-- A log that is told what a stream scripts, with pages in between, is awaited, then live, then
closed. -/
theorem links_of_script {d : Delivery} (hb : b.link = .awaited)
    (hes : es.filter LogEvent.ofStream = d.script) :
    ∃ a l o, (b.history es).map link =
      List.replicate a .awaited ++ List.replicate l .live ++
        List.replicate o (.closed d.done?) := by
  cases d with
  | awaited =>
    refine ⟨es.length, 0, 0, ?_⟩
    rw [links_of_pages b hes, hb]
    simp
  | refused =>
    have hends : b.link.apply .disconnected = .closed none := by rw [hb]; rfl
    obtain ⟨n, o, hlinks⟩ := links_of_end (by simp) hends hes
    refine ⟨n, 0, o, ?_⟩
    rw [hlinks, hb, List.replicate_zero, List.append_nil]
    rfl
  | opened octets ended =>
    obtain ⟨n, b', rest, hb', hrest, hlinks⟩ := links_of_cons b hes
    rw [hb] at hb' hlinks
    have hending : ∀ e ∈ if (Delivery.opened octets ended).isOver then [LogEvent.disconnected]
        else [], e = .disconnected := by
      split <;> simp
    obtain ⟨l, o, hlive⟩ := links_of_live hending hb' hrest
    refine ⟨n, l + 1, o, ?_⟩
    rw [hlinks, hlive, hb', Delivery.done?_opened, List.append_assoc]
    rfl

end Phases

/-! ## A run goes on -/

/-- Whether an event ends the run that is under way. -/
def Event.endsRun : Event → Bool
  | .start _ | .dispose => true
  | .loadEarlier | .opened _ _ | .chunk _ _ | .ended _ | .page _ _ => false

/-- The stream that an output opens: its number and its job. -/
def Output.openStream? : Output → Option (Nat × String)
  | .openStream request job => some (request, job)
  | .fetchPage .. | .publish _ | .loaded _ _ => none

/-- A run goes on from one feed to another, with what has come of its stream before and after: no
stream is opened, and the log is told of some events, of which those from the stream continue the
script. -/
structure GoesOn (id : Nat) (f : Feed) (d : Delivery) (g : Feed) (d' : Delivery) (out : List Output)
    (told : List LogEvent) : Prop where
  listens : ∃ r, Listens g r id d'
  script : d.script ++ told.filter LogEvent.ofStream = d'.script
  value : g.cell.value = f.cell.value.applyAll told
  published : out.filterMap Output.published? = f.cell.value.history told
  opened : out.filterMap Output.openStream? = []

section GoesOn

variable {id : Nat} {f g : Feed} {r : Run} {d d' : Delivery} {e : Event}

/-- A run in which the log is told of nothing goes on, whatever requests come and go. -/
theorem Listens.goesOn (h : Listens f r id d) (hrun : g.run = f.run) (hcell : g.cell = f.cell)
    {out : List Output} (hpublished : out.filterMap Output.published? = [])
    (hopened : out.filterMap Output.openStream? = []) : GoesOn id f d g d out [] where
  listens := ⟨r, hrun.trans h.run, by rw [hcell]; exact h.isCurrent, h.stage⟩
  script := List.append_nil _
  value := by rw [hcell]; rfl
  published := hpublished
  opened := hopened

theorem GoesOn.trans {g' : Feed} {d'' : Delivery} {out out' : List Output}
    {told told' : List LogEvent} (h : GoesOn id f d g d' out told)
    (h' : GoesOn id g d' g' d'' out' told') :
    GoesOn id f d g' d'' (out ++ out') (told ++ told') where
  listens := h'.listens
  script := by rw [List.filter_append, ← List.append_assoc, h.script, h'.script]
  value := by rw [h'.value, h.value, LogBuffer.applyAll_append]
  published := by
    rw [List.filterMap_append, h.published, h'.published, h.value, LogBuffer.history_append]
  opened := by rw [List.filterMap_append, h.opened, h'.opened, List.append_nil]

theorem filterMap_openStream? (bs : List LogBuffer) :
    (bs.map .publish).filterMap Output.openStream? = [] := by
  rw [List.filterMap_map]
  exact List.filterMap_eq_nil_iff.2 fun _ _ ↦ rfl

/-- What comes of a stream lets its run go on. -/
theorem Listens.goesOn_of_stream (h : Listens f r id d) {request : Nat}
    (he : e.stream? = some request) :
    ∃ told, GoesOn id f d (f.step e).1 (d.add id e) (f.step e).2 told := by
  obtain ⟨told, hscript, hstep⟩ := h.tells he
  have hof : told.filter LogEvent.ofStream = told := by
    refine List.filter_eq_self.2 fun e' he' ↦ (d.add id e).ofStream_script e' ?_
    rw [← hscript]
    exact List.mem_append_right _ he'
  refine ⟨told, ?_⟩
  rw [hstep]
  exact ⟨⟨_, h.advance _ told⟩, by rw [hof, hscript], rfl, filterMap_published? _,
    filterMap_openStream? _⟩

/-- When a page comes, the log is told of it, unless it cannot be read or comes too late. -/
theorem Listens.goesOn_of_received (h : Listens f r id d) (c : PageCall) (reply : Reply) :
    ∃ told, GoesOn id f d (f.received c reply).1 d (f.received c reply).2 told ∧
      (told = [] ∨ ∃ page, reply.read = .ok page ∧ told = [.backfill page]) := by
  simp only [received]
  split
  next =>
    refine ⟨[], ?_, .inl rfl⟩
    apply h.goesOn <;> rfl
  next page hpage =>
    by_cases hw : f.cell.isCurrent c.writer
    · refine ⟨[.backfill page], ?_, .inr ⟨page, hpage, rfl⟩⟩
      simp only [Cell.update_of_current _ hw]
      exact ⟨⟨r, h.run, h.isCurrent, h.stage⟩, List.append_nil _, rfl, rfl, rfl⟩
    · rw [Bool.not_eq_true] at hw
      refine ⟨[], ?_, .inl rfl⟩
      simp only [Cell.update_of_stale _ hw]
      apply h.goesOn <;> rfl

/-- Whatever else happens in a run, the log is told of a page or of nothing. -/
theorem Listens.goesOn_of_page (h : Listens f r id d) (he : e.endsRun = false)
    (hstream : e.stream? = none) :
    ∃ told, GoesOn id f d (f.step e).1 d (f.step e).2 told ∧
      (told = [] ∨ ∃ request reply page, e = .page request reply ∧ reply.read = .ok page ∧
        told = [.backfill page]) := by
  cases e with
  | start | dispose => exact nomatch he
  | opened | chunk | ended => exact nomatch hstream
  | loadEarlier =>
    refine ⟨[], ?_, .inl rfl⟩
    simp only [step, loadEarlier]
    split <;> apply h.goesOn <;> rfl
  | page request reply =>
    simp only [step]
    split
    next c _ =>
      obtain ⟨told, hgoes, rfl | ⟨page, hpage, rfl⟩⟩ := h.goesOn_of_received c reply
      · exact ⟨[], hgoes, .inl rfl⟩
      · exact ⟨_, hgoes, .inr ⟨request, reply, page, rfl, hpage, rfl⟩⟩
    next =>
      refine ⟨[], ?_, .inl rfl⟩
      apply h.goesOn <;> rfl

/-- Until it is ended, a run goes on. -/
theorem Listens.goesOn_step (h : Listens f r id d) (he : e.endsRun = false) :
    ∃ told, GoesOn id f d (f.step e).1 (d.add id e) (f.step e).2 told := by
  cases hstream : e.stream? with
  | some request => exact h.goesOn_of_stream hstream
  | none =>
    obtain ⟨told, hgoes, -⟩ := h.goesOn_of_page he hstream
    have hadd : d.add id e = d := Delivery.add_of_ne (by rw [hstream]; exact nofun)
    rw [hadd]
    exact ⟨told, hgoes⟩

/-- Over whatever happens until it is ended, a run goes on. -/
theorem Listens.goesOn_run (h : Listens f r id d) {es : List (Nat × Event)}
    (hes : ∀ x ∈ es, x.2.endsRun = false) :
    ∃ told, GoesOn id f d (Machine.after machine f es) (d.addAll id es)
      ((Machine.outputs machine f es).map (·.2)) told := by
  induction es generalizing f r d with
  | nil =>
    refine ⟨[], ?_⟩
    apply h.goesOn <;> rfl
  | cons x es ih =>
    obtain ⟨now, e⟩ := x
    obtain ⟨told, hstep⟩ := h.goesOn_step (hes _ List.mem_cons_self)
    obtain ⟨r', h'⟩ := hstep.listens
    obtain ⟨more, hrun⟩ := ih h' fun y hy ↦ hes y (List.mem_cons_of_mem _ hy)
    refine ⟨told ++ more, ?_⟩
    rw [Machine.map_outputs_cons]
    exact hstep.trans hrun

/-- When a run is over, nothing of its stream changes anything, and only pages change the log. -/
theorem Listens.step_after_over (h : Listens g r id d) (hover : d.isOver)
    (he : e.endsRun = false) :
    (e.stream?.isSome → g.step e = (g, [])) ∧
      ((g.step e).1.cell.value = g.cell.value ∨
        ∃ request reply page, e = .page request reply ∧ reply.read = .ok page ∧
          (g.step e).1.cell.value = g.cell.value.apply (.backfill page)) := by
  cases hstream : e.stream? with
  | some request =>
    have hstep : g.step e = (g, []) := h.step_of_isOver hover hstream
    refine ⟨fun _ ↦ hstep, .inl ?_⟩
    rw [hstep]
  | none =>
    refine ⟨fun hsome ↦ absurd hsome Bool.false_ne_true, ?_⟩
    obtain ⟨told, hgoes, rfl | ⟨request, reply, page, rfl, hpage, rfl⟩⟩ :=
      h.goesOn_of_page he hstream
    · exact .inl hgoes.value
    · exact .inr ⟨request, reply, page, rfl, hpage, hgoes.value⟩

end GoesOn

end Feed

end JobWatch

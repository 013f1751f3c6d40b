import JobWatch.Proofs.Logs.Cursor
import JobWatch.Proofs.Logs.Following

/-!
# A request for earlier lines

A request for earlier lines is under way while the stream goes on. The feed notes that it has been
sent and nothing else: what comes of the stream meanwhile is taken up as if nobody had asked, and
the answer finds the log as the stream has left it (`request_under_way`). An answer that is no page
leaves even the cursor where it was, since only a page moves it, so the next request is the same.

Any feed that has a job listens to a stream of which some part has come, whatever has happened
before (`staysOn_after`); what the stream does next is known from that alone.
-/

namespace JobWatch

open LogBuffer in
/-- What a stream tells a log of adds lines at its end only. -/
theorem LogBuffer.lines_prefix_applyAll {b : LogBuffer} (h : Sound b) {es : List LogEvent}
    (hes : ∀ e ∈ es, e.ofStream = true) : b.lines <+: (b.applyAll es).lines := by
  induction es generalizing b with
  | nil => exact List.prefix_rfl
  | cons e es ih =>
    have hstep : b.lines <+: (b.apply e).lines := by
      rw [lines_apply_of_ofStream h (hes _ List.mem_cons_self)]
      exact List.prefix_append ..
    exact hstep.trans (ih (h.apply e) fun e' he' ↦ hes e' (List.mem_cons_of_mem _ he'))

@[simp] theorem LogBuffer.jobId_applyAll (b : LogBuffer) (es : List LogEvent) :
    (b.applyAll es).jobId = b.jobId := by
  induction es generalizing b with
  | nil => rfl
  | cons e es ih => rw [applyAll_cons, ih, jobId_apply]

namespace Feed

variable {f : Feed} {job : String} {e : Event}

/-! ## A feed on its job -/

/-- Until it is told otherwise a feed keeps its right to write. -/
theorem writer_step (f : Feed) (he : e.endsRun = false) :
    (f.step e).1.writer = f.writer ∧ (f.step e).1.cell.epoch = f.cell.epoch := by
  rcases step_cases f e with ⟨job, rfl⟩ | rfl | rfl | hc
  · exact nomatch he
  · exact nomatch he
  · simp only [Feed.step, loadEarlier]
    split <;> exact ⟨rfl, rfl⟩
  · exact ⟨hc.writer, hc.epoch⟩

/-- A feed follows the log of a job: it listens to a stream, and what has come of that, with pages
in between, is what its log was told of. -/
structure StaysOn (job : String) (f : Feed) : Prop where
  listens : ∃ r id d told, Listens f r id d ∧ told.filter LogEvent.ofStream = d.script ∧
    f.cell.value = (LogBuffer.forJob job).applyAll told
  writer : f.writer.isSome

theorem staysOn_start (f : Feed) (job : String) : StaysOn job (f.start job).1 where
  listens := ⟨_, _, _, [], Listens.start f job, rfl, rfl⟩
  writer := rfl

/-- Until it is told otherwise a feed stays on its job. -/
theorem StaysOn.step (h : StaysOn job f) (he : e.endsRun = false) : StaysOn job (f.step e).1 where
  listens := by
    obtain ⟨r, id, d, told, hlistens, hscript, hvalue⟩ := h.listens
    obtain ⟨more, hgoes⟩ := hlistens.goesOn_step he
    obtain ⟨r', hlistens'⟩ := hgoes.listens
    refine ⟨r', id, d.add id e, told ++ more, hlistens', ?_, ?_⟩
    · rw [List.filter_append, hscript, hgoes.script]
    · rw [hgoes.value, hvalue, LogBuffer.applyAll_append]
  writer := by
    rw [(writer_step f he).1]
    exact h.writer

theorem StaysOn.sound (h : StaysOn job f) : LogBuffer.Sound f.cell.value := by
  obtain ⟨_, _, _, told, -, -, hvalue⟩ := h.listens
  rw [hvalue]
  exact (LogBuffer.Sound.initial (some job)).applyAll told

theorem StaysOn.jobId (h : StaysOn job f) : f.cell.value.jobId = some job := by
  obtain ⟨_, _, _, told, -, -, hvalue⟩ := h.listens
  rw [hvalue, LogBuffer.jobId_applyAll]
  rfl

/-- The log of a feed says of its connection what has come of its stream. -/
theorem StaysOn.link (h : StaysOn job f) :
    ∃ r id d, Listens f r id d ∧ f.cell.value.link = d.link := by
  obtain ⟨r, id, d, told, hlistens, hscript, hvalue⟩ := h.listens
  refine ⟨r, id, d, hlistens, ?_⟩
  rw [hvalue, LogBuffer.link_applyAll, hscript]
  exact foldl_script d

/-- A log that tells how the build has ended is closed. -/
theorem StaysOn.isClosed_of_isDone (h : StaysOn job f) (hdone : f.cell.value.isDone) :
    f.cell.value.isClosed := by
  obtain ⟨_, _, d, -, hlink⟩ := h.link
  have hd : d.link.isDone := (congrArg Link.isDone hlink).symm.trans hdone
  refine (congrArg Link.isClosed hlink).trans ?_
  cases d with
  | awaited | refused => cases hd
  | opened octets ended =>
    simp only [Delivery.link] at hd ⊢
    split at hd
    next hover => rw [if_pos hover]; rfl
    next => cases hd

/-! ## Any feed -/

/-- A feed that may write a log is on a job, and may write since the latest start. -/
structure Engaged (f : Feed) : Prop where
  orderly : Orderly f
  current : ∀ w, f.writer = some w → f.cell.isCurrent w
  staysOn : ∀ w, f.writer = some w → ∃ job, StaysOn job f

theorem Engaged.new (limit : Nat) : Engaged (new limit) :=
  ⟨.new limit, fun _ hw ↦ (nomatch hw), fun _ hw ↦ (nomatch hw)⟩

/-- Whatever happens, a feed stays engaged. -/
theorem Engaged.step (h : Engaged f) (e : Event) : Engaged (f.step e).1 := by
  cases he : e.endsRun with
  | true =>
    cases e with
    | start job =>
      refine ⟨h.orderly.step _, fun w hw ↦ ?_, fun _ _ ↦ ⟨job, staysOn_start f job⟩⟩
      obtain rfl := Option.some.inj hw
      exact f.cell.isCurrent_reset _
    | dispose => exact ⟨h.orderly.step _, fun _ hw ↦ (nomatch hw), fun _ hw ↦ (nomatch hw)⟩
    | loadEarlier | opened | chunk | ended | page => exact nomatch he
  | false =>
    obtain ⟨hwriter, hepoch⟩ := writer_step f he
    refine ⟨h.orderly.step e, fun w hw ↦ ?_, fun w hw ↦ ?_⟩
    · rw [Cell.isCurrent, hepoch]
      exact h.current w (hwriter ▸ hw)
    · obtain ⟨job, hstays⟩ := h.staysOn w (hwriter ▸ hw)
      exact ⟨job, hstays.step he⟩

theorem engaged_after (limit : Nat) (es : List (Nat × Event)) :
    Engaged (Machine.after machine (.new limit) es) :=
  Machine.after_of_every_step (fun _ _ e h ↦ h.step e) (.new limit) es

/-! ## One request -/

/-- A request for earlier lines goes out for the job of the log, with its cursor. -/
theorem mem_loadEarlier {request limit : Nat} {cursor : Option String}
    (h : Output.fetchPage request job cursor limit ∈ (f.step .loadEarlier).2) :
    ∃ w, f.writer = some w ∧ f.cell.value.jobId = some job ∧ request = f.requests ∧
      cursor = f.cell.value.cursor ∧ limit = f.limit ∧
      f.step .loadEarlier =
        ({ f with calls := f.calls ++ [⟨request, job, w⟩], requests := request + 1 },
          [.fetchPage request job cursor limit]) := by
  simp only [step, loadEarlier] at h ⊢
  split at h
  next w job' hw hjob =>
    obtain ⟨rfl, rfl, rfl, rfl⟩ := Output.fetchPage.inj (List.mem_singleton.1 h)
    exact ⟨w, hw, hjob, rfl, rfl, rfl, rfl⟩
  next => simp at h

section Answer

variable {c : PageCall} {before : List PageCall} (reply : Reply)
  (hcalls : f.calls = before ++ [c]) (hbefore : ∀ x ∈ before, x.request < c.request)

include hcalls hbefore

/-- The answer to the latest request ends that request and none of the others. -/
theorem step_page_of_last :
    f.step (.page c.request reply) = f.received c reply ∧
      f.calls.filter (·.request != c.request) = before := by
  have hnone : before.find? (·.request == c.request) = none := by
    refine List.find?_eq_none.2 fun x hx ↦ ?_
    simpa using Nat.ne_of_lt (hbefore x hx)
  have hfind : f.calls.find? (·.request == c.request) = some c := by
    rw [hcalls, List.find?_append, hnone]
    simp
  have hkept : before.filter (·.request != c.request) = before := by
    refine List.filter_eq_self.2 fun x hx ↦ ?_
    simpa using Nat.ne_of_lt (hbefore x hx)
  refine ⟨by simp only [step, hfind], ?_⟩
  rw [hcalls, List.filter_append, hkept]
  simp

/-- An answer that is no page changes nothing. -/
theorem step_page_of_error {error : ApiError}
    (hread : (reply.read : Except ApiError LogsPage) = .error error) :
    f.step (.page c.request reply) =
      ({ f with calls := before }, [.loaded c.request (.error error)]) := by
  obtain ⟨hstep, hkept⟩ := step_page_of_last reply hcalls hbefore
  simp only [hstep, received, hread, hkept]

/-- A page goes to the log as it is when the page comes. -/
theorem step_page_of_page {page : LogsPage} (hwriter : f.cell.isCurrent c.writer)
    (hread : (reply.read : Except ApiError LogsPage) = .ok page) :
    let b := f.cell.value.apply (.backfill page)
    f.step (.page c.request reply) =
      ({ f with calls := before, cell := ⟨b, f.cell.epoch, f.cell.version + 1⟩ },
        [.publish b, .loaded c.request (.ok (f.cell.value.added (.backfill page)))]) := by
  obtain ⟨hstep, hkept⟩ := step_page_of_last reply hcalls hbefore
  simp only [hstep, received, hread, hkept, Cell.update_of_current _ hwriter]

end Answer

/-- What the stream does in a run tells the log of the same events whatever requests for earlier
lines are under way, and leaves those requests alone. -/
theorem Listens.run_beside {r : Run} {id : Nat} {d : Delivery} (h : Listens f r id d)
    {es : List (Nat × Event)} (hes : ∀ x ∈ es, ∃ request, x.2.stream? = some request) :
    ∃ (stage : Stage) (told : List LogEvent), (∀ e ∈ told, e.ofStream) ∧
      Machine.after machine f es = (f.advance r stage told).1 ∧ ∀ calls requests,
        let g : Feed := { f with calls := calls, requests := requests }
        Machine.after machine g es =
            { Machine.after machine f es with calls := calls, requests := requests } ∧
          (Machine.outputs machine g es).map (·.2) = (Machine.outputs machine f es).map (·.2) := by
  obtain ⟨told, hscript, hrun⟩ := h.run_of_stream hes
  obtain ⟨hafter, houtputs⟩ := Prod.mk.inj hrun
  refine ⟨(d.addAll id es).stage id, told, fun e he ↦ ?_, hafter, fun calls requests ↦ ?_⟩
  · refine (d.addAll id es).ofStream_script e ?_
    rw [← hscript]
    exact List.mem_append_right _ he
  · intro g
    have hg : Listens g r id d := ⟨h.run, h.isCurrent, h.stage⟩
    obtain ⟨told', hscript', hrun'⟩ := hg.run_of_stream hes
    obtain rfl : told = told' := List.append_cancel_left (hscript.trans hscript'.symm)
    obtain ⟨hafter', houtputs'⟩ := Prod.mk.inj hrun'
    exact ⟨by rw [hafter', hafter], by rw [houtputs', houtputs]⟩

/-- A request for earlier lines under way.

Whatever has happened to a feed, let a request for earlier lines go out, let anything come of the
stream, and let then the request be answered. What comes of the stream meanwhile has the same
effects as if nothing had been asked for. If the answer is no page, because the request failed or
because of what is in the body, the error is given out and nothing is published; but for the number
of requests the feed is then as the stream alone has left it, and the next request has the same
cursor. If it is a page, the page is applied to the log as the stream has left it, and the number
that is given out is that of the lines by which the log grows. -/
theorem request_under_way (most : Nat) (es : List (Nat × Event)) {request limit : Nat}
    {job : String} {cursor : Option String} {live : List (Nat × Event)} (reply : Reply) :
    let f := Machine.after machine (new most) es
    let asking := f.step .loadEarlier
    .fetchPage request job cursor limit ∈ asking.2 →
    (∀ x ∈ live, ∃ stream, x.2.stream? = some stream) →
    let asked := Machine.after machine asking.1 live
    let alone := Machine.after machine f live
    let answered := asked.step (.page request reply)
    (Machine.outputs machine asking.1 live).map (·.2) =
        (Machine.outputs machine f live).map (·.2) ∧
      asked.cell = alone.cell ∧
      (∀ error, (reply.read : Except ApiError LogsPage) = .error error →
        answered = ({ alone with requests := request + 1 }, [.loaded request (.error error)]) ∧
        (answered.1.step .loadEarlier).2 = [.fetchPage (request + 1) job cursor limit]) ∧
      (∀ page, (reply.read : Except ApiError LogsPage) = .ok page →
        ∃ b added, b = alone.cell.value.apply (.backfill page) ∧ answered.1.cell.value = b ∧
          answered.2 = [.publish b, .loaded request (.ok added)] ∧
          b.lines.length = added + alone.cell.value.lines.length) := by
  intro f asking hask hlive asked alone answered
  obtain ⟨w, hw, hjob, rfl, rfl, rfl, hasking⟩ := mem_loadEarlier hask
  have hengaged : Engaged f := engaged_after most es
  obtain ⟨_, hstays⟩ := hengaged.staysOn w hw
  obtain ⟨r, id, d, -, hlistens, -⟩ := hstays.listens
  obtain ⟨stage, told, hof, halone, hbeside⟩ := hlistens.run_beside hlive
  obtain ⟨hasked, hout⟩ := hbeside (f.calls ++ [⟨f.requests, job, w⟩]) (f.requests + 1)
  have hfirst : asking.1 = { f with
      calls := f.calls ++ [⟨f.requests, job, w⟩], requests := f.requests + 1 } :=
    congrArg Prod.fst hasking
  rw [← hfirst] at hasked hout
  have hasked : asked = { alone with
      calls := f.calls ++ [⟨f.requests, job, w⟩], requests := f.requests + 1 } := hasked
  have halone : alone = (f.advance r stage told).1 := halone
  have hcalls : asked.calls = f.calls ++ [⟨f.requests, job, w⟩] := by rw [hasked]
  have hcurrent : asked.cell.isCurrent w := by
    rw [hasked, halone]
    exact hengaged.current w hw
  refine ⟨hout, by rw [hasked], fun error hread ↦ ?_, fun page hread ↦ ?_⟩
  · have hanswered : answered = ({ alone with requests := f.requests + 1 },
        [.loaded f.requests (.error error)]) := by
      refine (step_page_of_error reply hcalls hengaged.orderly.call_lt hread).trans ?_
      rw [hasked, halone]
      rfl
    refine ⟨hanswered, ?_⟩
    have hcursor : alone.cell.value.cursor = f.cell.value.cursor := by
      rw [halone]
      exact LogBuffer.cursor_congr (LogBuffer.paging_applyAll hof)
    have hjob' : alone.cell.value.jobId = some job := by
      rw [halone]
      exact (LogBuffer.jobId_applyAll ..).trans hjob
    have hw' : alone.writer = some w := by rw [halone]; exact hw
    have hlimit : alone.limit = f.limit := by rw [halone]; rfl
    simp only [hanswered, step, loadEarlier, hw', hjob', hcursor, hlimit]
  · have hanswered := step_page_of_page reply hcalls hengaged.orderly.call_lt hcurrent hread
    have hsound : LogBuffer.Sound alone.cell.value := by
      rw [halone]
      exact hstays.sound.applyAll told
    have hcell : asked.cell = alone.cell := by rw [hasked]
    rw [hcell] at hanswered
    refine ⟨_, _, rfl, congrArg (·.1.cell.value) hanswered, congrArg Prod.snd hanswered, ?_⟩
    rw [LogBuffer.added_eq_growth hsound, LogBuffer.lines_apply hsound]
    simp only [List.length_append, LogBuffer.back]
    omega

/-- A line comes live while a page is under way. When the request times out, the next one is the
same; when the page comes, and has the line as well, it brings the other line. -/
theorem page_overtaken_by_live_line :
    let es := [(0, .start "j1"), (1, .opened 0 (.ok ()))]
    let live := [(2, .chunk 0
      "event:log\ndata:[\"b\",\"1970-01-01T00:00:01Z\",\"stdout\",\"\"]\n\n".toUTF8.toList)]
    let body := "[[[\"a\",\"1970-01-01T00:00:00Z\",\"stdout\",\"\"],
      [\"b\",\"1970-01-01T00:00:01Z\",\"stdout\",\"\"]],false]".toUTF8.toList
    let f := Machine.after machine (new 100) es
    let asked := Machine.after machine (f.step .loadEarlier).1 live
    let timedOut := asked.step (.page 1 (.error .timeout))
    let answered := asked.step (.page 1 (.ok body))
    .fetchPage 1 "j1" none 100 ∈ (f.step .loadEarlier).2 ∧
      (∀ x ∈ live, ∃ stream, x.2.stream? = some stream) ∧
      timedOut.2 = [.loaded 1 (.error .timeout)] ∧ timedOut.1.cell.value.ids = ["b"] ∧
      (timedOut.1.step .loadEarlier).2 = [.fetchPage 2 "j1" none 100] ∧
      answered.2 = [.publish answered.1.cell.value, .loaded 1 (.ok 1)] ∧
      answered.1.cell.value.ids = ["a", "b"] := by
  intro es live body f asked timedOut answered
  have hask : .fetchPage 1 "j1" none 100 ∈ (f.step .loadEarlier).2 := List.mem_singleton.2 rfl
  have hlive : ∀ x ∈ live, ∃ stream, x.2.stream? = some stream := by
    intro x hx
    obtain rfl := List.mem_singleton.1 hx
    exact ⟨0, rfl⟩
  obtain ⟨-, -, herror, -⟩ := request_under_way 100 es (.error .timeout) hask hlive
  obtain ⟨-, -, -, hpage⟩ := request_under_way 100 es (.ok body) hask hlive
  obtain ⟨htimedOut, hagain⟩ := herror .timeout rfl
  have hok : (Reply.read (.ok body) : Except ApiError LogsPage).isOk := by decide +kernel
  cases hread : (Reply.read (.ok body) : Except ApiError LogsPage) with
  | error error =>
    rw [hread] at hok
    exact nomatch hok
  | ok page =>
    obtain ⟨_, added, -, rfl, hout, hgrows⟩ := hpage page hread
    have hbefore : (Machine.after machine f live).cell.value.lines.length = 1 := by decide +kernel
    have hafter : answered.1.cell.value.lines.length = 2 := by decide +kernel
    obtain rfl : added = 1 := Nat.add_right_cancel ((hbefore ▸ hgrows).symm.trans hafter)
    refine ⟨hask, hlive, congrArg Prod.snd htimedOut, ?_, hagain, hout, ?_⟩
    · decide +kernel
    · decide +kernel

end Feed

end JobWatch

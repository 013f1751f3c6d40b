import JobWatch.Command.Run
import JobWatch.Proofs.Logs.PageCall
import JobWatch.Proofs.Session.Following

/-!
# A command that follows a log

A command that follows a log remembers no more of it than how many of its lines are printed, and it
looks at the log only when it has its turn, whatever has been published in between. So a run is
taken apart here into moves (`Run.Move`): the session goes on behind the command, or the command has
its turn. A step of the command is such a move with at most one turn after it (`step_session`), and
any other order of moves is another way to see some of the published states and not the rest. The
status and the log share nothing, so it is no restriction that a turn sees both at one moment.

What is printed is a prefix of what is held, because no page is under way once the command follows
(`Attends.calls`): lines then come at the end only. And a look that sees the log closed has seen all
of it, because nothing comes after that.
-/

namespace JobWatch

namespace Feed

variable {f : Feed} {job : String} {e : Event}

/-! ## Without a page under way -/

/-- What comes while no page is under way adds lines at the end only, and no page is under way after
it; to a closed log nothing comes. -/
theorem StaysOn.grows (h : StaysOn job f) (hcalls : f.calls = []) (he : e.endsRun = false)
    (hload : e ≠ .loadEarlier) :
    f.cell.value.lines <+: (f.step e).1.cell.value.lines ∧ (f.step e).1.calls = [] ∧
      (f.cell.value.isClosed → (f.step e).1.cell.value = f.cell.value) := by
  cases hstream : e.stream? with
  | some request =>
    obtain ⟨r, id, d, hlistens, hlink⟩ := h.link
    obtain ⟨told, hscript, hstep⟩ := hlistens.tells hstream
    refine ⟨?_, by rw [hstep]; exact hcalls, fun hclosed ↦ ?_⟩
    · rw [hstep]
      refine LogBuffer.lines_prefix_applyAll h.sound fun e' he' ↦
        (d.add id e).ofStream_script e' ?_
      rw [← hscript]
      exact List.mem_append_right _ he'
    · have hover : d.isOver := by
        rw [← d.isClosed_link, ← hlink]
        exact hclosed
      rw [hlistens.step_of_isOver hover hstream]
  | none =>
    cases e with
    | start | dispose => exact nomatch he
    | opened | chunk | ended => exact nomatch hstream
    | loadEarlier => exact absurd rfl hload
    | page request reply =>
      have hstep : f.step (.page request reply) = (f, []) := by simp [Feed.step, hcalls]
      rw [hstep]
      exact ⟨List.prefix_rfl, hcalls, fun _ ↦ rfl⟩

/-! ## One page under way -/

/-- A feed on its job asks for a page when it is told to. -/
theorem StaysOn.step_loadEarlier (h : StaysOn job f) (hcalls : f.calls = []) :
    ∃ c, (f.step .loadEarlier).1.calls = [c] := by
  obtain ⟨w, hw⟩ := Option.isSome_iff_exists.1 h.writer
  refine ⟨⟨f.requests, job, w⟩, ?_⟩
  simp only [Feed.step, loadEarlier, hw, h.jobId, hcalls, List.nil_append]

/-- A page that is under way stays so until it comes; and if it can be read then, that is told. -/
theorem StaysOn.awaits (h : StaysOn job f) {c : PageCall} (hcalls : f.calls = [c])
    (he : e.endsRun = false) (hload : e ≠ .loadEarlier)
    (hread : ∀ request reply, e = .page request reply → ∃ page : LogsPage, reply.read = .ok page) :
    let told := ((f.step e).2.map Session.Output.logs).findSome? Session.Output.loaded?
    told = none ∧ (f.step e).1.calls = [c] ∨
      ∃ added, told = some (.ok added) ∧ (f.step e).1.calls = [] := by
  cases hstream : e.stream? with
  | some request =>
    obtain ⟨r, id, d, hlistens, -⟩ := h.link
    obtain ⟨told, -, hstep⟩ := hlistens.tells hstream
    rw [hstep]
    refine .inl ⟨?_, hcalls⟩
    simp only [advance, List.map_map, List.findSome?_eq_none_iff, List.mem_map]
    rintro _ ⟨b, -, rfl⟩
    rfl
  | none =>
    cases e with
    | start | dispose => cases he
    | opened | chunk | ended => cases hstream
    | loadEarlier => exact absurd rfl hload
    | page request reply =>
      obtain ⟨page, hpage⟩ := hread request reply rfl
      by_cases hrequest : c.request = request
      · subst hrequest
        have hstep : f.step (.page c.request reply) = f.received c reply := by
          simp [Feed.step, hcalls]
        rw [hstep]
        refine .inr ?_
        simp only [received, hpage, hcalls]
        split
        next cell added _ => exact ⟨added, rfl, by simp⟩
        next => exact ⟨0, rfl, by simp⟩
      · have hstep : f.step (.page request reply) = (f, []) := by
          simp [Feed.step, hcalls, hrequest]
        rw [hstep]
        exact .inl ⟨rfl, hcalls⟩

end Feed

/-- Whether an event may come behind a command that waits for its turn: it leaves the poller and the
feed on their jobs, and asks for no page. -/
def Session.Event.isBackground : Session.Event → Bool
  | .switchJob _ => false
  | .status e => !e.endsRun
  | .logs .loadEarlier => false
  | .logs e => !e.endsRun
  | .syncPreview | .preview _ => true

/-- To bring the preview up to date touches neither the status nor the log. -/
theorem Session.syncPreview_frame (s : Session) (now : Nat) :
    (s.syncPreview now).1.status = s.status ∧ (s.syncPreview now).1.logs = s.logs := by
  rcases s.syncPreview_cases now with heq | ⟨job, e, -, -, heq⟩ <;> rw [heq] <;> exact ⟨rfl, rfl⟩

namespace Run

/-! ## Moves -/

/-- What moves a command: its session goes on, or the command has its turn. -/
inductive Move where
  | happens (e : Session.Event)
  | looks

/-- Asks for a page of earlier lines as `loadEarlier` does, and leaves the first look to a turn. -/
def askEarlier (r : Run) (now : Nat) : Nat → Run × List Output
  | 0 => ({ r with stage := .following }, [])
  | more + 1 =>
    if r.session.logs.cell.value.hasEarlierLines then
      let (r, out) := { r with stage := .loadingEarlier more }.pass now (.logs .loadEarlier)
      (r, out.map .session)
    else ({ r with stage := .following }, [])

/-- What a command does at once about what came out of its session. -/
def heed (r : Run) (now : Nat) (out : List Session.Output) : Run × List Output :=
  match r.stage with
  | .loadingEarlier more =>
    match out.findSome? Session.Output.loaded? with
    | some (.ok _) => r.askEarlier now more
    | some (.error e) => r.finish [] (requestFailed "Failed to load earlier log lines" e)
    | none => (r, [])
  | .following =>
    (r, (out.filterMap Session.Output.notice?).map fun s ↦ .say (PreviewHost.notice s))
  | _ => (r, [])

/-- One move. After its end nothing happens to a command. -/
def move (canOpen : String → Bool) (now : Nat) (r : Run) : Move → Run × List Output
  | .happens e =>
    if r.ending?.isSome then (r, [])
    else
      let (r, out) := r.pass now e
      let (r, more) := r.heed now out
      (r, out.map .session ++ more)
  | .looks => if r.stage = .following then r.look canOpen now else (r, [])

/-- A command for the log or for everything of a job, before its first look. Earlier lines are
loaded for the log only. -/
def opened (timing : SessionTiming) (now : Nat) (goal : Goal) (job : String) (earlier : Nat) :
    Run × List Output :=
  let r : Run := ⟨goal, job, .new timing, .start, .start false, false, .following⟩
  match goal with
  | .watch =>
    let (r, out) := r.pass now (.switchJob (some job))
    (r, out.map .session)
  | _ =>
    let (r, out) := r.pass now (.logs (.start job))
    let (r, more) := r.askEarlier now earlier
    (r, out.map .session ++ more)

section Turns

variable (canOpen : String → Bool) (now : Nat)

def thenLook (x : Run × List Output) : Run × List Output :=
  let (r, out) := move canOpen now x.1 .looks
  (r, x.2 ++ out)

/-- Loading earlier lines is to ask for a page, and then a turn if none is asked for. -/
theorem loadEarlier_eq (r : Run) (pages : Nat) :
    r.loadEarlier canOpen now pages = thenLook canOpen now (r.askEarlier now pages) := by
  cases pages with
  | zero => rfl
  | succ more =>
    simp only [loadEarlier, askEarlier]
    split
    · simp [thenLook, move, pass]
    · rfl

/-- A command starts with a turn, if it has nothing to wait for. -/
theorem start_eq_opened {goal : Goal} (hgoal : goal = .logs ∨ goal = .watch)
    (timing : SessionTiming) (job : String) (earlier : Nat) :
    start canOpen timing now goal job earlier =
      thenLook canOpen now (opened timing now goal job earlier) := by
  rcases hgoal with rfl | rfl
  · simp only [start, opened, loadEarlier_eq, thenLook, List.append_assoc]
  · rfl

/-- What a command does after its session is what it does at once, with a turn after it or without.
-/
theorem afterSession_cases (r : Run) (out : List Session.Output) :
    r.afterSession canOpen now out = r.heed now out ∨
      r.afterSession canOpen now out = thenLook canOpen now (r.heed now out) := by
  cases hstage : r.stage with
  | fetchingStatus | ended => exact .inl (by simp only [afterSession, heed, hstage])
  | loadingEarlier more =>
    simp only [afterSession, heed, hstage]
    cases out.findSome? Session.Output.loaded? with
    | none => exact .inl rfl
    | some answer =>
      cases answer with
      | ok added => exact .inr (loadEarlier_eq ..)
      | error e => exact .inl rfl
  | following =>
    simp only [afterSession, heed, hstage]
    split
    · exact .inr (by simp only [thenLook, move, hstage, if_true])
    · exact .inl rfl

/-- A step of a command is a move of its session, with at most one turn after it. -/
theorem step_session {r : Run} (hr : r.ending? = none) (e : Session.Event) :
    ∃ turns : List Move, (turns = [] ∨ turns = [.looks]) ∧
      r.step canOpen now (.session e) =
        let moves := (Move.happens e :: turns).map (now, ·)
        (Machine.after (move canOpen) r moves,
          (Machine.outputs (move canOpen) r moves).map (·.2)) := by
  have hstep : r.step canOpen now (.session e) =
      let x := (r.pass now e).1.afterSession canOpen now (r.pass now e).2
      (x.1, (r.pass now e).2.map .session ++ x.2) := by
    simp [step, hr]
  have hmove : move canOpen now r (.happens e) =
      let x := (r.pass now e).1.heed now (r.pass now e).2
      (x.1, (r.pass now e).2.map .session ++ x.2) := by
    simp [move, hr]
  rcases afterSession_cases canOpen now (r.pass now e).1 (r.pass now e).2 with heq | heq
  · refine ⟨[], .inl rfl, ?_⟩
    simp only [List.map_cons, List.map_nil, Machine.after_cons, Machine.after_nil,
      Machine.map_outputs_cons, Machine.outputs_nil, List.append_nil, hmove, hstep, heq]
  · refine ⟨[.looks], .inr rfl, ?_⟩
    simp only [List.map_cons, List.map_nil, Machine.after_cons, Machine.after_nil,
      Machine.map_outputs_cons, Machine.outputs_nil, List.append_nil, hmove, hstep, heq, thenLook,
      List.append_assoc]

end Turns

/-! ## What a look shows and tells -/

def Output.logLine? : Output → Option LogLine
  | .say (.logLine line) => some line
  | _ => none

def logLines (out : List Output) : List LogLine := out.filterMap Output.logLine?

/-- The stream is closed, and where the status is followed as well, that is final. -/
def IsOver (r : Run) : Prop :=
  r.session.logs.cell.value.isClosed ∧
    (r.goal = .watch → r.session.status.cell.value.isTerminal)

/-- Nothing tells of a failure: of everything that is the status, and of a log its last event, which
has to have come. -/
def WentWell (r : Run) : Prop :=
  match r.goal with
  | .watch => r.session.status.cell.value.status ≠ .failed
  | _ => r.session.logs.cell.value.isDone ∧ r.session.logs.cell.value.doneStatus ≠ some .failed

/-- An ending that comes when all is over, and tells the truth. -/
structure EndsAs (r : Run) (ending : Ending) : Prop where
  isOver : r.IsOver
  success_iff : ending = .success ↔ r.WentWell
  failure_iff : (∃ f, ending = .failure f) ↔ ¬r.WentWell

/-- What a look does: the new lines are printed, and the command ends if all is over. -/
structure Looked (r : Run) (x : Run × List Output) : Prop where
  goal : x.1.goal = r.goal
  status : x.1.session.status = r.session.status
  logs : x.1.session.logs = r.session.logs
  printed : x.1.printer.printed = r.session.logs.cell.value.lines.length
  lines : logLines x.2 = r.session.logs.cell.value.lines.drop r.printer.printed
  stage : x.1.stage = r.stage ∧ ¬r.IsOver ∨ ∃ ending, x.1.stage = .ended ending ∧ r.EndsAs ending

/-- How a command ends says nothing but what its look has left alone. -/
theorem Looked.endsAs {r : Run} {x : Run × List Output} (h : Looked r x) {ending : Ending}
    (hends : r.EndsAs ending) : x.1.EndsAs ending := by
  have hover : x.1.IsOver ↔ r.IsOver := by simp only [IsOver, h.goal, h.status, h.logs]
  have hwell : x.1.WentWell ↔ r.WentWell := by simp only [WentWell, h.goal, h.status, h.logs]
  exact ⟨hover.2 hends.isOver, hends.success_iff.trans hwell.symm,
    hends.failure_iff.trans (not_congr hwell.symm)⟩

section Looks

variable {r : Run}

@[simp] theorem logLines_nil : logLines [] = [] := rfl

@[simp] theorem logLines_append (out more : List Output) :
    logLines (out ++ more) = logLines out ++ logLines more := List.filterMap_append

@[simp] theorem logLines_session (out : List Session.Output) :
    logLines (out.map .session) = [] := by
  simp [logLines, List.filterMap_map, Output.logLine?, Function.comp_def]

/-- A look at the log prints the lines that were not printed yet. -/
@[simp] theorem logLines_printLog (r : Run) :
    logLines r.printLog.2 = r.session.logs.cell.value.lines.drop r.printer.printed := by
  have hlines (lines : List LogLine) :
      (lines.map fun line ↦ Output.say (.logLine line)).filterMap Output.logLine? = lines := by
    simp [List.filterMap_map, Output.logLine?, Function.comp_def]
  simp only [printLog, LogPrinter.look, logLines, List.map_append, List.map_map,
    List.filterMap_append, Function.comp_def, hlines]
  split <;> simp [Output.logLine?]

/-- The host of a preview prints no lines of a log. -/
@[simp] theorem logLines_showPreview (canOpen : String → Bool) (r : Run) :
    logLines (r.showPreview canOpen).2 = [] := by
  have hsaid : ∀ s ∈ (r.host.look canOpen r.session.preview.cell.value).2.said,
      ∃ text, s = .text text := by
    simp only [PreviewHost.look, PreviewHost.showPreview]
    grind
  have hnone : ((r.host.look canOpen r.session.preview.cell.value).2.said.map Output.say).filterMap
      Output.logLine? = [] := by
    refine List.filterMap_eq_nil_iff.2 fun o ho ↦ ?_
    obtain ⟨s, hs, rfl⟩ := List.mem_map.1 ho
    obtain ⟨text, rfl⟩ := hsaid s hs
    rfl
  simp [showPreview, logLines, hnone, List.filterMap_map, Output.logLine?, Function.comp_def]

theorem EndsAs.success (hover : r.IsOver) (hwell : r.WentWell) : r.EndsAs .success :=
  ⟨hover, iff_of_true rfl hwell, by simp [hwell]⟩

theorem EndsAs.failure (hover : r.IsOver) (hill : ¬r.WentWell) (f : Failure) :
    r.EndsAs (.failure f) :=
  ⟨hover, iff_of_false nofun hill, iff_of_true ⟨f, rfl⟩ hill⟩

/-- What a look concludes: nothing as long as not all is over, and otherwise the truth, in words
that are no lines of the log. -/
def Concludes (r : Run) : Option (List Said × Ending) → Prop
  | none => ¬r.IsOver
  | some (said, ending) => logLines (said.map .say) = [] ∧ r.EndsAs ending

/-- A command for the log concludes by what the log says of its end. -/
theorem concludes_logs (hgoal : r.goal = .logs)
    (hdone : r.session.logs.cell.value.isDone → r.session.logs.cell.value.isClosed) :
    r.Concludes (LogPrinter.ending? r.job r.session.logs.cell.value) := by
  have hover : r.IsOver ↔ r.session.logs.cell.value.isClosed := by simp [IsOver, hgoal]
  have hwell : r.WentWell ↔ r.session.logs.cell.value.isDone ∧
      r.session.logs.cell.value.doneStatus ≠ some .failed := by
    simp only [WentWell, hgoal]
  unfold LogPrinter.ending?
  split
  next hd =>
    have hclosed : r.IsOver := hover.2 (hdone hd)
    split
    next hs => exact ⟨rfl, .failure hclosed (by simp [hwell, hs]) _⟩
    next hs => exact ⟨rfl, .success hclosed (by simp [hwell, hd, hs])⟩
    next hs => exact ⟨rfl, .success hclosed (by simp [hwell, hd, hs])⟩
  next hd =>
    split
    next hc => exact ⟨rfl, .failure (hover.2 hc) (by simp [hwell, hd]) _⟩
    next hc => exact fun h ↦ hc (hover.1 h)

/-- Ends a command that has printed something, if that is concluded. -/
def conclude (x : Run × List Output) : Option (List Said × Ending) → Run × List Output
  | none => x
  | some (said, ending) => ((x.1.finish said ending).1, x.2 ++ (x.1.finish said ending).2)

/-- A look that has printed what is new, and then concludes. -/
theorem looked_conclude {x : Run × List Output} {conclusion : Option (List Said × Ending)}
    (hx : x.1.goal = r.goal ∧ x.1.session.status = r.session.status ∧
      x.1.session.logs = r.session.logs ∧ x.1.stage = r.stage)
    (hprinted : x.1.printer.printed = r.session.logs.cell.value.lines.length)
    (hlines : logLines x.2 = r.session.logs.cell.value.lines.drop r.printer.printed)
    (h : r.Concludes conclusion) : Looked r (conclude x conclusion) := by
  obtain ⟨hgoal, hstatus, hlogs, hstage⟩ := hx
  cases conclusion with
  | none => exact ⟨hgoal, hstatus, hlogs, hprinted, hlines, .inl ⟨hstage, h⟩⟩
  | some conclusion =>
    obtain ⟨said, ending⟩ := conclusion
    obtain ⟨hsaid, hends⟩ : logLines (said.map .say) = [] ∧ r.EndsAs ending := h
    refine ⟨hgoal, hstatus, hlogs, hprinted, ?_, .inr ⟨ending, rfl, hends⟩⟩
    change logLines (x.2 ++ said.map .say) = _
    rw [logLines_append, hsaid, hlines, List.append_nil]

theorem looked_logs (hgoal : r.goal = .logs)
    (hdone : r.session.logs.cell.value.isDone → r.session.logs.cell.value.isClosed) :
    Looked r r.lookLogs := by
  have hlook : r.lookLogs = conclude r.printLog
      (LogPrinter.ending? r.job r.session.logs.cell.value) := by
    simp only [lookLogs, printLog]
    cases LogPrinter.ending? r.job r.session.logs.cell.value <;> rfl
  rw [hlook]
  exact looked_conclude ⟨rfl, rfl, rfl, rfl⟩ rfl (logLines_printLog r) (concludes_logs hgoal hdone)

/-- What a look at everything prints, before it concludes. -/
def showAll (canOpen : String → Bool) (r : Run) (now : Nat) : Run × List Output :=
  let t := r.session.status.cell.value
  let lost : List Output :=
    if t.connectionFailed && !r.offline then
      [.say (.warning "Lost connection to the build service; still retrying")]
    else []
  let (r, started) := { r with offline := t.connectionFailed }.pass now .syncPreview
  let (r, printed) := r.printLog
  let (r, shown) :=
    if r.session.preview.cell.value.jobId.isSome then r.showPreview canOpen else (r, [])
  (r, lost ++ started.map .session ++ printed ++ shown)

/-- How a look at everything concludes. -/
def endingOfAll? (r : Run) (now : Nat) : Option (List Said × Ending) :=
  let t := r.session.status.cell.value
  let s := (r.session.syncPreview now).1.preview.cell.value
  if t.isTerminal && r.session.logs.cell.value.isClosed then
    if t.status = .failed then
      some ([.summary false "Build failed"], .failure (jobFailed r.job t))
    else
      some (.summary true "Build ready" :: previewLine (s.activePreviewUrl.or t.previewUrl),
        .success)
  else none

/-- A look at everything is what it prints, and then what it concludes. -/
theorem lookAll_eq (canOpen : String → Bool) (r : Run) (now : Nat) :
    r.lookAll canOpen now = conclude (r.showAll canOpen now) (r.endingOfAll? now) := by
  have hlogs := (r.session.syncPreview_frame now).2
  simp only [lookAll, showAll, endingOfAll?, pass, Session.step, printLog, showPreview, hlogs]
  cases (r.session.syncPreview now).1.preview.cell.value.jobId.isSome <;>
    by_cases hover : (r.session.status.cell.value.isTerminal &&
      r.session.logs.cell.value.isClosed) = true <;>
    by_cases hfailed : r.session.status.cell.value.status = .failed <;>
    simp [hover, hfailed, conclude, hlogs, finish]

/-- A command for everything of a job concludes by its status and its log together. -/
theorem concludes_all (hgoal : r.goal = .watch) (now : Nat) : r.Concludes (r.endingOfAll? now) := by
  have hover : r.IsOver ↔
      r.session.logs.cell.value.isClosed ∧ r.session.status.cell.value.isTerminal := by
    simp [IsOver, hgoal]
  have hwell : r.WentWell ↔ r.session.status.cell.value.status ≠ .failed := by
    simp only [WentWell, hgoal]
  simp only [endingOfAll?, Bool.and_eq_true]
  split
  next h =>
    have hclosed : r.IsOver := hover.2 ⟨h.2, h.1⟩
    split
    next hfailed => exact ⟨rfl, .failure hclosed (by simp [hwell, hfailed]) _⟩
    next hfailed =>
      refine ⟨?_, .success hclosed (hwell.2 hfailed)⟩
      simp [previewLine, logLines, Output.logLine?]
  next h => exact fun hclosed ↦ h (hover.1 hclosed).symm

/-- What is shown changes neither the status nor the log, nor what the command does. -/
theorem showAll_frame (canOpen : String → Bool) (r : Run) (now : Nat) :
    ∃ host, (r.showAll canOpen now).1 =
      { (r.pass now .syncPreview).1.printLog.1 with
        host := host
        offline := r.session.status.cell.value.connectionFailed } := by
  simp only [showAll]
  split <;> exact ⟨_, rfl⟩

theorem logLines_showAll (canOpen : String → Bool) (r : Run) (now : Nat) :
    logLines (r.showAll canOpen now).2 =
      r.session.logs.cell.value.lines.drop r.printer.printed := by
  have hlogs := (r.session.syncPreview_frame now).2
  have hlost (lost : Bool) :
      logLines (if lost then
        [.say (.warning "Lost connection to the build service; still retrying")] else []) = [] := by
    cases lost <;> rfl
  -- The instances of the second `if` follow only when it is split before the session is opened.
  simp only [showAll, logLines_append, hlost, logLines_session, List.nil_append]
  split <;> simp [pass, Session.step, hlogs]

theorem looked_all (hgoal : r.goal = .watch) (canOpen : String → Bool) (now : Nat) :
    Looked r (r.lookAll canOpen now) := by
  obtain ⟨hstatus, hlogs⟩ := r.session.syncPreview_frame now
  obtain ⟨host, hshown⟩ := r.showAll_frame canOpen now
  have hlength := congrArg (fun f : Feed ↦ f.cell.value.lines.length) hlogs
  rw [lookAll_eq]
  refine looked_conclude ?_ ?_ (r.logLines_showAll canOpen now) (concludes_all hgoal now)
  · rw [hshown]
    exact ⟨rfl, hstatus, hlogs, rfl⟩
  · rw [hshown]
    exact hlength

/-- A look at a log, or at everything, prints what is new and concludes. -/
theorem looked {job : String} (hgoal : r.goal = .logs ∨ r.goal = .watch)
    (hfeed : r.session.logs.StaysOn job) (canOpen : String → Bool) (now : Nat) :
    Looked r (r.look canOpen now) := by
  rcases hgoal with hlogs | hwatch
  · simp only [look, hlogs]
    exact looked_logs hlogs hfeed.isClosed_of_isDone
  · simp only [look, hwatch]
    exact looked_all hwatch canOpen now

end Looks

/-! ## What every move keeps -/

/-- Whether a command waits for a page. -/
def Stage.awaitsPage : Stage → Bool
  | .loadingEarlier _ => true
  | _ => false

/-- Some lines are what a command has printed of the log of a job: none before it follows, then the
first ones that are held, and at its end all of them. -/
structure Attends (job : String) (r : Run) (printed : List LogLine) : Prop where
  goal : r.goal = .logs ∨ r.goal = .watch
  feed : r.session.logs.StaysOn job
  shown : printed <+: r.session.logs.cell.value.lines
  length_printed : printed.length = r.printer.printed
  loading : r.stage.awaitsPage → printed = [] ∧ ∃ c, r.session.logs.calls = [c]
  calls : r.stage.awaitsPage = false → r.session.logs.calls = []
  ending : ∀ ending, r.stage = .ended ending →
    printed = r.session.logs.cell.value.lines ∧ r.EndsAs ending

section Attends

variable {r : Run} {job : String} {printed : List LogLine} (canOpen : String → Bool) (now : Nat)

/-- A command that has printed nothing, and for which no page is under way, asks for a page or
follows. -/
theorem attends_askEarlier (hgoal : r.goal = .logs ∨ r.goal = .watch)
    (hfeed : r.session.logs.StaysOn job) (hcalls : r.session.logs.calls = [])
    (hprinted : r.printer.printed = 0) (pages : Nat) :
    Attends job (r.askEarlier now pages).1 [] ∧ logLines (r.askEarlier now pages).2 = [] := by
  have hfollow : Attends job { r with stage := .following } [] :=
    { goal := hgoal, feed := hfeed, shown := List.nil_prefix,
      length_printed := hprinted.symm, loading := nofun, calls := fun _ ↦ hcalls, ending := nofun }
  cases pages with
  | zero => exact ⟨hfollow, rfl⟩
  | succ more =>
    simp only [askEarlier]
    split
    · refine ⟨?_, logLines_session _⟩
      exact {
        goal := hgoal, feed := hfeed.step (e := .loadEarlier) rfl,
        shown := List.nil_prefix, length_printed := hprinted.symm,
        loading := fun _ ↦ ⟨rfl, hfeed.step_loadEarlier hcalls⟩, calls := nofun, ending := nofun }
    · exact ⟨hfollow, rfl⟩

/-- What a turn prints makes up all that is held. -/
theorem Attends.look_prints (h : Attends job r printed) :
    printed ++ logLines (r.look canOpen now).2 = r.session.logs.cell.value.lines := by
  obtain ⟨rest, hrest⟩ := h.shown
  rw [(looked h.goal h.feed canOpen now).lines, ← hrest, ← h.length_printed, List.drop_left]

/-- A turn prints what has come since the last one, and may be the last one. -/
theorem Attends.looks (h : Attends job r printed) :
    Attends job (move canOpen now r .looks).1
      (printed ++ logLines (move canOpen now r .looks).2) := by
  by_cases hstage : r.stage = .following
  · have hlook := looked h.goal h.feed canOpen now
    have hcalls : r.session.logs.calls = [] := h.calls (by rw [hstage]; rfl)
    have hwaits : (r.look canOpen now).1.stage.awaitsPage = false := by
      obtain ⟨hsame, -⟩ | ⟨ending, hended, -⟩ := hlook.stage
      · rw [hsame, hstage]
        rfl
      · rw [hended]
        rfl
    simp only [move, hstage, if_true, h.look_prints]
    refine ⟨hlook.goal ▸ h.goal, hlook.logs ▸ h.feed, ?_, hlook.printed.symm, ?_, fun _ ↦ ?_,
      fun ending hending ↦ ?_⟩
    · exact hlook.logs ▸ List.prefix_rfl
    · exact fun hawaits ↦ absurd (hwaits.symm.trans hawaits) Bool.false_ne_true
    · rw [hlook.logs, hcalls]
    · obtain ⟨hsame, -⟩ | ⟨ending', hended, hends⟩ := hlook.stage
      · exact nomatch hending.symm.trans (hsame.trans hstage)
      · obtain rfl : ending = ending' := Stage.ended.inj (hending.symm.trans hended)
        exact ⟨by rw [hlook.logs], hlook.endsAs hends⟩
  · simp only [move, hstage, if_false, logLines_nil, List.append_nil]
    exact h

/-- What comes behind the command goes to the feed, or leaves it alone. -/
theorem pass_cases {e : Session.Event} (he : e.isBackground) :
    (r.pass now e).1.session.logs = r.session.logs ∧
        (r.pass now e).2.findSome? Session.Output.loaded? = none ∨
      ∃ fe, e = .logs fe ∧ fe.endsRun = false ∧ fe ≠ .loadEarlier := by
  cases e with
  | switchJob job => exact absurd he Bool.false_ne_true
  | status e =>
    refine .inl ⟨rfl, List.findSome?_eq_none_iff.2 fun o ho ↦ ?_⟩
    obtain ⟨out, -, rfl⟩ := List.mem_map.1 ho
    rfl
  | preview e =>
    refine .inl ⟨rfl, List.findSome?_eq_none_iff.2 fun o ho ↦ ?_⟩
    obtain ⟨out, -, rfl⟩ := List.mem_map.1 ho
    rfl
  | syncPreview =>
    refine .inl ⟨(r.session.syncPreview_frame now).2, List.findSome?_eq_none_iff.2 fun o ho ↦ ?_⟩
    have ho : o ∈ (r.session.syncPreview now).2 := ho
    rcases r.session.syncPreview_cases now with heq | ⟨job, e, -, -, heq⟩
    · rw [heq] at ho
      obtain rfl := List.mem_singleton.1 ho
      rfl
    · rw [heq] at ho
      rcases List.mem_append.1 ho with ho | ho
      · obtain ⟨out, -, rfl⟩ := List.mem_map.1 ho
        rfl
      · obtain rfl := List.mem_singleton.1 ho
        rfl
  | logs e =>
    refine .inr ⟨e, rfl, ?_⟩
    cases e with
    | loadEarlier => exact absurd he Bool.false_ne_true
    | start | dispose => exact absurd he Bool.false_ne_true
    | opened | chunk | ended | page => exact ⟨rfl, nofun⟩

/-- A command that has not ended attends to a log that has only grown, with the same page under way.
-/
theorem Attends.withSession (h : Attends job r printed) (hrun : r.ending? = none) {s : Session}
    (hfeed : s.logs.StaysOn job) (hshown : printed <+: s.logs.cell.value.lines)
    (hcalls : s.logs.calls = r.session.logs.calls) :
    Attends job { r with session := s } printed where
  goal := h.goal
  feed := hfeed
  shown := hshown
  length_printed := h.length_printed
  loading hawaits := by
    rw [hcalls]
    exact h.loading hawaits
  calls hawaits := hcalls.trans (h.calls hawaits)
  ending ending hending := by
    simp [ending?, show r.stage = .ended ending from hending] at hrun

/-- A command that waits for no page, or hears of none, goes on as it was. -/
theorem Attends.heed (h : Attends job r printed) {out : List Session.Output}
    (hout : r.stage.awaitsPage → out.findSome? Session.Output.loaded? = none) :
    Attends job (r.heed now out).1 printed ∧ logLines (r.heed now out).2 = [] := by
  cases hstage : r.stage with
  | loadingEarlier more =>
    simp only [Run.heed, hstage, hout (by rw [hstage]; rfl)]
    exact ⟨h, rfl⟩
  | following =>
    simp only [Run.heed, hstage]
    refine ⟨h, List.filterMap_eq_nil_iff.2 fun o ho ↦ ?_⟩
    obtain ⟨remaining, -, rfl⟩ := List.mem_map.1 ho
    rfl
  | fetchingStatus | ended =>
    simp only [Run.heed, hstage]
    exact ⟨h, rfl⟩

/-- A command that waits for a page, and hears that it has come, asks for the next or follows. -/
theorem heed_loaded (hawaits : r.stage.awaitsPage) {out : List Session.Output} {added : Nat}
    (hout : out.findSome? Session.Output.loaded? = some (.ok added)) :
    ∃ more, r.heed now out = r.askEarlier now more := by
  cases hstage : r.stage with
  | loadingEarlier more =>
    refine ⟨more, ?_⟩
    simp only [heed, hstage, hout]
  | fetchingStatus | following | ended => simp [hstage, Stage.awaitsPage] at hawaits

/-- What comes behind the command is taken up without a line being printed. -/
theorem Attends.happens (h : Attends job r printed) {e : Session.Event} (he : e.isBackground)
    (hread : ∀ request reply, e = .logs (.page request reply) →
      ∃ page : LogsPage, reply.read = .ok page) :
    Attends job (move canOpen now r (.happens e)).1 printed ∧
      logLines (move canOpen now r (.happens e)).2 = [] := by
  cases hrun : r.ending? with
  | some ending =>
    simp only [move, hrun, Option.isSome_some, if_true]
    exact ⟨h, rfl⟩
  | none =>
    have hmove : move canOpen now r (.happens e) =
        let x := (r.pass now e).1.heed now (r.pass now e).2
        (x.1, (r.pass now e).2.map .session ++ x.2) := by
      simp [move, hrun]
    rw [hmove]
    simp only [logLines_append, logLines_session, List.nil_append]
    rcases r.pass_cases now he with ⟨hlogs, hout⟩ | ⟨fe, rfl, hends, hload⟩
    · have hpass : Attends job (r.pass now e).1 printed :=
        h.withSession hrun (hlogs ▸ h.feed) (hlogs ▸ h.shown) (congrArg _ hlogs)
      exact hpass.heed now fun _ ↦ hout
    · have hfeed : (r.session.logs.step fe).1.StaysOn job := h.feed.step hends
      cases hawaits : r.stage.awaitsPage with
      | false =>
        have hcalls := h.calls hawaits
        obtain ⟨hgrows, hcalls', -⟩ := h.feed.grows hcalls hends hload
        have hpass : Attends job (r.pass now (.logs fe)).1 printed :=
          h.withSession hrun hfeed (h.shown.trans hgrows) (hcalls'.trans hcalls.symm)
        exact hpass.heed now fun hawaits' ↦ absurd (hawaits.symm.trans hawaits') Bool.false_ne_true
      | true =>
        obtain ⟨rfl, c, hcalls⟩ := h.loading hawaits
        rcases h.feed.awaits hcalls hends hload fun request reply hpage ↦
          hread request reply (hpage ▸ rfl) with ⟨hout, hcalls'⟩ | ⟨added, hout, hcalls'⟩
        · have hpass : Attends job (r.pass now (.logs fe)).1 [] :=
            h.withSession hrun hfeed List.nil_prefix (hcalls'.trans hcalls.symm)
          exact hpass.heed now fun _ ↦ hout
        · have hout : (r.pass now (.logs fe)).2.findSome? Session.Output.loaded? =
              some (.ok added) := hout
          obtain ⟨more, hheed⟩ := heed_loaded (r := (r.pass now (.logs fe)).1) now hawaits hout
          rw [hheed]
          exact attends_askEarlier (r := (r.pass now (.logs fe)).1) now h.goal hfeed hcalls'
            h.length_printed.symm more

/-- A command attends to its job from the start. -/
theorem attends_opened {goal : Goal} (hgoal : goal = .logs ∨ goal = .watch) (timing : SessionTiming)
    (earlier : Nat) :
    Attends job (opened timing now goal job earlier).1 [] := by
  rcases hgoal with rfl | rfl
  · exact (attends_askEarlier now (.inl rfl) (Feed.staysOn_start _ job) rfl rfl earlier).1
  · exact {
      goal := .inr rfl, feed := Feed.staysOn_start _ job, shown := List.nil_prefix,
      length_printed := rfl, loading := nofun, calls := fun _ ↦ rfl, ending := nofun }

/-- Whether a move is a turn, or something that may come behind the command; a page that comes can
be read. -/
def Move.isAllowed : Move → Bool
  | .looks => true
  | .happens (.logs (.page _ reply)) => (reply.read : Except ApiError LogsPage).isOk
  | .happens e => e.isBackground

theorem Move.background_of_isAllowed {e : Session.Event} (h : (Move.happens e).isAllowed) :
    e.isBackground ∧ ∀ request reply, e = .logs (.page request reply) →
      ∃ page : LogsPage, reply.read = .ok page := by
  cases e with
  | logs e =>
    cases e with
    | page request reply =>
      refine ⟨rfl, ?_⟩
      rintro _ _ ⟨⟩
      have hok : (reply.read : Except ApiError LogsPage).isOk := h
      cases hread : (reply.read : Except ApiError LogsPage) with
      | ok page => exact ⟨page, rfl⟩
      | error e => rw [hread] at hok; exact absurd hok Bool.false_ne_true
    | start | dispose | loadEarlier | opened | chunk | ended => exact ⟨h, nofun⟩
  | switchJob | syncPreview | status | preview => exact ⟨h, nofun⟩

/-- A command that attends to the log of its job still does after any moves that are allowed, and
has printed what they print on top. -/
theorem Attends.after (h : Attends job r printed) {moves : List (Nat × Move)}
    (hmoves : ∀ x ∈ moves, x.2.isAllowed) :
    Attends job (Machine.after (move canOpen) r moves)
      (printed ++ logLines ((Machine.outputs (move canOpen) r moves).map (·.2))) := by
  induction moves generalizing r printed with
  | nil =>
    rw [Machine.outputs_nil, List.map_nil, logLines_nil, List.append_nil]
    exact h
  | cons x moves ih =>
    obtain ⟨now, m⟩ := x
    have hmove : Attends job (move canOpen now r m).1
        (printed ++ logLines (move canOpen now r m).2) := by
      cases m with
      | looks => exact h.looks canOpen now
      | happens e =>
        obtain ⟨he, hread⟩ := Move.background_of_isAllowed (hmoves _ List.mem_cons_self)
        obtain ⟨hstep, hnone⟩ := h.happens canOpen now he hread
        rw [hnone, List.append_nil]
        exact hstep
    rw [Machine.map_outputs_cons, logLines_append, ← List.append_assoc, Machine.after_cons]
    exact ih hmove fun y hy ↦ hmoves y (List.mem_cons_of_mem _ hy)

end Attends

/-- What a command that follows a log prints, and how it ends.

The command follows the log of a job, after some pages of earlier lines, or everything of the job.
Anything may happen behind it, and its turns may come at any time, so that they see any of the
states that are published and not the others. As long as it is not interrupted and every page that
comes can be read, what is printed is a prefix of what is held, and no line of that is held twice.
After a turn all that is held is printed. The turn ends the command just if it sees that all is
over: the stream is closed and, where everything is followed, the status is final. Then the command
succeeds just if nothing tells of a failure, and all is printed that is ever held, since nothing
changes the log any more. -/
theorem lines_printed_once (canOpen : String → Bool) (timing : SessionTiming) (now : Nat)
    {goal : Goal} (hgoal : goal = .logs ∨ goal = .watch) (job : String) (earlier : Nat)
    {moves : List (Nat × Move)} (hmoves : ∀ x ∈ moves, x.2.isAllowed) :
    let start := (opened timing now goal job earlier).1
    let r := Machine.after (move canOpen) start moves
    let printed := logLines ((Machine.outputs (move canOpen) start moves).map (·.2))
    let held := r.session.logs.cell.value.lines
    (held.map (·.id)).Nodup ∧ printed <+: held ∧
      (r.stage = .following → ∀ later,
        let looked := move canOpen later r .looks
        printed ++ logLines looked.2 = held ∧
          looked.1.session.logs = r.session.logs ∧
          ((∃ ending, looked.1.stage = .ended ending) ↔ r.IsOver)) ∧
      ∀ ending, r.stage = .ended ending →
        printed = held ∧ r.IsOver ∧ (ending = .success ↔ r.WentWell) ∧
          ((∃ f, ending = .failure f) ↔ ¬r.WentWell) ∧
          ∀ later e, e.isBackground →
            (r.session.step later e).1.logs.cell.value = r.session.logs.cell.value := by
  intro start r printed held
  have h : Attends job r printed := (attends_opened now hgoal timing earlier).after canOpen hmoves
  refine ⟨h.feed.sound.nodup, h.shown, fun hstage later ↦ ?_, fun ending hending ↦ ?_⟩
  · have hlook := looked h.goal h.feed canOpen later
    simp only [move, hstage, if_true]
    refine ⟨h.look_prints canOpen later, hlook.logs, ?_⟩
    obtain ⟨hsame, hopen⟩ | ⟨ending, hended, hends⟩ := hlook.stage
    · refine iff_of_false (fun ⟨ending, hended⟩ ↦ ?_) hopen
      exact nomatch hended.symm.trans (hsame.trans hstage)
    · exact iff_of_true ⟨ending, hended⟩ hends.isOver
  · obtain ⟨hall, hends⟩ := h.ending ending hending
    refine ⟨hall, hends.isOver, hends.success_iff, hends.failure_iff, fun later e he ↦ ?_⟩
    have hcalls : r.session.logs.calls = [] := h.calls (by rw [hending]; rfl)
    rcases r.pass_cases later he with ⟨hlogs, -⟩ | ⟨fe, rfl, hfe, hload⟩
    · exact congrArg (·.cell.value) hlogs
    · exact (h.feed.grows hcalls hfe hload).2.2 hends.isOver.1

/-- A page of earlier lines comes after the stream was opened. The turns see neither the log before
the second live line nor any between the end of the build, which is told unreadably, and the close.
-/
theorem lines_printed_after_page :
    let page : Reply :=
      .ok "[[[\"a\",\"1970-01-01T00:00:00Z\",\"stdout\",\"\"]],false]".toUTF8.toList
    let live (id : String) : List UInt8 :=
      ("event:log\ndata:[\"" ++ id ++
        "\",\"1970-01-01T00:00:01Z\",\"stdout\",\"\"]\n\n").toUTF8.toList
    let moves : List (Nat × Move) := [(1, .happens (.logs (.opened 0 (.ok ())))),
      (2, .happens (.logs (.page 1 page))), (3, .happens (.logs (.chunk 0 (live "b")))),
      (4, .happens (.logs (.chunk 0 (live "c")))), (4, .looks),
      (5, .happens (.logs (.chunk 0 (live "d" ++ "event:done\ndata:?\n\n".toUTF8.toList)))),
      (6, .looks)]
    let start := (opened .standard 0 .logs "j1" 3).1
    let outputs := Machine.outputs (move fun _ ↦ false) start moves
    (∀ x ∈ moves, x.2.isAllowed) ∧
      (Machine.after (move fun _ ↦ false) start moves).stage = .ended .success ∧
      outputs.filterMap (fun x ↦ x.2.logLine?.map fun line ↦ (x.1, line.id)) =
        [(4, "a"), (4, "b"), (4, "c"), (6, "d")] ∧
      logLines (outputs.map (·.2)) =
        (Machine.after (move fun _ ↦ false) start moves).session.logs.cell.value.lines := by
  intro page live moves start outputs
  have hmoves : ∀ x ∈ moves, x.2.isAllowed := by decide +kernel
  have hended : (Machine.after (move fun _ ↦ false) start moves).stage = .ended .success := by
    decide +kernel
  obtain ⟨-, -, -, hending⟩ :=
    lines_printed_once (fun _ ↦ false) .standard 0 (.inl rfl) "j1" 3 hmoves
  refine ⟨hmoves, hended, by decide +kernel, (hending _ hended).1⟩

end Run

end JobWatch

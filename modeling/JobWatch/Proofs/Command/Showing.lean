import JobWatch.Proofs.Command.Following
import JobWatch.Proofs.Command.Scene
import JobWatch.Proofs.Preview.Schedule

/-!
# A command that shows a preview

A command that shows a preview asks for the status of its job, starts the preview from the answer
and then follows it: it looks at the preview now and then, its host tells the preview something,
and that arrives some time after. So the command is joined here with what is on its way
(`Showing`), and what moves the two is an answer, a wake of the preview, an arrival or a turn of
the command, in any order and at any times. A step of the command is such a move with at most one
turn after it (`proceed_cases`), so its runs are sequences of moves (`run_eq_moves`); the others
are those in which it comes to its turn late and sees some of the published states and not the
rest.

What the command has come to (`Reached`) is that it waits for the status, that it follows a preview
whose host and signals make a scene (`Playing`), or that it is over. Every move keeps this and
accounts for the requests that go out.
-/

namespace JobWatch

namespace Run

def Output.request? : Output → Option Request
  | .ask r => some r
  | .session out => (out.request?.map (·.1)).or (out.stream?.map (·.2))
  | _ => none

/-- What an output tells the session. -/
def Output.told? : Output → Option Session.Event
  | .tell e => some e
  | _ => none

/-- The parameters of the preview that starts from a status; with none the command ends. -/
def params? (reply : Reply) : Option PreviewParams :=
  match (reply.read : Except ApiError StatusResponse) with
  | .error _ => none
  | .ok s =>
    if s.previewUrl.isNone && !s.status.isTerminal then none
    else some ⟨s.previewUrl, s.sandboxExpiresAt, s.sandboxPaused⟩

/-- Starts the preview as `startPreview` does, and leaves the first look to a turn. -/
def openPreview (canOpen : String → Bool) (r : Run) (now : Nat) (reply : Reply) :
    Run × List Output :=
  match params? reply with
  | none => r.startPreview canOpen now reply
  | some params =>
    let (r, out) := r.pass now (.preview (.start r.job params))
    ({ r with stage := .following }, out.map .session)

variable {canOpen : String → Bool} {r : Run} {now : Nat}

/-- A status with which no preview starts ends the command, and nothing is asked or told. -/
theorem startPreview_of_none {reply : Reply} (h : params? reply = none) (canOpen : String → Bool)
    (r : Run) (now : Nat) :
    ∃ f, r.startPreview canOpen now reply = ({ r with stage := .ended (.failure f) }, []) := by
  rw [params?] at h
  rw [startPreview]
  revert h
  cases (reply.read : Except ApiError StatusResponse) with
  | error e => exact fun _ ↦ ⟨_, rfl⟩
  | ok s =>
    intro h
    simp only [ite_eq_left_iff, reduceCtorEq, imp_false, Classical.not_not] at h
    exact ⟨_, by simp only [h, if_true]; rfl⟩

/-- Starting a preview from a status is to open it, and then a turn. -/
theorem startPreview_eq (canOpen : String → Bool) (r : Run) (now : Nat) (reply : Reply) :
    r.startPreview canOpen now reply = thenLook canOpen now (r.openPreview canOpen now reply) := by
  cases h : params? reply with
  | none =>
    obtain ⟨f, hf⟩ := startPreview_of_none h canOpen r now
    simp [openPreview, h, hf, thenLook, move]
  | some params =>
    have hopen : r.openPreview canOpen now reply =
        ({ (r.pass now (.preview (.start r.job params))).1 with stage := .following },
          (r.pass now (.preview (.start r.job params))).2.map .session) := by
      simp only [openPreview, h]
    rw [hopen]
    rw [params?] at h
    rw [startPreview]
    revert h
    cases (reply.read : Except ApiError StatusResponse) with
    | error e => simp
    | ok s =>
      intro h
      simp only [Option.ite_none_left_eq_some, Option.some.injEq] at h
      obtain ⟨hstarts, rfl⟩ := h
      simp only [hstarts]
      rfl

/-- After its end nothing moves a command. -/
theorem move_of_ended {ending : Ending} (h : r.stage = .ended ending) (m : Move) :
    r.move canOpen now m = (r, []) := by
  cases m <;> simp [move, ending?, h]

/-- What comes out of the preview, with what the command says about it at once. -/
def relay (out : List PreviewDriver.Output) : List Output :=
  out.map (fun o ↦ .session (.preview o)) ++
    ((out.map Session.Output.preview).filterMap Session.Output.notice?).map fun remaining ↦
      .say (PreviewHost.notice remaining)

/-- What happens to the preview of a command that follows it. -/
theorem move_preview (h : r.stage = .following) (canOpen : String → Bool) (now : Nat)
    (e : PreviewDriver.Event) :
    r.move canOpen now (.happens (.preview e)) =
      ({ r with session :=
          { r.session with preview := (PreviewDriver.step now r.session.preview e).1 } },
        relay (PreviewDriver.step now r.session.preview e).2) := by
  have hgoes : r.ending? = none := by simp [ending?, h]
  simp only [move, hgoes, Option.isSome_none, Bool.false_eq_true, if_false, pass, Session.step,
    Session.stepPreview, heed, h, relay, List.map_map]
  rfl

theorem told?_relay (out : List PreviewDriver.Output) :
    (relay out).filterMap Output.told? = [] := by
  simp [relay, List.filterMap_append, List.filterMap_map, Output.told?, Function.comp_def]

end Run

/-- The request that a query is, for a job. -/
def PreviewDriver.Query.request (job : String) : PreviewDriver.Query → Request
  | .check => .previewCheck job
  | .resume => .resume job

namespace Run

theorem request?_preview (o : PreviewDriver.Output) :
    Output.request? (.session (.preview o)) =
      o.query?.bind fun query ↦ o.job?.map (query.request ·) := by
  cases o with
  | request id query job => cases query <;> rfl
  | publish | notice => rfl

/-- The requests of a preview are those that it asks for, for its job. -/
theorem request?_previews {job : String} {out : List PreviewDriver.Output}
    (h : ∀ o ∈ out, ∀ other, o.job? = some other → other = job) :
    (out.map fun o ↦ Output.session (.preview o)).filterMap Output.request? =
      (out.filterMap PreviewDriver.Output.query?).map (PreviewDriver.Query.request job) := by
  rw [List.filterMap_map, List.map_filterMap]
  refine List.filterMap_congr fun o ho ↦ ?_
  rw [Function.comp_apply, request?_preview]
  cases o with
  | request id query other =>
    obtain rfl := h _ ho other rfl
    rfl
  | publish | notice => rfl

theorem request?_relay (out : List PreviewDriver.Output) :
    (relay out).filterMap Output.request? =
      (out.map fun o ↦ Output.session (.preview o)).filterMap Output.request? := by
  have hnotices (seconds : List Int) :
      (seconds.map fun s ↦ Output.say (PreviewHost.notice s)).filterMap Output.request? = [] := by
    simp [List.filterMap_map, Output.request?, Function.comp_def]
  rw [relay, List.filterMap_append, hnotices, List.append_nil]

/-- A look at a preview shows it, and concludes if nothing more happens to it. -/
theorem lookPreview_eq (canOpen : String → Bool) (r : Run) :
    r.lookPreview canOpen =
      conclude (r.showPreview canOpen)
        (PreviewHost.ending? r.job r.session.preview.cell.value) := by
  simp only [lookPreview, showPreview]
  cases PreviewHost.ending? r.job r.session.preview.cell.value <;> rfl

/-- A look asks for nothing, and tells what the host has to say. -/
theorem outputs_lookPreview (canOpen : String → Bool) (r : Run) :
    (r.lookPreview canOpen).2.filterMap Output.request? = [] ∧
      (r.lookPreview canOpen).2.filterMap Output.told? =
        (r.host.look canOpen r.session.preview.cell.value).2.signals.map .preview := by
  rw [lookPreview_eq]
  cases PreviewHost.ending? r.job r.session.preview.cell.value <;>
  simp [conclude, finish, showPreview, List.filterMap_map, Output.request?, Output.told?,
    Function.comp_def]

end Run

open PreviewDriver (Signal Wake Query Started)

/-- A command that shows a preview, with what was told to the session and has not come there yet. -/
structure Showing where
  run : Run
  told : List Session.Event

namespace Showing

/-- What moves a command that shows a preview. -/
inductive Move where
  /-- The answer to the command's own request. -/
  | answered (reply : Reply)
  /-- The preview goes on by itself. -/
  | wakes (w : Wake)
  /-- The first thing that is on its way arrives. -/
  | arrives
  /-- The command has its turn. -/
  | looks

/-- The answer that a move brings the command. -/
def Move.reply? : Move → Option Reply
  | answered reply => some reply
  | _ => none

/-- The first answer that some moves bring the command. -/
def answer? (moves : List (Nat × Move)) : Option Reply := moves.findSome? (·.2.reply?)

/-- What a command tells the session is on its way, after what is already. -/
def send (told : List Session.Event) (x : Run × List Run.Output) : Showing × List Run.Output :=
  (⟨x.1, told ++ x.2.filterMap Run.Output.told?⟩, x.2)

def step (canOpen : String → Bool) (now : Nat) (s : Showing) : Move → Showing × List Run.Output
  | .answered reply =>
    if s.run.stage = .fetchingStatus then send s.told (s.run.openPreview canOpen now reply)
    else (s, [])
  | .wakes w => send s.told (s.run.move canOpen now (.happens (.preview w.event)))
  | .arrives =>
    match s.told with
    | [] => (s, [])
    | e :: told => send told (s.run.move canOpen now (.happens e))
  | .looks => send s.told (s.run.move canOpen now .looks)

/-- A command starts with its request and nothing on its way. -/
def start (canOpen : String → Bool) (timing : SessionTiming) (now : Nat) (browse : Bool)
    (job : String) : Showing × List Run.Output :=
  send [] (Run.start canOpen timing now (.preview browse) job 0)

def preview (s : Showing) : PreviewDriver := s.run.session.preview

def value (s : Showing) : PreviewState := s.preview.cell.value

/-- A signal of the host, for the session. -/
def tell (signal : Signal) : Session.Event := .preview signal.call

def withPreview (s : Showing) (d : PreviewDriver) : Showing :=
  ⟨{ s.run with session := { s.run.session with preview := d } }, s.told⟩

theorem step_wakes {s : Showing} (h : s.run.stage = .following) (canOpen : String → Bool)
    (now : Nat) (w : Wake) :
    step canOpen now s (.wakes w) =
      (s.withPreview (PreviewDriver.step now s.preview w.event).1,
        Run.relay (PreviewDriver.step now s.preview w.event).2) := by
  rw [step, send, Run.move_preview h, Run.told?_relay, List.append_nil]
  rfl

/-- A signal that arrives waits to be taken up. -/
theorem step_arrives {s : Showing} (h : s.run.stage = .following) {signal : Signal}
    {told : List Session.Event} (htold : s.told = tell signal :: told) (canOpen : String → Bool)
    (now : Nat) :
    step canOpen now s .arrives =
      ({ s.withPreview (s.preview.hear [signal]) with told := told }, []) := by
  have hsent := PreviewDriver.step_call s.preview now signal
  simp only [step, htold, tell, send, Run.move_preview h, Run.told?_relay, List.append_nil]
  rw [← preview, hsent]
  rfl

/-! ## Steps of the command -/

/-- A command that takes its turns by itself: when the status has come and when its preview has
published something. It may have others between. -/
def proceed (canOpen : String → Bool) (now : Nat) (s : Showing) :
    Move → Showing × List Run.Output
  | .answered reply => send s.told (s.run.step canOpen now (.answered reply))
  | .wakes w => send s.told (s.run.step canOpen now (.session (.preview w.event)))
  | .arrives =>
    match s.told with
    | [] => (s, [])
    | e :: told => send told (s.run.step canOpen now (.session e))
  | .looks => step canOpen now s .looks

section Steps

variable (canOpen : String → Bool) (now : Nat)

/-- A turn after something. -/
def thenLook (x : Showing × List Run.Output) : Showing × List Run.Output :=
  let (s, out) := step canOpen now x.1 .looks
  (s, x.2 ++ out)

theorem send_thenLook (told : List Session.Event) (x : Run × List Run.Output) :
    send told (Run.thenLook canOpen now x) = thenLook canOpen now (send told x) := by
  simp only [send, Run.thenLook, thenLook, step, List.filterMap_append, List.append_assoc]

/-- A step for an event of the session is the move, with at most one turn after it. -/
theorem send_step (told : List Session.Event) (r : Run) (e : Session.Event) :
    let x := send told (r.move canOpen now (.happens e))
    send told (r.step canOpen now (.session e)) = x ∨
      send told (r.step canOpen now (.session e)) = thenLook canOpen now x := by
  intro x
  cases hr : r.ending? with
  | some ending => exact .inl (by simp [x, Run.step, Run.move, hr])
  | none =>
    obtain ⟨turns, rfl | rfl, hstep⟩ := Run.step_session canOpen now hr e <;>
    simp only [List.map_cons, List.map_nil, Machine.after_cons, Machine.after_nil,
      Machine.map_outputs_cons, Machine.outputs_nil, List.append_nil] at hstep
    · exact .inl (by rw [hstep])
    · refine .inr ?_
      rw [hstep, ← send_thenLook]
      rfl

/-- A step for the answer is the start of the preview, with a turn after it. -/
theorem send_answered (told : List Session.Event) {r : Run} (h : r.stage = .fetchingStatus)
    (reply : Reply) :
    send told (r.step canOpen now (.answered reply)) =
      thenLook canOpen now (send told (r.openPreview canOpen now reply)) := by
  have hgoes : r.ending? = none := by simp [Run.ending?, h]
  have hstep : r.step canOpen now (.answered reply) = r.startPreview canOpen now reply := by
    simp [Run.step, hgoes, h]
  rw [hstep, Run.startPreview_eq, send_thenLook]

/-- Nothing else is taken for the answer. -/
theorem step_answered_of_ne {r : Run} (h : r.stage ≠ .fetchingStatus) (reply : Reply) :
    r.step canOpen now (.answered reply) = (r, []) := by
  simp only [Run.step, h, if_false, ite_self]

/-- A step of a command is its move, with at most one turn after it. -/
theorem proceed_cases (s : Showing) (m : Move) :
    proceed canOpen now s m = step canOpen now s m ∨
      proceed canOpen now s m = thenLook canOpen now (step canOpen now s m) := by
  cases m with
  | answered reply =>
    by_cases h : s.run.stage = .fetchingStatus
    · refine .inr ?_
      simp only [proceed, send_answered canOpen now s.told h, step, h, if_true]
    · refine .inl ?_
      simp [proceed, step, send, step_answered_of_ne canOpen now h, h]
  | wakes w => exact send_step canOpen now s.told s.run (.preview w.event)
  | arrives =>
    simp only [proceed, step]
    split
    · exact .inl rfl
    next e told _ => exact send_step canOpen now told s.run e
  | looks => exact .inl rfl

end Steps

/-- So what is known of every sequence of moves is known of every run of a command. -/
theorem run_eq_moves (canOpen : String → Bool) (s : Showing) (es : List (Nat × Move)) :
    ∃ moves : List (Nat × Move), answer? moves = answer? es ∧
      Machine.after (proceed canOpen) s es = Machine.after (step canOpen) s moves ∧
      Machine.outputs (proceed canOpen) s es = Machine.outputs (step canOpen) s moves := by
  induction es generalizing s with
  | nil => exact ⟨[], rfl, rfl, rfl⟩
  | cons x es ih =>
    obtain ⟨now, m⟩ := x
    obtain ⟨moves, hanswer, hafter, houtputs⟩ := ih (proceed canOpen now s m).1
    rcases proceed_cases canOpen now s m with heq | heq
    · refine ⟨(now, m) :: moves, ?_, ?_, ?_⟩
      · simp only [answer?, List.findSome?_cons] at hanswer ⊢
        rw [hanswer]
      · rw [Machine.after_cons, hafter, Machine.after_cons, heq]
      · rw [Machine.outputs_cons, houtputs, Machine.outputs_cons, heq]
    · refine ⟨(now, m) :: (now, .looks) :: moves, ?_, ?_, ?_⟩
      · simp only [answer?, List.findSome?_cons, Move.reply?] at hanswer ⊢
        rw [hanswer]
      · rw [Machine.after_cons, hafter, Machine.after_cons, Machine.after_cons, heq]
        rfl
      · rw [Machine.outputs_cons, houtputs, Machine.outputs_cons, Machine.outputs_cons, heq,
          thenLook, List.map_append, List.append_assoc]

/-! ## A preview that is followed -/

/-- A command follows the preview of a job, and `n` requests have gone out for that. -/
structure Playing (canOpen : String → Bool) (timing : PreviewTiming) (browse : Bool) (job : String)
    (params : PreviewParams) (n : Nat) (s : Showing) : Prop where
  goal : s.run.goal = .preview browse
  browses : s.run.host.browse = browse
  stage : s.run.stage = .following
  started : Started timing job params s.preview
  follows : s.preview.RunsFor (· = job)
  scene : ∃ said : List Signal, s.told = said.map tell ∧
    Scene canOpen browse params.sandboxPaused s.value s.preview.retryAt?.isSome
      (s.preview.unread ++ said) s.run.host.phase s.run.host.resumed n

section Playing

variable {canOpen : String → Bool} {timing : PreviewTiming} {browse : Bool} {job : String}
  {params : PreviewParams} {n : Nat} {s : Showing}

/-- The request that a preview makes, one time or several. -/
def question (job : String) (params : PreviewParams) : Request :=
  (Query.ofPaused params.sandboxPaused).request job

/-- The requests of a preview that plays stay within the budget. -/
theorem Playing.le_budget (h : Playing canOpen timing browse job params n s) :
    n ≤ timing.budget params.sandboxPaused := by
  obtain ⟨said, -, hscene⟩ := h.scene
  have hle := hscene.le_budget
  rwa [value, h.started.value_timing_eq] at hle

/-- What a wake makes of a preview that is followed. -/
theorem Playing.wake (h : Playing canOpen timing browse job params n s) (now : Nat) (w : Wake) :
    ∃ k, (step canOpen now s (.wakes w)).2.filterMap Run.Output.request? =
        List.replicate k (question job params) ∧
      Playing canOpen timing browse job params (n + k) (step canOpen now s (.wakes w)).1 := by
  obtain ⟨said, htold, hscene⟩ := h.scene
  obtain ⟨hfollows, hjobs⟩ := h.follows.step now fun _ _ heq ↦ absurd heq (w.event_ne_start _ _)
  have hstarted := h.started.step (w.continues _) now
  rw [step_wakes h.stage, Run.request?_relay, Run.request?_previews hjobs]
  rcases h.started.settled.wake w now with hsame | ⟨event, effects, rest, htakes⟩
  · rw [hsame]
    exact ⟨0, rfl, h⟩
  · have hquiet : s.preview.retryAt?.isSome = true → s.value.phase = .resuming := fun hset ↦ by
      by_cases hp : s.value.phase = .resuming
      · exact hp
      · rw [h.started.settled.retryAt?_eq_none hp] at hset
        contradiction
    obtain ⟨k, hasks, hscene'⟩ := hscene.does htakes.does (htakes.source.append said) htakes.due
      hquiet htakes.sets
    -- Where the run is lost, no signal is left that could be lost with it.
    have hunread : (PreviewDriver.step now s.preview w.event).1.unread = rest := by
      rcases htakes.unread with hrest | ⟨hmem, hlost⟩
      · exact hrest
      · have hnone := hscene'.of_active (PreviewDriver.phase_of_startCountdown htakes.does hmem)
        rw [hlost, (List.append_eq_nil_iff.1 hnone).1]
    refine ⟨k, ?_, h.goal, h.browses, h.stage, hstarted, hfollows, said, htold, ?_⟩
    · rw [htakes.asks, hasks, List.map_replicate]
      rfl
    · rw [← hunread] at hscene'
      exact hscene'

/-- A preview that is followed has a run where something is on its way to it. -/
theorem Playing.run_ne_none (h : Playing canOpen timing browse job params n s)
    (htold : s.told ≠ []) : s.preview.run ≠ none := by
  intro hlost
  rcases h.started.settled.lost hlost with ⟨hnone, -⟩ | ⟨-, hactive, -⟩
  · rw [h.started.current] at hnone
    contradiction
  · obtain ⟨said, heq, hscene⟩ := h.scene
    have hnone : said = [] := (List.append_eq_nil_iff.1 (hscene.of_active hactive)).2
    rw [heq, hnone] at htold
    exact htold rfl

/-- What arrives waits to be taken up, and nothing else changes. -/
theorem Playing.arrive (h : Playing canOpen timing browse job params n s) (now : Nat) :
    (step canOpen now s .arrives).2 = [] ∧
      Playing canOpen timing browse job params n (step canOpen now s .arrives).1 ∧
      (step canOpen now s .arrives).1.value = s.value ∧
      (step canOpen now s .arrives).1.run.host = s.run.host ∧
      (step canOpen now s .arrives).1.told = s.told.tail := by
  obtain ⟨said, htold, hscene⟩ := h.scene
  cases said with
  | nil =>
    have hnone : s.told = [] := htold
    have hsame : step canOpen now s .arrives = (s, []) := by simp only [step, hnone]
    rw [hsame]
    exact ⟨rfl, h, rfl, rfl, by rw [hnone]; rfl⟩
  | cons signal said =>
    have hcons : s.told = tell signal :: said.map tell := htold
    obtain ⟨r, hr⟩ := Option.ne_none_iff_exists'.1 (h.run_ne_none (by rw [hcons]; nofun))
    have hsent := h.started.step (e := signal.call) (by cases signal <;> trivial) now
    have hfollows := (h.follows.send signal).1
    rw [PreviewDriver.step_call] at hsent
    rw [PreviewDriver.send_eq_hear] at hfollows
    rw [step_arrives h.stage hcons]
    refine ⟨rfl, ⟨h.goal, h.browses, h.stage, hsent, hfollows, said, rfl, ?_⟩, rfl, rfl, ?_⟩
    · have hunread := PreviewDriver.unread_hear hr [signal]
      have hretry := PreviewDriver.retryAt?_hear s.preview [signal]
      change Scene canOpen browse _ s.value (s.preview.hear [signal]).retryAt?.isSome
        ((s.preview.hear [signal]).unread ++ said) _ _ n
      rw [hretry, hunread, List.append_assoc]
      exact hscene
    · rw [hcons]
      rfl

/-- What a turn leaves of the command, before it may conclude. -/
theorem step_looks (hgoal : s.run.goal = .preview browse) (hstage : s.run.stage = .following)
    (canOpen : String → Bool) (now : Nat) :
    (step canOpen now s .looks).2.filterMap Run.Output.request? = [] ∧
      (step canOpen now s .looks).1.told =
        s.told ++ (s.run.host.look canOpen s.value).2.signals.map .preview ∧
      (step canOpen now s .looks).1.run =
        { s.run with
          host := (s.run.host.look canOpen s.value).1
          stage := ((PreviewHost.ending? s.run.job s.value).map fun x ↦ .ended x.2).getD
            .following } := by
  have hlook : s.run.move canOpen now .looks = s.run.lookPreview canOpen := by
    simp only [Run.move, hstage, if_true, Run.look, hgoal]
  obtain ⟨hasks, htells⟩ := Run.outputs_lookPreview canOpen s.run
  simp only [step, send, hlook]
  refine ⟨hasks, by rw [htells]; rfl, ?_⟩
  rw [Run.lookPreview_eq]
  change (Run.conclude _ (PreviewHost.ending? s.run.job s.value)).1 = _
  cases PreviewHost.ending? s.run.job s.value with
  | none => simp only [Run.conclude, Run.showPreview]; rw [← hstage]; rfl
  | some x => rfl

/-- A turn leaves the preview alone. -/
theorem Playing.value_look (h : Playing canOpen timing browse job params n s) (now : Nat) :
    (step canOpen now s .looks).1.value = s.value := by
  obtain ⟨-, -, hrun⟩ := step_looks h.goal h.stage canOpen now
  rw [value, preview, hrun]
  rfl

/-- A turn at which more may happen leaves the command with its preview. -/
theorem Playing.look (h : Playing canOpen timing browse job params n s) (now : Nat)
    (hmore : PreviewHost.isSettled s.value.phase = false) :
    Playing canOpen timing browse job params n (step canOpen now s .looks).1 := by
  obtain ⟨said, htold, hscene⟩ := h.scene
  obtain ⟨-, htells, hrun⟩ := step_looks h.goal h.stage canOpen now
  have hending : PreviewHost.ending? s.run.job s.value = none := by
    simp [PreviewHost.ending?, hmore]
  rw [← h.browses] at hscene
  obtain ⟨more, hsaid, hscene', hbrowse⟩ := hscene.look
  generalize step canOpen now s .looks = x at htells hrun ⊢
  obtain ⟨⟨run, told⟩, out⟩ := x
  obtain rfl : run = _ := hrun
  obtain rfl : told = _ := htells
  refine ⟨h.goal, hbrowse.trans h.browses, ?_, h.started, h.follows, said ++ more, ?_, ?_⟩
  · simp only [hending, Option.map_none, Option.getD_none]
  · rw [htold, hsaid, List.map_append, List.map_map]
    rfl
  · rw [h.browses, List.append_assoc] at hscene'
    exact hscene'

end Playing

/-- A command before the status has come. -/
def waiting (timing : SessionTiming) (browse : Bool) (job : String) : Showing :=
  ⟨⟨.preview browse, job, .new timing, .start, .start browse, false, .fetchingStatus⟩, []⟩

/-- A status from which a preview starts is followed by that preview. -/
theorem playing_start (canOpen : String → Bool) (timing : SessionTiming) (browse : Bool)
    (job : String) (now : Nat) {reply : Reply} {params : PreviewParams}
    (starts : Run.params? reply = some params) :
    let x := step canOpen now (waiting timing browse job) (.answered reply)
    ∃ n, x.2.filterMap Run.Output.request? = List.replicate n (question job params) ∧
      Playing canOpen timing.preview browse job params n x.1 := by
  intro x
  let d := (PreviewDriver.new timing.preview).start now job params
  have hstarted := PreviewDriver.started_start (PreviewDriver.new timing.preview) now job params
  obtain ⟨hfollows, hjobs⟩ := PreviewDriver.staysWith_start (P := (· = job))
    (PreviewDriver.new timing.preview) now rfl params
  obtain ⟨n, hasks, hscene⟩ := Scene.start canOpen browse (PreviewDriver.new timing.preview) now
    job params
  have htold : (d.2.map fun o ↦ Run.Output.session (.preview o)).filterMap Run.Output.told? =
      [] := by
    simp [List.filterMap_map, Run.Output.told?, Function.comp_def]
  have hx : x =
      (⟨{ (waiting timing browse job).run with
          session := { Session.new timing with preview := d.1 }, stage := .following }, []⟩,
        d.2.map fun o ↦ .session (.preview o)) := by
    simp only [x, step, waiting, if_true, send, Run.openPreview, starts, Run.pass, Session.step,
      Session.stepPreview, List.map_map, List.nil_append]
    exact Prod.ext (congrArg (Showing.mk _) htold) rfl
  rw [hx]
  refine ⟨n, ?_, rfl, rfl, rfl, hstarted, hfollows, [], rfl, ?_⟩
  · rw [Run.request?_previews hjobs, hasks, List.map_replicate]
    rfl
  · rw [List.append_nil]
    exact hscene

/-! ## Every move -/

/-- The requests of a command, by the parameters of its preview if there is one: the status is asked
for, and then one thing only. -/
def WithinBudget (timing : PreviewTiming) (job : String) (params : Option PreviewParams)
    (asked : List Request) : Prop :=
  match params with
  | none => asked = [.status job]
  | some params => ∃ n ≤ timing.budget params.sandboxPaused,
      asked = .status job :: List.replicate n (question job params)

/-- What a command has come to, given the first answer to it and the requests that went out. -/
inductive Reached (canOpen : String → Bool) (timing : SessionTiming) (browse : Bool)
    (job : String) : Option Reply → List Request → Showing → Prop
  /-- It waits for the status. -/
  | waits : Reached canOpen timing browse job none [.status job] (waiting timing browse job)
  /-- It follows a preview. -/
  | plays {reply : Reply} {params : PreviewParams} {n : Nat} {s : Showing}
      (starts : Run.params? reply = some params)
      (playing : Playing canOpen timing.preview browse job params n s) :
      Reached canOpen timing browse job (some reply)
        (.status job :: List.replicate n (question job params)) s
  /-- It is over. -/
  | ended {reply : Reply} {asked : List Request} {s : Showing} {ending : Ending}
      (budget : WithinBudget timing.preview job (Run.params? reply) asked)
      (stage : s.run.stage = .ended ending)
      (success_iff : ending = .success ↔ s.value.phase = .expired) :
      Reached canOpen timing browse job (some reply) asked s

section Reached

variable {canOpen : String → Bool} {timing : SessionTiming} {browse : Bool} {job : String}
  {answer : Option Reply} {asked : List Request} {s : Showing}

/-- A command that has just started has made the one request that it starts with. -/
theorem reached_start (canOpen : String → Bool) (timing : SessionTiming) (now : Nat)
    (browse : Bool) (job : String) :
    Reached canOpen timing browse job none
      ((start canOpen timing now browse job).2.filterMap Run.Output.request?)
      (start canOpen timing now browse job).1 :=
  .waits

/-- Wherever a run has come to, its requests are within the budget. -/
theorem Reached.within_budget (h : Reached canOpen timing browse job answer asked s) :
    WithinBudget timing.preview job (answer.bind Run.params?) asked := by
  cases h with
  | waits => rfl
  | plays starts playing =>
    simp only [Option.bind_some, starts]
    exact ⟨_, playing.le_budget, rfl⟩
  | ended budget => exact budget

/-- Where a run has ended, it has succeeded exactly if the preview has expired. -/
theorem Reached.success_iff (h : Reached canOpen timing browse job answer asked s)
    {ending : Ending} (hstage : s.run.stage = .ended ending) :
    ending = .success ↔ s.value.phase = .expired := by
  cases h with
  | waits => cases hstage
  | plays _ playing => rw [playing.stage] at hstage; cases hstage
  | ended _ stage success_iff =>
    rw [stage] at hstage
    cases hstage
    exact success_iff

/-- Before the status has come, a command waits for nothing else. -/
theorem step_waiting {m : Move} (h : m.reply? = none) (canOpen : String → Bool) (now : Nat) :
    step canOpen now (waiting timing browse job) m = (waiting timing browse job, []) := by
  cases m with
  | answered reply => cases h
  | wakes w => cases w <;> rfl
  | arrives | looks => rfl

/-- After its end a command does nothing, though what is on its way still arrives. -/
theorem step_ended {ending : Ending} (h : s.run.stage = .ended ending) (canOpen : String → Bool)
    (now : Nat) (m : Move) :
    (step canOpen now s m).1.run = s.run ∧ (step canOpen now s m).2 = [] := by
  have hmove (m : Run.Move) : s.run.move canOpen now m = (s.run, []) := Run.move_of_ended h m
  cases m with
  | answered reply => simp [step, h]
  | wakes w => simp [step, send, hmove]
  | arrives =>
    simp only [step]
    split
    · exact ⟨rfl, rfl⟩
    · simp [send, hmove]
  | looks => simp [step, send, hmove]

/-- What the first answer makes of a command that waits. -/
theorem Reached.answered (canOpen : String → Bool) (timing : SessionTiming) (browse : Bool)
    (job : String) (now : Nat) (reply : Reply) :
    let x := step canOpen now (waiting timing browse job) (.answered reply)
    Reached canOpen timing browse job (some reply)
      (.status job :: x.2.filterMap Run.Output.request?) x.1 := by
  intro x
  cases hstarts : Run.params? reply with
  | some params =>
    obtain ⟨n, hasks, hplaying⟩ := playing_start canOpen timing browse job now hstarts
    rw [hasks]
    exact .plays hstarts hplaying
  | none =>
    obtain ⟨f, hf⟩ := Run.startPreview_of_none hstarts canOpen
      (waiting timing browse job).run now
    have hx : x = (⟨{ (waiting timing browse job).run with stage := .ended (.failure f) }, []⟩, [])
        := by
      simp only [x, step, Run.openPreview, hstarts, hf]
      rfl
    rw [hx]
    refine .ended ?_ rfl ⟨nofun, nofun⟩
    rw [hstarts]
    rfl

/-- What a turn makes of a command that follows a preview. -/
theorem Playing.reached {reply : Reply} {params : PreviewParams} {n : Nat}
    (h : Playing canOpen timing.preview browse job params n s)
    (hstarts : Run.params? reply = some params) (now : Nat) :
    Reached canOpen timing browse job (some reply)
      (.status job :: List.replicate n (question job params)) (step canOpen now s .looks).1 := by
  cases hsettled : PreviewHost.isSettled s.value.phase with
  | false => exact .plays hstarts (h.look now hsettled)
  | true =>
    obtain ⟨-, -, hrun⟩ := step_looks h.goal h.stage canOpen now
    obtain ⟨said, ending, hending, hsuccess⟩ := PreviewHost.ending?_of_settled s.run.job hsettled
    refine .ended ?_ ?_ ((h.value_look now).symm ▸ hsuccess)
    · rw [hstarts]
      exact ⟨n, h.le_budget, rfl⟩
    · rw [hrun, hending]
      rfl

/-- Every move keeps what a command has come to, and accounts for the requests that go out. -/
theorem Reached.step (h : Reached canOpen timing browse job answer asked s) (now : Nat)
    (m : Move) :
    Reached canOpen timing browse job (answer.or m.reply?)
      (asked ++ (Showing.step canOpen now s m).2.filterMap Run.Output.request?)
      (Showing.step canOpen now s m).1 := by
  cases h with
  | waits =>
    cases m with
    | answered reply => exact .answered canOpen timing browse job now reply
    | wakes w =>
      rw [step_waiting rfl]
      exact .waits
    | arrives | looks => exact .waits
  | @plays reply params n _ starts playing =>
    rw [Option.some_or]
    cases m with
    | answered reply =>
      have hsame : Showing.step canOpen now s (.answered reply) = (s, []) := by
        simp [Showing.step, playing.stage]
      rw [hsame, List.filterMap_nil, List.append_nil]
      exact .plays starts playing
    | wakes w =>
      obtain ⟨k, hasks, hplaying⟩ := playing.wake now w
      rw [hasks, List.cons_append, List.replicate_append_replicate]
      exact .plays starts hplaying
    | arrives =>
      obtain ⟨hasks, hplaying, -⟩ := playing.arrive now
      rw [hasks, List.filterMap_nil, List.append_nil]
      exact .plays starts hplaying
    | looks =>
      obtain ⟨hasks, -⟩ := step_looks playing.goal playing.stage canOpen now
      rw [hasks, List.append_nil]
      exact playing.reached starts now
  | ended budget stage success_iff =>
    obtain ⟨hrun, hout⟩ := step_ended stage canOpen now m
    rw [hout, List.filterMap_nil, List.append_nil, Option.some_or]
    refine .ended budget (hrun ▸ stage) ?_
    rw [value, preview, hrun]
    exact success_iff

def requests (out : List (Nat × Run.Output)) : List Request := out.filterMap (·.2.request?)

theorem requests_timed (now : Nat) (out : List Run.Output) :
    requests (out.map (now, ·)) = out.filterMap Run.Output.request? := by
  rw [requests, List.filterMap_map]
  rfl

/-- A run goes on from where it has come to, with the requests of its moves on top. -/
theorem Reached.run (h : Reached canOpen timing browse job answer asked s)
    (moves : List (Nat × Move)) :
    Reached canOpen timing browse job (answer.or (answer? moves))
      (asked ++ requests (Machine.outputs (Showing.step canOpen) s moves))
      (Machine.after (Showing.step canOpen) s moves) := by
  induction moves generalizing answer asked s with
  | nil => simpa [answer?, requests] using h
  | cons x moves ih =>
    obtain ⟨now, m⟩ := x
    have hrest := ih (h.step now m)
    have hanswer : answer? ((now, m) :: moves) = m.reply?.or (answer? moves) := by
      cases hm : m.reply? <;> simp [answer?, hm]
    rw [hanswer, ← Option.or_assoc, Machine.outputs_cons, requests, List.filterMap_append,
      ← requests, ← requests, requests_timed, ← List.append_assoc]
    exact hrest

end Reached

/-! ## While the preview loads -/

/-- Whether the host has yet to see the phase, or a signal has yet to be taken up. -/
def Outstanding (s : Showing) : Prop :=
  s.run.host.phase ≠ some s.value.phase ∨ s.preview.unread ≠ [] ∨ s.told ≠ []

/-- The host needs no more than `reaction` for what it has to do about a preview that loads: until
that is done, no move comes later than that after the loading began. -/
def Prompt (canOpen : String → Bool) (reaction : Nat) : Showing → List (Nat × Move) → Prop :=
  Machine.Along (step canOpen) fun now s _ ↦ ∀ due, s.preview.loadingUntil? = some due →
    s.Outstanding → now + s.preview.timing.loadTimeout ≤ due + reaction

section Loading

variable {canOpen : String → Bool} {timing : SessionTiming} {browse : Bool} {job : String}
  {params : PreviewParams} {n : Nat} {answer : Option Reply} {asked : List Request} {s : Showing}

/-- While a preview loads its host has always something to do about it. -/
theorem Playing.outstanding (h : Playing canOpen timing.preview browse job params n s)
    (hp : s.value.phase = .loading) : s.Outstanding := by
  obtain ⟨said, htold, hscene⟩ := h.scene
  rcases hscene.of_loading hp with ⟨-, hunseen⟩ | ⟨-, signal, hone, -⟩
  · exact .inl (hp ▸ hunseen)
  · refine .inr ?_
    by_cases hunread : s.preview.unread = []
    · right
      rw [hunread, List.nil_append] at hone
      rw [htold, hone]
      nofun
    · exact .inl hunread

/-- The timer for loading is set while the preview loads only, and before its time it does nothing.
-/
theorem Playing.loadTimeout_of_prompt {reaction now : Nat}
    (h : Playing canOpen timing.preview browse job params n s)
    (hprompt : ∀ due, s.preview.loadingUntil? = some due → s.Outstanding →
      now + s.preview.timing.loadTimeout ≤ due + reaction)
    (hslow : reaction < timing.preview.loadTimeout) :
    step canOpen now s (.wakes .loadTimesOut) = (s, []) := by
  have hsilent : PreviewDriver.step now s.preview .loadTimeout = (s.preview, []) := by
    cases hr : s.preview.run with
    | none => simp [PreviewDriver.step, PreviewDriver.proceed, hr]
    | some r =>
      have hquiet : r.loadTimeout.any (· ≤ now) = false := by
        cases hset : r.loadTimeout with
        | none => rfl
        | some due =>
          have hdue : s.preview.loadingUntil? = some due := by
            simp [PreviewDriver.loadingUntil?, hr, hset]
          have harmed : r.resources.loadTimeout := by
            simp [PreviewDriver.Run.resources, hset]
          have hp := ((h.started.settled.fits r hr).loading_of_loadTimeout harmed).1
          have hle := hprompt due hdue (h.outstanding hp)
          rw [h.started.timing_eq] at hle
          simp only [Option.any_some, decide_eq_false_iff_not, Nat.not_le]
          omega
      simp [PreviewDriver.step, PreviewDriver.proceed, hr, PreviewDriver.Run.take, hquiet]
  rw [step_wakes h.stage]
  change (s.withPreview (PreviewDriver.step now s.preview .loadTimeout).1,
    Run.relay (PreviewDriver.step now s.preview .loadTimeout).2) = _
  rw [hsilent]
  rfl

/-- With a prompt host loading never takes too long. -/
theorem Reached.loadTimeout_of_prompt {reaction : Nat}
    (h : Reached canOpen timing browse job answer asked s)
    (hslow : reaction < timing.preview.loadTimeout) {moves : List (Nat × Move)}
    (hprompt : Prompt canOpen reaction s moves) :
    Machine.Along (Showing.step canOpen) (fun now s m ↦ m = .wakes .loadTimesOut →
      Showing.step canOpen now s m = (s, [])) s moves := by
  induction moves generalizing answer asked s with
  | nil => trivial
  | cons x moves ih =>
    obtain ⟨now, m⟩ := x
    refine ⟨?_, ih (h.step now m) hprompt.2⟩
    rintro rfl
    cases h with
    | waits => exact step_waiting rfl canOpen now
    | plays _ playing => exact playing.loadTimeout_of_prompt hprompt.1 hslow
    | ended _ stage =>
      have hmove : s.run.move canOpen now
          (.happens (.preview Wake.loadTimesOut.event)) = (s.run, []) := Run.move_of_ended stage _
      simp [Showing.step, send, hmove]

/-- Once the host has seen that a preview with an address loads, the word that it is shown is on its
way. -/
theorem Playing.markLoaded_pending (h : Playing canOpen timing.preview browse job params n s)
    (hp : s.value.phase = .loading) (hseen : s.run.host.phase = some .loading) {url : String}
    (hurl : s.value.activePreviewUrl = some url) (hopens : browse = true → canOpen url = true) :
    ∃ said : List Signal, s.told = said.map tell ∧ s.preview.unread ++ said = [.markLoaded] := by
  obtain ⟨said, htold, hscene⟩ := h.scene
  refine ⟨said, htold, ?_⟩
  rcases hscene.of_loading hp with ⟨-, hunseen⟩ | ⟨-, signal, hone, word⟩
  · exact absurd hseen hunseen
  · cases signal with
    | markLoaded => exact hone
    | reportError message =>
      obtain ⟨hbrowse, hfails⟩ := word url hurl
      rw [hopens hbrowse] at hfails
      contradiction
    | retry | resume => exact word.elim

/-- After one arrival that word waits to be taken up. -/
theorem Playing.unread_arrive (h : Playing canOpen timing.preview browse job params n s)
    (hp : s.value.phase = .loading) (hseen : s.run.host.phase = some .loading) {url : String}
    (hurl : s.value.activePreviewUrl = some url) (hopens : browse = true → canOpen url = true)
    (now : Nat) : (step canOpen now s .arrives).1.preview.unread = [.markLoaded] := by
  obtain ⟨said, htold, hpending⟩ := h.markLoaded_pending hp hseen hurl hopens
  obtain ⟨-, h', hvalue, hhost, htail⟩ := h.arrive now
  rw [← hvalue] at hp hurl
  rw [← hhost] at hseen
  obtain ⟨said', htold', hpending'⟩ := h'.markLoaded_pending hp hseen hurl hopens
  -- There was at most one thing on its way, and it is gone.
  have hnone : said' = [] := by
    have hlength := congrArg List.length hpending
    have hlength' := congrArg List.length (htold'.symm.trans htail)
    rw [htold] at hlength'
    simp only [List.length_append, List.length_map, List.length_tail, List.length_singleton]
      at hlength hlength'
    exact List.eq_nil_of_length_eq_zero (by omega)
  rw [hnone, List.append_nil] at hpending'
  exact hpending'

/-- A preview that takes up the word that it is shown is active. -/
theorem active_of_markLoaded {d : PreviewDriver} (h : Started timing.preview job params d)
    (hp : d.cell.value.phase = .loading) (hunread : d.unread = [.markLoaded]) (now : Nat) :
    (PreviewDriver.step now d .receive).1.cell.value.phase = .active := by
  cases hr : d.run with
  | none => simp [PreviewDriver.unread, hr] at hunread
  | some r =>
    have hinbox : r.inbox = [.markLoaded] := by simpa [PreviewDriver.unread, hr] using hunread
    have ht : r.take d.timing now .receive = some ({ r with inbox := [] }, .markLoaded) := by
      simp [PreviewDriver.Run.take, hinbox, Signal.event]
    rw [PreviewDriver.step_of_take hr ht,
      PreviewDriver.value_apply (h.settled.isCurrent_of_take hr ht)]
    simp [PreviewState.apply, hp]

/-- A preview with an address that loads is shown when the command has had its turn, what it tells
has arrived and the preview has come to it. -/
theorem Playing.shown (h : Playing canOpen timing.preview browse job params n s)
    (hp : s.value.phase = .loading) {url : String} (hurl : s.value.activePreviewUrl = some url)
    (hopens : browse = true → canOpen url = true) (t₁ t₂ t₃ : Nat) :
    (Machine.after (step canOpen) s
      [(t₁, .looks), (t₂, .arrives), (t₃, .wakes .receives)]).value.phase = .active := by
  have hmore : PreviewHost.isSettled s.value.phase = false := by rw [hp]; rfl
  have h₁ := h.look t₁ hmore
  have hvalue₁ := h.value_look t₁
  have hseen : (step canOpen t₁ s .looks).1.run.host.phase = some .loading := by
    obtain ⟨-, -, hrun⟩ := step_looks h.goal h.stage canOpen t₁
    rw [hrun]
    exact PreviewHost.phase_look_of_loading canOpen hp
  simp only [Machine.after_cons, Machine.after_nil]
  generalize (step canOpen t₁ s .looks).1 = s₁ at h₁ hvalue₁ hseen ⊢
  rw [← hvalue₁] at hp hurl
  obtain ⟨-, h₂, hvalue₂, -⟩ := h₁.arrive t₂
  have hunread := h₁.unread_arrive hp hseen hurl hopens t₂
  rw [← hvalue₂] at hp
  rw [step_wakes h₂.stage]
  exact active_of_markLoaded h₂.started hp hunread t₃

/-- So the preview is shown, wherever a command has come to. -/
theorem Reached.shown (h : Reached canOpen timing browse job answer asked s)
    (hstage : s.run.stage = .following) (hp : s.value.phase = .loading) {url : String}
    (hurl : s.value.activePreviewUrl = some url) (hopens : browse = true → canOpen url = true)
    (t₁ t₂ t₃ : Nat) :
    (Machine.after (Showing.step canOpen) s
      [(t₁, .looks), (t₂, .arrives), (t₃, .wakes .receives)]).value.phase = .active := by
  cases h with
  | waits => cases hstage
  | plays _ playing => exact playing.shown hp hurl hopens t₁ t₂ t₃
  | ended _ stage => rw [stage] at hstage; cases hstage

end Loading

/-! ## Every run -/

/-- What a command that shows a preview does, whatever the backend answers and whenever, if it is
left alone by the user.

It asks for the status once. If no preview starts from that, nothing else is asked for; if the
sandbox runs, it is checked at most once and never asked to resume; and if it is paused, it is not
checked and asked to resume no more often than the limit, or once where the limit is zero. A
preview that loads, with an address that the browser can open if it is to, is shown as soon as the
command has had its turn and has been heard. So with a host that needs less time than the timer for
loading, that timer never comes to anything. And the command ends well exactly if the preview has
expired. -/
theorem preview_within_budget (canOpen : String → Bool) (timing : SessionTiming) (t₀ : Nat)
    (browse : Bool) (job : String) (moves : List (Nat × Move)) :
    let begun := start canOpen timing t₀ browse job
    let s := Machine.after (step canOpen) begun.1 moves
    let out := begun.2.map (t₀, ·) ++ Machine.outputs (step canOpen) begun.1 moves
    WithinBudget timing.preview job ((answer? moves).bind Run.params?) (requests out) ∧
    (∀ url, s.run.stage = .following → s.value.phase = .loading →
      s.value.activePreviewUrl = some url → (browse = true → canOpen url = true) → ∀ t₁ t₂ t₃,
        (Machine.after (step canOpen) s
          [(t₁, .looks), (t₂, .arrives), (t₃, .wakes .receives)]).value.phase = .active) ∧
    (∀ reaction < timing.preview.loadTimeout, Prompt canOpen reaction begun.1 moves →
      Machine.Along (step canOpen) (fun now s m ↦ m = .wakes .loadTimesOut →
        step canOpen now s m = (s, [])) begun.1 moves) ∧
    ∀ ending, s.run.stage = .ended ending → (ending = .success ↔ s.value.phase = .expired) := by
  intro begun s out
  have hbegun := reached_start canOpen timing t₀ browse job
  have h := hbegun.run moves
  have hout : requests out = begun.2.filterMap Run.Output.request? ++
      requests (Machine.outputs (step canOpen) begun.1 moves) := by
    rw [← requests_timed t₀]
    exact List.filterMap_append
  refine ⟨?_, ?_, ?_, ?_⟩
  · rw [hout]
    exact h.within_budget
  · intro url hstage hp hurl hopens t₁ t₂ t₃
    exact h.shown hstage hp hurl hopens t₁ t₂ t₃
  · intro reaction hslow hprompt
    exact hbegun.loadTimeout_of_prompt hslow hprompt
  · intro ending hstage
    exact h.success_iff hstage

/-- The second request to resume brings an address, and the host needs less than half a second to
show it. The timer for loading comes to nothing before that and after it, and the preview runs
until its sandbox has expired. -/
theorem resumed_preview_expires :
    let canOpen : String → Bool := fun _ ↦ false
    let status : Reply :=
      .ok "[\"ready\",\"\",\"u\",null,null,null,\"1970-01-01T00:01:00Z\",true]".toUTF8.toList
    let clock : Timestamp := (Timestamp.epoch.addMillis? 66400).getD .epoch
    let begun := start canOpen .standard 0 false "j1"
    let loading : List (Nat × Move) :=
      [(100, .answered status), (100, .looks), (110, .arrives), (110, .wakes .receives),
        (30110, .wakes (.hears 0 (.error .timeout))), (35110, .wakes .asksAgain),
        (36000, .wakes (.hears 1 (.ok "[\"v\"]".toUTF8.toList)))]
    let shown : List (Nat × Move) :=
      [(36100, .looks), (36200, .wakes .loadTimesOut), (36300, .arrives),
        (36400, .wakes .receives)]
    let moves : List (Nat × Move) :=
      loading ++ shown ++
        [(66000, .wakes .loadTimesOut), (66400, .wakes (.looks clock)), (66400, .looks)]
    let s := Machine.after (step canOpen) begun.1 moves
    requests (begun.2.map (0, ·) ++ Machine.outputs (step canOpen) begun.1 moves) =
        [.status "j1", .resume "j1", .resume "j1"] ∧
      (Machine.after (step canOpen) (Machine.after (step canOpen) begun.1 loading)
        [(36100, .looks), (36300, .arrives), (36400, .wakes .receives)]).value.phase = .active ∧
      Machine.Along (step canOpen) (fun now s m ↦ m = .wakes .loadTimesOut →
        step canOpen now s m = (s, [])) begun.1 moves ∧
      s.run.stage = .ended .success ∧ s.value.phase = .expired := by
  intro canOpen status clock begun loading shown moves s
  have hrequests :
      requests (begun.2.map (0, ·) ++ Machine.outputs (step canOpen) begun.1 moves) =
        [.status "j1", .resume "j1", .resume "j1"] := by
    decide +kernel
  obtain ⟨-, hshows, -, -⟩ := preview_within_budget canOpen .standard 0 false "j1" loading
  obtain ⟨-, -, hslow, hends⟩ := preview_within_budget canOpen .standard 0 false "j1" moves
  have hactive := hshows "v" (by decide +kernel) (by decide +kernel) (by decide +kernel) nofun
    36100 36300 36400
  have hprompt : Prompt canOpen 500 begun.1 moves := by
    have hin : Machine.Along (step canOpen) (fun now s _ ↦ ∀ due ∈ s.preview.loadingUntil?,
        now + s.preview.timing.loadTimeout ≤ due + 500) begun.1 moves := by
      decide +kernel
    exact hin.imp fun now s m h due hdue _ ↦ h due hdue
  have hended : s.run.stage = .ended .success := by decide +kernel
  exact ⟨hrequests, hactive, hslow 500 (by decide) hprompt, hended, (hends _ hended).1 rfl⟩

end Showing

end JobWatch

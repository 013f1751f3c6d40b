import JobWatch.Proofs.Logs.Connection
import JobWatch.Proofs.Logs.Order

/-!
# The live signals of a log

Besides its lines a log shows how its connection stands and whether the build is being repaired.
Pages of earlier lines are silent in both respects: put in or left out anywhere, they do not change
the connection, and a line that a page brings is not read for signs of repair.

They are not without influence all the same. A live line is read only when it is taken up, and it is
not taken up when a page has brought its id before. So pages can forestall a live line, and its sign
is lost. What is shown of the repair is, at every moment, what the stream alone would show exactly
if every forestalled line only repeats what is shown (`pages_spare_live_signals`). The stream alone
shows the last sign that it has brought before the end.
-/

namespace JobWatch

/-- The sign of automatic repair that a line bears. Only a system line bears one. -/
def LogLine.sign? (line : LogLine) : Option AutoFixSignal :=
  if line.source = .system then AutoFix.detect line.text else none

/-- What a log shows of automatic repair. -/
structure Repair where
  attempt : Option Nat
  max : Option Nat
deriving DecidableEq, Repr

namespace Repair

def idle : Repair := ⟨none, none⟩

/-- What a sign says. -/
def ofSign : AutoFixSignal → Repair
  | .attempt attempt max => ⟨some attempt, some max⟩
  | .cleared => .idle

/-- What is shown after a line. -/
def note (r : Repair) (line : LogLine) : Repair := (line.sign?.map ofSign).getD r

/-- After some lines the last sign is shown that they bear. -/
theorem foldl_note (r : Repair) (lines : List LogLine) :
    lines.foldl note r = ((lines.filterMap LogLine.sign?).getLast?.map ofSign).getD r := by
  induction lines using List.reverseRecOn with
  | nil => rfl
  | append_singleton lines line ih =>
    rw [List.foldl_append, ih, List.filterMap_append]
    cases hline : line.sign? with
    | none => simp [note, hline]
    | some sign => simp [note, hline]

end Repair

namespace LogBuffer

/-- What a log shows of automatic repair. -/
def repair (b : LogBuffer) : Repair := ⟨b.autoFixAttempt, b.autoFixMax⟩

/-- The live lines that come before the stream tells the end. -/
def liveLines : List LogEvent → List LogLine
  | [] | .stream (.done _) :: _ => []
  | .stream (.log line) :: es => line :: liveLines es
  | .connected :: es | .disconnected :: es | .stream .heartbeat :: es | .backfill _ :: es =>
    liveLines es

/-- A live line is not taken up, and only because a page has brought its id: the stream alone has
not. -/
def Forestalled (job : Option String) (es : List LogEvent) (line : LogLine) : Prop :=
  ((initial job).applyAll es).isDone = false ∧ line.id ∈ ((initial job).applyAll es).ids ∧
    line.id ∉ ((initial job).applyAll (es.filter LogEvent.ofStream)).ids

/-! ## One event -/

section Apply

variable {b : LogBuffer}

theorem repair_noteAutoFix (b : LogBuffer) (text : String) :
    (b.noteAutoFix text).repair = ((AutoFix.detect text).map Repair.ofSign).getD b.repair := by
  unfold noteAutoFix
  cases AutoFix.detect text with
  | none => rfl
  | some sign => cases sign <;> rfl

/-- A live line that is taken up shows what its sign says. -/
theorem repair_append_of_new {line : LogLine} (h : line.id ∉ b.seen) :
    (b.append line).repair = b.repair.note line := by
  have hfresh : b.seen.contains line.id = false := by simpa using h
  simp only [append, hfresh, Repair.note, LogLine.sign?]
  by_cases hsystem : line.source = .system
  · simp only [hsystem, if_true]
    exact repair_noteAutoFix b line.text
  · simp only [hsystem, if_false]
    rfl

/-- Lines are read for signs where they are taken up, and those of pages are not. -/
theorem repair_apply (h : Sound b) (e : LogEvent) :
    (b.apply e).repair = (b.back e).foldl Repair.note b.repair := by
  cases e with
  | disconnected | backfill page => rfl
  | connected => simp only [apply]; split <;> rfl
  | stream event =>
    by_cases hdone : b.isDone
    · cases event <;> simp [apply, applyStream, back, hdone]
    · cases event with
      | heartbeat | done status => simp [apply, applyStream, back, hdone, repair]
      | log line =>
        by_cases hline : line.id ∈ b.seen
        · simp [apply, applyStream, back, hdone, append_of_seen hline, (h.mem_seen _).1 hline]
        · have hnew : line.id ∉ b.ids := fun hid ↦ hline ((h.mem_seen _).2 hid)
          simp [apply, applyStream, back, hdone, hnew, repair_append_of_new hline]

/-- What a log shows of automatic repair is told by the live lines that it took up. -/
theorem repair_applyAll (h : Sound b) (es : List LogEvent) :
    (b.applyAll es).repair = (taken b es).foldl Repair.note b.repair := by
  induction es generalizing b with
  | nil => rfl
  | cons e es ih => rw [applyAll_cons, ih (h.apply e), repair_apply h, taken, List.foldl_append]

/-- The stream brings lines behind the held ones only. -/
theorem ids_apply_of_ofStream (h : Sound b) {e : LogEvent} (he : e.ofStream) :
    (b.apply e).ids = b.ids ++ (b.back e).map (·.id) := by
  rw [ids, lines_apply_of_ofStream h he, List.map_append]
  rfl

/-- A line is taken up if it comes live before the end and its id is not held. -/
theorem mem_back {e : LogEvent} {line : LogLine} :
    line ∈ b.back e ↔ e = .stream (.log line) ∧ b.isDone = false ∧ line.id ∉ b.ids := by
  cases e with
  | connected | disconnected | backfill page => simp [back]
  | stream event =>
    cases event with
    | heartbeat | done status => simp [back]
    | log other =>
      by_cases h : b.isDone ∨ other.id ∈ b.ids
      · simp only [back, h, if_true, List.not_mem_nil, LogEvent.stream.injEq,
          StreamEvent.log.injEq, false_iff]
        rintro ⟨rfl, hdone, hid⟩
        simp [hdone, hid] at h
      · simp only [not_or, Bool.not_eq_true] at h
        simp only [back, h, LogEvent.stream.injEq, StreamEvent.log.injEq]
        grind

end Apply

/-! ## With and without pages -/

section Stream

variable (job : Option String) (es : List LogEvent)

theorem link_eq_of_filter (b : LogBuffer) {es fs : List LogEvent}
    (h : fs.filter LogEvent.ofStream = es.filter LogEvent.ofStream) :
    (b.applyAll fs).link = (b.applyAll es).link := by rw [link_applyAll, link_applyAll, h]

/-- Pages do not tell whether the build has ended. -/
theorem isDone_filter :
    ((initial job).applyAll (es.filter LogEvent.ofStream)).isDone =
      ((initial job).applyAll es).isDone :=
  congrArg Link.isDone (link_eq_of_filter _ (by simp))

/-- What the stream alone makes a log hold, it holds with pages as well. -/
theorem ids_filter_subset :
    ((initial job).applyAll (es.filter LogEvent.ofStream)).ids ⊆ ((initial job).applyAll es).ids := by
  induction es using List.reverseRecOn with
  | nil => exact List.Subset.refl _
  | append_singleton es e ih =>
    have hb : Sound ((initial job).applyAll es) := (Sound.initial job).applyAll es
    have hkept : ((initial job).applyAll es).ids ⊆ ((initial job).applyAll (es ++ [e])).ids := by
      rw [applyAll_concat]
      exact ids_subset_applyAll hb [e]
    cases he : e.ofStream with
    | false =>
      have hfilter : (es ++ [e]).filter LogEvent.ofStream = es.filter LogEvent.ofStream := by
        simp [he]
      rw [hfilter]
      exact List.Subset.trans ih hkept
    | true =>
      intro id hid
      have hfilter : (es ++ [e]).filter LogEvent.ofStream = es.filter LogEvent.ofStream ++ [e] := by
        simp [he]
      rw [hfilter, applyAll_concat, ids_apply_of_ofStream ((Sound.initial job).applyAll _) he] at hid
      rcases List.mem_append.1 hid with hold | hnew
      · exact hkept (ih hold)
      · obtain ⟨line, hline, rfl⟩ := List.mem_map.1 hnew
        obtain ⟨rfl, hopen, -⟩ := mem_back.1 hline
        rw [isDone_filter] at hopen
        simpa [applyAll_concat, LogBuffer.apply, applyStream, hopen] using (hb.append line).2

variable {job es}

/-- A forestalled line is taken up by the stream alone, and only there. -/
theorem Forestalled.back {line : LogLine} (h : Forestalled job es line) :
    ((initial job).applyAll es).back (.stream (.log line)) = [] ∧
      ((initial job).applyAll (es.filter LogEvent.ofStream)).back (.stream (.log line)) =
        [line] := by
  obtain ⟨hopen, hheld, hnew⟩ := h
  have hopen' := (isDone_filter job es).trans hopen
  exact ⟨by simp [LogBuffer.back, hheld], by simp [LogBuffer.back, hopen', hnew]⟩

/-- An event is taken up with pages as without them, unless it brings a line that is forestalled. -/
theorem back_filter {e : LogEvent} (h : ∀ line, e = .stream (.log line) → ¬Forestalled job es line) :
    ((initial job).applyAll (es.filter LogEvent.ofStream)).back e =
      ((initial job).applyAll es).back e := by
  cases e with
  | connected | disconnected | backfill page => rfl
  | stream event =>
    cases event with
    | heartbeat | done status => rfl
    | log line =>
      have hline := h line rfl
      have hsub : line.id ∈ ((initial job).applyAll (es.filter LogEvent.ofStream)).ids →
          line.id ∈ ((initial job).applyAll es).ids := @ids_filter_subset job es line.id
      simp only [Forestalled, not_and, not_not] at hline
      simp only [LogBuffer.back, isDone_filter]
      by_cases hdone : ((initial job).applyAll es).isDone
      · simp [hdone]
      · have hiff := Iff.intro hsub (hline (by simpa using hdone))
        simp only [hdone, hiff]

/-- The same is shown with pages as without them as long as the lines that are forestalled repeat
what is shown. -/
theorem repair_filter_of_repeats {es : List LogEvent}
    (h : ∀ pre line, pre ++ [.stream (.log line)] <+: es → Forestalled job pre line →
      ((initial job).applyAll pre).repair.note line = ((initial job).applyAll pre).repair)
    {pre : List LogEvent} (hpre : pre <+: es) :
    ((initial job).applyAll pre).repair =
      ((initial job).applyAll (pre.filter LogEvent.ofStream)).repair := by
  induction pre using List.reverseRecOn with
  | nil => rfl
  | append_singleton pre e ih =>
    have ih := ih ((List.prefix_append pre [e]).trans hpre)
    have hb : Sound ((initial job).applyAll pre) := (Sound.initial job).applyAll pre
    cases he : e.ofStream with
    | false =>
      have hfilter : (pre ++ [e]).filter LogEvent.ofStream = pre.filter LogEvent.ofStream := by
        simp [he]
      have hback : ((initial job).applyAll pre).back e = [] := by
        cases e with
        | backfill page => rfl
        | connected | disconnected | stream event => exact nomatch he
      rw [hfilter, applyAll_concat, repair_apply hb, hback]
      exact ih
    | true =>
      have hfilter : (pre ++ [e]).filter LogEvent.ofStream =
          pre.filter LogEvent.ofStream ++ [e] := by simp [he]
      rw [hfilter, applyAll_concat, applyAll_concat, repair_apply hb,
        repair_apply ((Sound.initial job).applyAll _), ← ih]
      by_cases hlost : ∃ line, e = .stream (.log line) ∧ Forestalled job pre line
      · obtain ⟨line, rfl, hlost⟩ := hlost
        rw [hlost.back.1, hlost.back.2]
        exact (h pre line hpre hlost).symm
      · rw [back_filter fun line heq hline ↦ hlost ⟨line, heq, hline⟩]

end Stream

/-! ## The stream alone -/

theorem isDone_apply_of_isDone {b : LogBuffer} (h : b.isDone) (e : LogEvent) :
    (b.apply e).isDone := by
  have hlink : b.link.isDone = true := h
  have hkept : (b.link.apply e).isDone = true := by
    cases e with
    | connected | disconnected | backfill page => simp [Link.apply, hlink]
    | stream event => cases event <;> simp [Link.apply, hlink]
  rw [← link_apply] at hkept
  exact hkept

/-- After the end nothing is taken up. -/
theorem taken_of_isDone {b : LogBuffer} (h : b.isDone) (es : List LogEvent) : taken b es = [] := by
  induction es generalizing b with
  | nil => rfl
  | cons e es ih =>
    have hback : b.back e = [] := by
      refine List.eq_nil_iff_forall_not_mem.2 fun line hline ↦ ?_
      exact nomatch h.symm.trans (mem_back.1 hline).2.1
    rw [taken, hback, ih (isDone_apply_of_isDone h e), List.nil_append]

theorem liveLines_filter (es : List LogEvent) :
    liveLines (es.filter LogEvent.ofStream) = liveLines es := by
  induction es with
  | nil => rfl
  | cons e es ih =>
    cases e with
    | connected | disconnected | backfill page => exact ih
    | stream event =>
      cases event with
      | heartbeat => exact ih
      | done status => rfl
      | log line => exact congrArg (line :: ·) ih

/-- The stream alone makes a log take up every live line before the end, if their ids are
distinct. -/
theorem taken_eq_liveLines {b : LogBuffer} (hb : Sound b) (hopen : b.isDone = false)
    {es : List LogEvent} (hes : ∀ e ∈ es, e.ofStream) (hids : ((liveLines es).map (·.id)).Nodup)
    (hnew : ∀ line ∈ liveLines es, line.id ∉ b.ids) : taken b es = liveLines es := by
  induction es generalizing b with
  | nil => rfl
  | cons e es ih =>
    have hsame := ids_apply_of_ofStream hb (hes e List.mem_cons_self)
    have ih := @ih (b.apply e) (hb.apply e)
    have hes' : ∀ e ∈ es, e.ofStream := fun e he ↦ hes e (List.mem_cons_of_mem _ he)
    cases e with
    | backfill page => exact nomatch hes _ List.mem_cons_self
    | connected | disconnected =>
      refine ih ((isDone_apply b _ (by simp)).trans hopen) hes' hids fun line hline ↦ ?_
      simpa [hsame, back] using hnew line hline
    | stream event =>
      cases event with
      | heartbeat =>
        refine ih ((isDone_apply b _ (by simp)).trans hopen) hes' hids fun line hline ↦ ?_
        simpa [hsame, back] using hnew line hline
      | done status =>
        have hdone : (b.apply (.stream (.done status))).isDone := by
          simp [LogBuffer.apply, applyStream, hopen]
        rw [taken, taken_of_isDone hdone]
        rfl
      | log line =>
        obtain ⟨hline, hrest⟩ := List.nodup_cons.1 hids
        have hback : b.back (.stream (.log line)) = [line] := by
          simp [back, hopen, hnew line List.mem_cons_self]
        rw [taken, hback, liveLines, ih ((isDone_apply b _ (by simp)).trans hopen) hes' hrest]
        · rfl
        · intro other hother hmem
          rw [hsame, hback, List.map_singleton, List.mem_append, List.mem_singleton] at hmem
          rcases hmem with hold | heq
          · exact hnew other (List.mem_cons_of_mem _ hother) hold
          · exact hline (List.mem_map.2 ⟨other, hother, heq⟩)

/-! ## Pages and signals -/

/-- What pages of earlier lines can do to the live signals of a log.

The connection is the same however pages are put in or left out. What is shown of automatic repair is
after every event what the stream alone makes the log show, exactly if every live line that a page
has forestalled repeats what is shown. And the stream alone, if the ids of its lines are distinct,
makes the log show the last sign that its lines bear before the end. -/
theorem pages_spare_live_signals (job : Option String) (es : List LogEvent) :
    (∀ fs, fs.filter LogEvent.ofStream = es.filter LogEvent.ofStream →
      ((initial job).applyAll fs).link = ((initial job).applyAll es).link) ∧
    ((∀ pre, pre <+: es → ((initial job).applyAll pre).repair =
        ((initial job).applyAll (pre.filter LogEvent.ofStream)).repair) ↔
      ∀ pre line, pre ++ [.stream (.log line)] <+: es → Forestalled job pre line →
        ((initial job).applyAll pre).repair.note line = ((initial job).applyAll pre).repair) ∧
    (((liveLines es).map (·.id)).Nodup →
      ((initial job).applyAll (es.filter LogEvent.ofStream)).repair =
        (((liveLines es).filterMap LogLine.sign?).getLast?.map Repair.ofSign).getD .idle) := by
  refine ⟨fun fs ↦ link_eq_of_filter _, ⟨fun h pre line hpre hlost ↦ ?_, fun h pre ↦
    repair_filter_of_repeats h⟩, fun hids ↦ ?_⟩
  · have hbefore := h pre ((List.prefix_append pre _).trans hpre)
    have hafter := h _ hpre
    have hfilter : (pre ++ [LogEvent.stream (.log line)]).filter LogEvent.ofStream =
        pre.filter LogEvent.ofStream ++ [.stream (.log line)] := by simp [LogEvent.ofStream]
    rw [hfilter, applyAll_concat, applyAll_concat, repair_apply ((Sound.initial job).applyAll _),
      repair_apply ((Sound.initial job).applyAll _), hlost.back.1, hlost.back.2, ← hbefore] at hafter
    exact hafter.symm
  · have hopen : (initial job).isDone = false := by cases job <;> rfl
    have hidle : (initial job).repair = .idle := by cases job <;> rfl
    have hnone : (initial job).ids = [] := by cases job <;> rfl
    have hstream : ∀ e ∈ es.filter LogEvent.ofStream, e.ofStream := fun e he ↦ List.of_mem_filter he
    rw [← liveLines_filter] at hids ⊢
    rw [repair_applyAll (Sound.initial job), hidle, Repair.foldl_note,
      taken_eq_liveLines (Sound.initial job) hopen hstream hids (by simp [hnone])]

/-- A page that overlaps what has come live brings no line that is still to come, and the attempt
that is announced after it is shown. -/
theorem attempt_shown_after_page :
    let line : String → String → LogLine := fun id text ↦ ⟨id, .epoch, .system, text, none⟩
    let es : List LogEvent := [.stream (.log (line "b" "Auto-fix attempt 1 of 3")),
      .backfill ⟨[line "a" "Running health checks", line "b" "Auto-fix attempt 1 of 3"], false, none⟩,
      .stream (.log (line "c" "Auto-fix attempt 2 of 3"))]
    ((liveLines es).map (·.id)).Nodup ∧
      ((initial (some "j1")).applyAll es).repair = ⟨some 2, some 3⟩ := by
  intro line es
  have hids : ((liveLines es).map (·.id)).Nodup := by decide
  obtain ⟨-, hiff, hlast⟩ := pages_spare_live_signals (some "j1") es
  refine ⟨hids, ?_⟩
  rw [hiff.2 ?_ es (List.prefix_refl es), hlast hids]
  · decide +kernel
  · rintro pre l hpre ⟨-, hheld, -⟩
    rcases pre with - | ⟨e₁, - | ⟨e₂, - | ⟨e₃, pre⟩⟩⟩
    · exact absurd hheld List.not_mem_nil
    · simp [es, List.cons_prefix_cons] at hpre
    · obtain ⟨rfl, rfl, rfl⟩ : e₁ = _ ∧ e₂ = _ ∧ l = _ := by
        simpa [es, List.cons_prefix_cons] using hpre
      revert hheld
      decide +kernel
    · simp [es, List.cons_prefix_cons] at hpre

/-- An attempt of which a page tells first is not shown when it is announced live: without the page
it would be. -/
theorem forestalled_attempt_unseen :
    ¬∀ (job : Option String) (es fs : List LogEvent),
      fs.filter LogEvent.ofStream = es.filter LogEvent.ofStream →
        ((initial job).applyAll fs).repair = ((initial job).applyAll es).repair := by
  intro h
  let line : LogLine := ⟨"a", .epoch, .system, "Auto-fix attempt 1 of 3", none⟩
  have hsame := h (some "j1") [.connected, .stream (.log line)]
    [.connected, .backfill ⟨[line], false, none⟩, .stream (.log line)] rfl
  revert hsame
  decide +kernel

end LogBuffer

end JobWatch

import JobWatch.Logs.Buffer
import Mathlib.Data.List.Nodup

/-!
# What a log holds

A log takes up lines from two sides while it remembers which ids it has taken, so that a line that
comes from both sides is held once. Whatever the order in which live lines and pages come, the ids
taken are the ids held (`Sound`), lines only ever enter at the ends (`lines_apply`), and the lines
from pages stand in the order of their timestamps before the live ones (`lines_applyAll`).

A page may only bring lines that are not later than the first held line. That is enough for the
order of the lines from pages: where there are any, the first held line is one of them and the
earliest.
-/

namespace JobWatch

namespace LogBuffer

def ids (b : LogBuffer) : List String := b.lines.map (·.id)

def applyAll (b : LogBuffer) (es : List LogEvent) : LogBuffer := es.foldl apply b

/-- The log before any event, of a job or of none. -/
def initial (job : Option String) : LogBuffer := job.elim empty forJob

/-- The lines that an event puts in front. -/
def front (b : LogBuffer) : LogEvent → List LogLine
  | .backfill page => (b.fresh page).1.mergeSort fun x y ↦ x.timestamp.le y.timestamp
  | _ => []

/-- The lines that an event puts behind: a live line that comes before the end and whose id is not
held. -/
def back (b : LogBuffer) : LogEvent → List LogLine
  | .stream (.log line) => if b.isDone ∨ line.id ∈ b.ids then [] else [line]
  | _ => []

/-- The live lines that a log takes up over some events, in the order of receipt. -/
def taken : LogBuffer → List LogEvent → List LogLine
  | _, [] => []
  | b, e :: es => b.back e ++ taken (b.apply e) es

/-- Lines in the order of their timestamps. -/
def InOrder (lines : List LogLine) : Prop := lines.Pairwise fun x y ↦ x.timestamp.le y.timestamp

/-- A line of a page that a log takes: it is not later than the first held line, its id is not held,
and of the lines of the page that are not later it is the first with this id. -/
def Accepts (b : LogBuffer) (page : LogsPage) (line : LogLine) : Prop :=
  ∃ before after, page.lines = before ++ line :: after ∧ b.mayPrecede line ∧ line.id ∉ b.ids ∧
    ∀ l ∈ before, b.mayPrecede l → l.id ≠ line.id

/-- The ids that a log has taken are those that it holds, each once. -/
structure Sound (b : LogBuffer) : Prop where
  nodup : b.ids.Nodup
  mem_seen : ∀ id, id ∈ b.seen ↔ id ∈ b.ids

/-! ## Fresh lines -/

section TakeFresh

variable (seen : List String) (lines : List LogLine)

theorem takeFresh_sublist : (takeFresh seen lines).1.Sublist lines := by
  fun_induction takeFresh seen lines with
  | case1 => exact .slnil
  | case2 seen line rest _ ih => exact ih.cons line
  | case3 seen line rest _ fresh seen' heq ih =>
    rw [heq] at ih
    exact ih.cons_cons line

/-- The ids that are taken afterwards are those from before and those of the fresh lines. -/
theorem mem_takeFresh_seen (id : String) :
    id ∈ (takeFresh seen lines).2 ↔ id ∈ seen ∨ id ∈ (takeFresh seen lines).1.map (·.id) := by
  fun_induction takeFresh seen lines with
  | case1 => simp
  | case2 seen line rest _ ih => exact ih
  | case3 seen line rest _ fresh seen' heq ih =>
    rw [heq] at ih
    simp only [ih, List.mem_cons, List.map_cons]
    tauto

/-- A fresh line is the first one of its id, and that is new. -/
theorem mem_takeFresh_iff {line : LogLine} : line ∈ (takeFresh seen lines).1 ↔
    ∃ before after, lines = before ++ line :: after ∧ line.id ∉ seen ∧
      ∀ l ∈ before, l.id ≠ line.id := by
  fun_induction takeFresh seen lines with
  | case1 => simp
  | case2 seen first rest hseen ih =>
    rw [ih]
    have hheld : first.id ∈ seen := by simpa using hseen
    constructor
    · rintro ⟨before, after, rfl, hline, hbefore⟩
      refine ⟨first :: before, after, rfl, hline, List.forall_mem_cons.2 ⟨?_, hbefore⟩⟩
      exact fun heq ↦ hline (heq ▸ hheld)
    · rintro ⟨before, after, heq, hline, hbefore⟩
      cases before with
      | nil => exact absurd ((List.cons.inj heq).1 ▸ hheld) hline
      | cons l before =>
        exact ⟨before, after, (List.cons.inj heq).2, hline, fun x hx ↦
          hbefore x (List.mem_cons_of_mem l hx)⟩
  | case3 seen first rest hnew fresh seen' heq ih =>
    have hfirst : first.id ∉ seen := by simpa using hnew
    rw [heq] at ih
    rw [List.mem_cons, ih]
    constructor
    · rintro (rfl | ⟨before, after, rfl, hline, hbefore⟩)
      · exact ⟨[], rest, rfl, hfirst, by simp⟩
      · rw [List.mem_cons, not_or] at hline
        exact ⟨first :: before, after, rfl, hline.2,
          List.forall_mem_cons.2 ⟨fun h ↦ hline.1 h.symm, hbefore⟩⟩
    · rintro ⟨before, after, heq, hline, hbefore⟩
      cases before with
      | nil => exact .inl (List.cons.inj heq).1.symm
      | cons l before =>
        obtain ⟨rfl, hrest⟩ := List.cons.inj heq
        obtain ⟨hne, hbefore⟩ := List.forall_mem_cons.1 hbefore
        refine .inr ⟨before, after, hrest, ?_, hbefore⟩
        rw [List.mem_cons, not_or]
        exact ⟨fun h ↦ hne h.symm, hline⟩

theorem takeFresh_new : ∀ line ∈ (takeFresh seen lines).1, line.id ∉ seen := by
  intro line hline
  obtain ⟨-, -, -, hnew, -⟩ := (mem_takeFresh_iff seen lines).1 hline
  exact hnew

/-- No two fresh lines have the same id. -/
theorem takeFresh_nodup : ((takeFresh seen lines).1.map (·.id)).Nodup := by
  fun_induction takeFresh seen lines with
  | case1 => simp
  | case2 seen line rest _ ih => exact ih
  | case3 seen line rest _ fresh seen' heq ih =>
    have hnew := takeFresh_new (line.id :: seen) rest
    rw [heq] at ih hnew
    refine List.nodup_cons.2 ⟨fun hmem ↦ ?_, ih⟩
    obtain ⟨l, hl, hid⟩ := List.mem_map.1 hmem
    exact hnew l hl (hid ▸ List.mem_cons_self)

end TakeFresh

/-! ## One event -/

section Apply

variable (b : LogBuffer)

@[simp] theorem isDone_noteAutoFix (text : String) : (b.noteAutoFix text).isDone = b.isDone := by
  unfold noteAutoFix
  split <;> rfl

variable {b} {line : LogLine}

/-- A live line whose id has been taken changes nothing. -/
theorem append_of_seen (h : line.id ∈ b.seen) : b.append line = b := by simp [append, h]

/-- A live line whose id is new goes to the end. -/
theorem lines_append_of_new (h : line.id ∉ b.seen) : (b.append line).lines = b.lines ++ [line] := by
  simp [append, h]

theorem seen_append_of_new (h : line.id ∉ b.seen) : (b.append line).seen = line.id :: b.seen := by
  simp [append, h]

variable (b line)

@[simp] theorem isDone_append : (b.append line).isDone = b.isDone := by
  unfold append
  split
  · rfl
  · change LogBuffer.isDone (if _ then _ else _) = _
    split
    · exact isDone_noteAutoFix ..
    · rfl

variable {b}

/-- A log changes at its ends only: the lines that were held stay where they are, side by side. -/
theorem lines_apply (h : Sound b) (e : LogEvent) :
    (b.apply e).lines = b.front e ++ b.lines ++ b.back e := by
  cases e with
  | connected => simp only [apply]; split <;> simp [front, back]
  | disconnected => simp [apply, front, back]
  | backfill page => simp [apply, prepend, front, back]
  | stream event =>
    simp only [apply, applyStream]
    cases event with
    | heartbeat => split <;> simp [front, back]
    | done status => split <;> simp [front, back]
    | log line =>
      by_cases hs : line.id ∈ b.seen
      · simp [append_of_seen hs, front, back, (h.mem_seen _).1 hs]
      · have hnew : line.id ∉ b.ids := fun hid ↦ hs ((h.mem_seen _).2 hid)
        split
        next hd => simp [front, back, hd]
        next hd => simp [lines_append_of_new hs, front, back, hnew, hd]

/-- The number of lines that an event says it has added is the number by which the log grows. -/
theorem added_eq_growth (h : Sound b) (e : LogEvent) :
    b.added e = (b.front e).length + (b.back e).length := by
  cases e with
  | connected | disconnected | backfill => simp [added, front, back]
  | stream event =>
    cases event with
    | heartbeat | done => simp [added, front, back]
    | log line =>
      by_cases hs : b.isDone ∨ line.id ∈ b.ids <;> simp [added, front, back, h.mem_seen, hs]

variable (b)

theorem isDone_apply (e : LogEvent) (he : ∀ status, e ≠ .stream (.done status)) :
    (b.apply e).isDone = b.isDone := by
  cases e with
  | connected => simp only [apply]; split <;> rfl
  | disconnected => rfl
  | backfill page => rfl
  | stream event =>
    simp only [apply, applyStream]
    cases event with
    | heartbeat => split <;> rfl
    | done status => exact absurd rfl (he status)
    | log line => split <;> simp

end Apply

theorem Sound.initial (job : Option String) : Sound (initial job) := by
  cases job <;> exact ⟨.nil, fun _ ↦ .rfl⟩

/-- A page brings lines with new ids, each once. -/
theorem Sound.prepend {b : LogBuffer} (h : Sound b) (page : LogsPage) : Sound (b.prepend page) := by
  have hids : (b.prepend page).ids.Perm ((b.fresh page).1.map (·.id) ++ b.ids) := by
    simp only [ids, LogBuffer.prepend, List.map_append]
    exact ((List.mergeSort_perm _ _).map _).append_right _
  constructor
  · rw [hids.nodup_iff, List.nodup_append]
    refine ⟨takeFresh_nodup .., h.nodup, fun x hx y hy ↦ ?_⟩
    obtain ⟨line, hline, rfl⟩ := List.mem_map.1 hx
    rintro rfl
    exact takeFresh_new _ _ line hline ((h.mem_seen _).2 hy)
  · intro id
    rw [hids.mem_iff, List.mem_append, ← h.mem_seen, or_comm]
    exact mem_takeFresh_seen ..

/-- A live line is held after it has come. -/
theorem Sound.append {b : LogBuffer} (h : Sound b) (line : LogLine) :
    Sound (b.append line) ∧ line.id ∈ (b.append line).ids := by
  by_cases hs : line.id ∈ b.seen
  · rw [append_of_seen hs]
    exact ⟨h, (h.mem_seen _).1 hs⟩
  · have hids : (b.append line).ids = b.ids ++ [line.id] := by
      simp [ids, lines_append_of_new hs]
    have hnew : line.id ∉ b.ids := fun hid ↦ hs ((h.mem_seen _).2 hid)
    refine ⟨⟨?_, fun id ↦ ?_⟩, ?_⟩
    · rw [hids, List.nodup_append]
      refine ⟨h.nodup, List.nodup_singleton _, fun x hx y hy ↦ ?_⟩
      rintro rfl
      exact hnew (List.mem_singleton.1 hy ▸ hx)
    · rw [seen_append_of_new hs, hids, List.mem_cons, h.mem_seen, List.mem_append,
        List.mem_singleton, or_comm]
    · rw [hids]
      exact List.mem_append_right _ (List.mem_singleton_self _)

/-- Every event leaves a sound log sound. -/
theorem Sound.apply {b : LogBuffer} (h : Sound b) (e : LogEvent) : Sound (b.apply e) := by
  cases e with
  | connected => simp only [LogBuffer.apply]; split <;> exact ⟨h.nodup, h.mem_seen⟩
  | disconnected => exact ⟨h.nodup, h.mem_seen⟩
  | backfill page => exact h.prepend page
  | stream event =>
    simp only [LogBuffer.apply, applyStream]
    split
    · exact h
    · cases event with
      | heartbeat => exact h
      | done status => exact ⟨h.nodup, h.mem_seen⟩
      | log line => exact (h.append line).1

/-! ## Every run -/

theorem Sound.applyAll {b : LogBuffer} (h : Sound b) (es : List LogEvent) :
    Sound (b.applyAll es) := by
  induction es generalizing b with
  | nil => exact h
  | cons e es ih => exact ih (h.apply e)

/-- What is held stays held. -/
theorem ids_subset_applyAll {b : LogBuffer} (h : Sound b) (es : List LogEvent) :
    b.ids ⊆ (b.applyAll es).ids := by
  induction es generalizing b with
  | nil => exact fun _ ↦ id
  | cons e es ih =>
    intro id hid
    refine ih (h.apply e) ?_
    rw [ids, lines_apply h]
    simp only [List.map_append, List.mem_append]
    exact .inl (.inr hid)

theorem isDone_applyAll (b : LogBuffer) {es : List LogEvent}
    (hes : ∀ status, .stream (.done status) ∉ es) : (b.applyAll es).isDone = b.isDone := by
  induction es generalizing b with
  | nil => rfl
  | cons e es ih =>
    have he : ∀ status, e ≠ .stream (.done status) := fun status heq ↦
      hes status (heq ▸ List.mem_cons_self)
    calc
      _ = (b.apply e).isDone := ih _ fun status hmem ↦ hes status (List.mem_cons_of_mem e hmem)
      _ = b.isDone := isDone_apply b e he

/-- What a page puts in front is in the order of the timestamps. -/
theorem inOrder_front (b : LogBuffer) (e : LogEvent) : InOrder (b.front e) := by
  have hsorted : ∀ l : List LogLine,
      InOrder (l.mergeSort fun x y ↦ x.timestamp.le y.timestamp) :=
    List.pairwise_mergeSort (fun _ _ _ ↦ Timestamp.le_trans) fun _ _ ↦ Timestamp.le_total _ _
  cases e with
  | backfill page => exact hsorted _
  | _ => exact .nil

/-- Lines that are put in front come from a page and may stand there. -/
theorem mem_front {b : LogBuffer} {e : LogEvent} {line : LogLine} (h : line ∈ b.front e) :
    (∃ page, e = .backfill page ∧ line ∈ page.lines) ∧ b.mayPrecede line := by
  cases e with
  | backfill page =>
    have hfresh : line ∈ (b.fresh page).1 := List.mem_mergeSort.1 h
    obtain ⟨hpage, hmay⟩ := List.mem_filter.1 ((takeFresh_sublist ..).subset hfresh)
    exact ⟨⟨page, rfl, hpage⟩, hmay⟩
  | _ => exact absurd h List.not_mem_nil

/-- A page brings the lines that the log takes, and no others. -/
theorem mem_front_iff {b : LogBuffer} (h : Sound b) {page : LogsPage} {line : LogLine} :
    line ∈ b.front (.backfill page) ↔ Accepts b page line := by
  rw [front, List.mem_mergeSort, LogBuffer.fresh, mem_takeFresh_iff]
  simp only [h.mem_seen, Accepts]
  constructor
  · rintro ⟨_, _, hlines, hline, hbefore⟩
    obtain ⟨before, rest, hpage, rfl, hrest⟩ := List.filter_eq_append_iff.1 hlines
    obtain ⟨between, after, rfl, hbetween, hmay, -⟩ := List.filter_eq_cons_iff.1 hrest
    refine ⟨before ++ between, after, by simp [hpage], hmay, hline, fun l hl hmay ↦ ?_⟩
    rcases List.mem_append.1 hl with hl | hl
    · exact hbefore l (List.mem_filter.2 ⟨hl, hmay⟩)
    · exact absurd hmay (hbetween l hl)
  · rintro ⟨before, after, hpage, hmay, hline, hbefore⟩
    refine ⟨before.filter b.mayPrecede, after.filter b.mayPrecede, ?_, hline, fun l hl ↦ ?_⟩
    · rw [hpage, List.filter_append, List.filter_cons_of_pos hmay]
    · obtain ⟨hl, hmay⟩ := List.mem_filter.1 hl
      exact hbefore l hl hmay

/-- Lines that may stand before the held ones may stand before all lines from pages, if those come
first and are in order. -/
theorem le_of_mayPrecede {b : LogBuffer} {paged live : List LogLine} (hb : b.lines = paged ++ live)
    (hp : InOrder paged) {line : LogLine} (hline : b.mayPrecede line) :
    ∀ x ∈ paged, line.timestamp.le x.timestamp := by
  cases paged with
  | nil => exact fun x hx ↦ absurd hx List.not_mem_nil
  | cons first rest =>
    have hfirst : line.timestamp.le first.timestamp := by simpa [mayPrecede, hb] using hline
    intro x hx
    rcases List.mem_cons.1 hx with rfl | hx
    · exact hfirst
    · exact Timestamp.le_trans hfirst (List.rel_of_pairwise_cons hp hx)

/-- Over every run the held lines are lines from pages, in the order of their timestamps, followed
by the live lines that were taken up, in the order of receipt. -/
theorem lines_applyAll {b : LogBuffer} (h : Sound b) {paged live : List LogLine}
    (hb : b.lines = paged ++ live) (hp : InOrder paged) (es : List LogEvent) :
    ∃ paged', (b.applyAll es).lines = paged' ++ (live ++ taken b es) ∧ InOrder paged' ∧
      ∀ line ∈ paged', line ∈ paged ∨ ∃ page, .backfill page ∈ es ∧ line ∈ page.lines := by
  induction es generalizing b paged live with
  | nil => exact ⟨paged, by simpa [applyAll, taken] using hb, hp, fun line hline ↦ .inl hline⟩
  | cons e es ih =>
    have hb' : (b.apply e).lines = (b.front e ++ paged) ++ (live ++ b.back e) := by
      rw [lines_apply h, hb]
      simp only [List.append_assoc]
    have hp' : InOrder (b.front e ++ paged) :=
      List.pairwise_append.2 ⟨inOrder_front b e, hp, fun x hx y hy ↦
        le_of_mayPrecede hb hp (mem_front hx).2 y hy⟩
    obtain ⟨paged', hlines, horder, hmem⟩ := ih (h.apply e) hb' hp'
    refine ⟨paged', by simpa [applyAll, taken, List.append_assoc] using hlines, horder, ?_⟩
    intro line hline
    rcases hmem line hline with hold | ⟨page, hpage, hin⟩
    · rcases List.mem_append.1 hold with hfront | hpaged
      · obtain ⟨⟨page, rfl, hin⟩, -⟩ := mem_front hfront
        exact .inr ⟨page, List.mem_cons_self, hin⟩
      · exact .inl hpaged
    · exact .inr ⟨page, List.mem_cons_of_mem e hpage, hin⟩

/-- What holds of a log in every state that events lead to.

The ids held are distinct and are the ids taken. The held lines are lines from pages, in the order
of their timestamps, followed by the live lines that were taken up, in the order of receipt.
Whatever comes next leaves the held lines where they are, side by side, and says by how many they
grow; of a page just those lines are put in front, in the order of their timestamps, that are not
later than the first held line and have not come before. Once a live line has come before the end, a
line with its id is held for good. -/
theorem log_integrity (job : Option String) (es : List LogEvent) :
    let b := (initial job).applyAll es
    b.ids.Nodup ∧ (∀ id, id ∈ b.seen ↔ id ∈ b.ids) ∧
    (∃ paged, b.lines = paged ++ taken (initial job) es ∧ InOrder paged ∧
      ∀ line ∈ paged, ∃ page, .backfill page ∈ es ∧ line ∈ page.lines) ∧
    (∀ e, ∃ front back, (b.apply e).lines = front ++ b.lines ++ back ∧
      b.added e = front.length + back.length) ∧
    (∀ page, ∃ front, (b.apply (.backfill page)).lines = front ++ b.lines ∧ InOrder front ∧
      ∀ line, line ∈ front ↔ Accepts b page line) ∧
    ((∀ status, .stream (.done status) ∉ es) → ∀ line later,
      line.id ∈ ((b.apply (.stream (.log line))).applyAll later).ids) := by
  intro b
  have h : Sound b := (Sound.initial job).applyAll es
  have hnone : (initial job).lines = [] ++ [] := by cases job <;> rfl
  obtain ⟨paged, hlines, horder, hmem⟩ := lines_applyAll (Sound.initial job) hnone .nil es
  refine ⟨h.nodup, h.mem_seen, ⟨paged, hlines, horder, fun line hline ↦ ?_⟩, fun e ↦ ?_,
    fun page ↦ ?_, ?_⟩
  · exact (hmem line hline).resolve_left List.not_mem_nil
  · exact ⟨b.front e, b.back e, lines_apply h e, added_eq_growth h e⟩
  · refine ⟨b.front (.backfill page), ?_, inOrder_front b _, fun line ↦ mem_front_iff h⟩
    simpa [back] using lines_apply h (.backfill page)
  · intro hes line later
    have hopen : b.isDone = false := by
      rw [isDone_applyAll _ hes]
      cases job <;> rfl
    have hheld : line.id ∈ (b.apply (.stream (.log line))).ids := by
      simpa [LogBuffer.apply, applyStream, hopen] using (h.append line).2
    exact ids_subset_applyAll (h.apply _) later hheld

/-- A live line whose id a page has brought is not taken up, and its id stays held when the log
ends. -/
theorem id_held_after_page_and_live_line :
    let page : LogEvent := .backfill ⟨[⟨"b", .epoch, .stdout, "", none⟩], false, none⟩
    let line : LogLine := ⟨"b", .epoch, .stdout, "again", none⟩
    (∀ status, .stream (.done status) ∉ [.connected, page]) ∧
      line.id ∈ ((((initial (some "j1")).applyAll [.connected, page]).apply
        (.stream (.log line))).applyAll [.stream (.done (some .ready))]).ids := by
  intro page line
  have hopen : ∀ status, .stream (.done status) ∉ [.connected, page] := by simp [page]
  obtain ⟨-, -, -, -, -, held⟩ := log_integrity (some "j1") [.connected, page]
  exact ⟨hopen, held hopen line _⟩

end LogBuffer

end JobWatch

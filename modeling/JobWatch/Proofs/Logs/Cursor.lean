import JobWatch.Proofs.Logs.Connection
import Mathlib.Data.List.Induction

/-!
# Where the next page goes back from

Only a page moves the cursor of a log, and it moves it to the first line that is held then. What the
stream brings comes behind the held lines, so as long as a page finds or brings a line, the cursor
stays with the first held line whatever the stream does (`cursor_of_history`).

A page that leaves the log empty names a cursor of its own. The first line that comes live after it
becomes the first held line, and the cursor stays where it was.
-/

namespace JobWatch

namespace LogBuffer

def firstId? (b : LogBuffer) : Option String := b.lines.head?.map (·.id)

/-- How far a log has paged back: whether any page has come, and what the last one has set. -/
def paging (b : LogBuffer) : Bool × Option String := (b.hasBackfilled, b.oldestId)

section Paging

variable (b : LogBuffer)

@[simp] theorem paging_noteAutoFix (text : String) : (b.noteAutoFix text).paging = b.paging := by
  unfold noteAutoFix
  split <;> rfl

@[simp] theorem paging_append (line : LogLine) : (b.append line).paging = b.paging := by
  unfold append
  split
  · rfl
  · change LogBuffer.paging (if _ then _ else _) = _
    split
    · exact paging_noteAutoFix ..
    · rfl

variable {b} {e : LogEvent} {es : List LogEvent}

/-- The stream does not move the cursor. -/
theorem paging_apply (he : e.ofStream) : (b.apply e).paging = b.paging := by
  cases e with
  | backfill page => exact nomatch he
  | disconnected => rfl
  | connected => simp only [apply]; split <;> rfl
  | stream event =>
    simp only [apply, applyStream]
    split
    · rfl
    · cases event with
      | heartbeat | done status => rfl
      | log line => exact paging_append b line

/-- How far a log has paged back, no event of the stream changes. -/
theorem paging_applyAll (hes : ∀ e ∈ es, e.ofStream) : (b.applyAll es).paging = b.paging := by
  induction es generalizing b with
  | nil => rfl
  | cons e es ih =>
    rw [applyAll_cons, ih fun x hx ↦ hes x (List.mem_cons_of_mem e hx),
      paging_apply (hes e List.mem_cons_self)]

theorem cursor_congr {c : LogBuffer} (h : b.paging = c.paging) : b.cursor = c.cursor := by
  obtain ⟨hpaged, hid⟩ := Prod.mk.inj h
  rw [cursor, cursor, hpaged, hid]

/-- Once a page has come, the cursor is where the last page has set it. -/
theorem cursor_of_paging {id : Option String} (h : b.paging = (true, id)) :
    b.cursor = id ∧ b.oldestId = id := by
  obtain ⟨hpaged, hid⟩ := Prod.mk.inj h
  exact ⟨by rw [cursor, if_pos hpaged, hid], hid⟩

end Paging

/-! ## The first held line -/

variable {b : LogBuffer} {es : List LogEvent}

/-- The stream brings lines behind the held ones only. -/
theorem firstId?_apply (hb : Sound b) {e : LogEvent} (he : e.ofStream) (hheld : b.lines ≠ []) :
    (b.apply e).firstId? = b.firstId? ∧ (b.apply e).lines ≠ [] := by
  rw [firstId?, lines_apply_of_ofStream hb he]
  refine ⟨?_, List.append_ne_nil_of_left_ne_nil hheld _⟩
  rw [List.head?_append_of_ne_nil _ hheld, firstId?]

/-- The first held line stays the first whatever the stream brings. -/
theorem firstId?_applyAll (hb : Sound b) (hes : ∀ e ∈ es, e.ofStream) (hheld : b.lines ≠ []) :
    (b.applyAll es).firstId? = b.firstId? := by
  induction es generalizing b with
  | nil => rfl
  | cons e es ih =>
    obtain ⟨hfirst, hheld'⟩ := firstId?_apply hb (hes e List.mem_cons_self) hheld
    rw [applyAll_cons, ih (hb.apply e) (fun x hx ↦ hes x (List.mem_cons_of_mem e hx)) hheld',
      hfirst]

/-- A history in which a page has come has a last page. -/
theorem exists_last_page (h : ∃ page, .backfill page ∈ es) :
    ∃ before page after, es = before ++ .backfill page :: after ∧ ∀ e ∈ after, e.ofStream := by
  induction es using List.reverseRecOn with
  | nil => exact absurd h.choose_spec List.not_mem_nil
  | append_singleton es e ih =>
    cases he : e.ofStream with
    | false =>
      cases e with
      | backfill page => exact ⟨es, page, [], rfl, fun _ hx ↦ absurd hx List.not_mem_nil⟩
      | connected | disconnected | stream event => exact nomatch he
    | true =>
      obtain ⟨page, hpage⟩ := h
      have hbefore : LogEvent.backfill page ∈ es := by
        rcases List.mem_append.1 hpage with hpage | hpage
        · exact hpage
        · rw [← List.mem_singleton.1 hpage] at he
          exact nomatch he
      obtain ⟨before, page, after, rfl, hafter⟩ := ih ⟨page, hbefore⟩
      refine ⟨before, page, after ++ [e], by simp, fun x hx ↦ ?_⟩
      rcases List.mem_append.1 hx with hx | hx
      · exact hafter x hx
      · rw [List.mem_singleton.1 hx, he]

/-- Where the next page goes back from, after any events.

Before the first page there is no cursor. After it, let the last page be the one before which some
events came and after which only the stream told of anything. The cursor is what that page has set:
the id of the line that was the first held one then, or, if none was, the cursor of the page. Where
lines are held, this is the id of the first of them exactly if a line was held after that page
already, or the page itself has named the line that was to come first. -/
theorem cursor_of_history (job : Option String) (es : List LogEvent) :
    let b := (initial job).applyAll es
    ((∀ page, .backfill page ∉ es) → b.cursor = none) ∧
    ((∃ page, .backfill page ∈ es) → ∃ before page after,
      es = before ++ .backfill page :: after ∧ (∀ e ∈ after, e.ofStream) ∧
      let paged := ((initial job).applyAll before).apply (.backfill page)
      b.cursor = b.oldestId ∧ b.oldestId = (paged.firstId? <|> page.oldestId) ∧
      (b.lines ≠ [] →
        (b.oldestId = b.firstId? ↔ paged.lines ≠ [] ∨ page.oldestId = b.firstId?))) := by
  intro b
  refine ⟨fun hnone ↦ ?_, fun hpage ↦ ?_⟩
  · have hes : ∀ e ∈ es, e.ofStream := by
      intro e he
      cases e with
      | backfill page => exact absurd he (hnone page)
      | connected | disconnected | stream event => rfl
    have hpaging : b.paging = (initial job).paging := paging_applyAll hes
    have hfresh : (initial job).hasBackfilled = false := by cases job <;> rfl
    rw [cursor, show b.hasBackfilled = false from (congrArg Prod.fst hpaging).trans hfresh]
    rfl
  · obtain ⟨before, page, after, rfl, hafter⟩ := exists_last_page hpage
    refine ⟨before, page, after, rfl, hafter, ?_⟩
    intro paged
    have hsound : Sound paged := ((Sound.initial job).applyAll before).apply _
    have hb : b = paged.applyAll after := by simp only [b, paged, applyAll_append, applyAll_cons]
    have hset : paged.paging = (true, paged.firstId? <|> page.oldestId) := rfl
    obtain ⟨hcursor, holdest⟩ := cursor_of_paging ((paging_applyAll hafter).trans hset)
    rw [← hb] at hcursor holdest
    refine ⟨hcursor.trans holdest.symm, holdest, fun hlines ↦ ?_⟩
    by_cases hheld : paged.lines = []
    · have hempty : paged.firstId? = none := by rw [firstId?, hheld]; rfl
      rw [holdest, hempty]
      simp [hheld]
    · have hfirst : b.firstId? = paged.firstId? := by rw [hb, firstId?_applyAll hsound hafter hheld]
      obtain ⟨id, hid⟩ : ∃ id, paged.firstId? = some id := by
        obtain ⟨line, rest, hline⟩ := List.exists_cons_of_ne_nil hheld
        exact ⟨line.id, by rw [firstId?, hline]; rfl⟩
      rw [holdest, hfirst, hid]
      simp [hheld]

/-- A page that brings nothing, but finds a line, names another cursor; the one that counts is still
the first held line, which a later live line does not change. -/
theorem cursor_of_found_line :
    let line : String → LogLine := fun id ↦ ⟨id, .epoch, .stdout, "", none⟩
    let es : List LogEvent := [.stream (.log (line "b")), .backfill ⟨[], false, some "a"⟩,
      .stream (.log (line "c"))]
    let b := (initial (some "j1")).applyAll es
    (∃ page, .backfill page ∈ es) ∧ b.lines ≠ [] ∧ b.cursor = b.firstId? := by
  intro line es b
  have hpage : ∃ page, .backfill page ∈ es := ⟨⟨[], false, some "a"⟩, by simp [es]⟩
  have hlines : b.lines ≠ [] := by decide +kernel
  obtain ⟨before, page, after, hes, hafter, hcursor, -, hfirst⟩ :=
    (cursor_of_history (some "j1") es).2 hpage
  refine ⟨hpage, hlines, hcursor.trans ((hfirst hlines).2 (.inl ?_))⟩
  rcases before with - | ⟨e₁, - | ⟨e₂, - | ⟨e₃, before⟩⟩⟩
  · simp [es] at hes
  · obtain ⟨rfl, rfl, -⟩ : e₁ = _ ∧ page = _ ∧ _ := by simpa [es, eq_comm] using hes
    decide +kernel
  · simp [es] at hes
  · simp [es] at hes

/-- The first line that comes live after an empty page is held, and the cursor knows nothing of it.
-/
theorem cursor_behind_live_line :
    ¬∀ (job : Option String) (es : List LogEvent), (∃ page, .backfill page ∈ es) →
      ((initial job).applyAll es).lines ≠ [] →
        ((initial job).applyAll es).oldestId = ((initial job).applyAll es).firstId? := by
  intro h
  let line : LogLine := ⟨"a", .epoch, .stdout, "", none⟩
  have hsame := h (some "j1") [.connected, .backfill ⟨[], false, none⟩, .stream (.log line)]
    ⟨⟨[], false, none⟩, by simp⟩ (by decide +kernel)
  revert hsame
  decide +kernel

end LogBuffer

end JobWatch

import JobWatch.Proofs.Logs.Page
import Mathlib.Data.List.Induction

/-!
# Pages against live lines

A log is told of a stored log from two sides: live lines bring a stretch of it in order, and pages
bring any stretches, which may overlap what came live and run past it. A page may only bring lines
that are not later than the first held line. Among lines with one timestamp that does not tell the
earlier from the later, so a line can get in front of the lines before it; its live copy is then
taken for held.

The held lines stay in the stored order exactly as long as no page brings such a line
(`sublist_iff_not_overtakes`), so always where no two lines have the same timestamp
(`sublist_of_strict`). What carries the proof is that the held lines are among the stored ones up to
the last that came live.
-/

namespace JobWatch

def LogEvent.live? : LogEvent → Option LogLine
  | .stream (.log line) => some line
  | _ => none

namespace LogBuffer

/-- Events that tell of a stored log: the live lines are a stretch of it, and so is every page. -/
structure Delivers (stored : List LogLine) (es : List LogEvent) : Prop where
  live : es.filterMap LogEvent.live? <:+: stored
  pages : ∀ page, .backfill page ∈ es → page.lines <:+: stored

/-- A live line comes before the first page, and the stream does not end before it. -/
def LiveFirst : List LogEvent → Prop
  | [] | .stream (.log _) :: _ => True
  | .connected :: es | .disconnected :: es | .stream .heartbeat :: es => LiveFirst es
  | .backfill _ :: _ | .stream (.done _) :: _ => False

/-- A page brings a line that is stored after the first held line, though not later than it. -/
def Overtakes (stored : List LogLine) (b : LogBuffer) (page : LogsPage) : Prop :=
  ∃ first line, b.lines.head? = some first ∧ line ∈ page.lines ∧ b.takes line ∧
    [first, line].Sublist stored

variable {stored : List LogLine} {b : LogBuffer} {page : LogsPage}

/-- Of two lines of a list without repetition, only one stands before the other. -/
theorem not_sublist_swap {lines : List LogLine} (h : lines.Nodup) {x y : LogLine}
    (hxy : [x, y].Sublist lines) : ¬[y, x].Sublist lines := by
  induction h with
  | nil => exact fun _ ↦ nomatch hxy
  | @cons z lines hz _ ih =>
    intro hyx
    cases hxy with
    | cons _ hxy =>
      cases hyx with
      | cons _ hyx => exact ih hxy hyx
      | cons_cons _ _ => exact hz _ (hxy.subset (by simp)) rfl
    | cons_cons _ hy =>
      cases hyx with
      | cons _ hyx => exact hz _ (hyx.subset (by simp)) rfl
      | cons_cons _ _ => exact hz _ (hy.subset (by simp)) rfl

/-! ## One event -/

/-- The lines of a page that does not overtake come among the stored lines where the held ones
are. -/
theorem sublist_apply_backfill {kept : List LogLine} (hids : (stored.map (·.id)).Nodup)
    (horder : InOrder stored) (hb : Sound b) (hkept : kept <+: stored) (hne : b.lines ≠ [])
    (hheld : b.lines.Sublist kept) (hpage : page.lines <:+: stored)
    (hno : ¬Overtakes stored b page) : (b.apply (.backfill page)).lines.Sublist kept := by
  obtain ⟨first, rest, hlines⟩ := List.exists_cons_of_ne_nil hne
  have hhead : b.lines.head? = some first := by rw [hlines]; rfl
  rw [hlines, List.cons_sublist_iff] at hheld
  obtain ⟨upto, behind, rfl, hfirst, hrest⟩ := hheld
  obtain ⟨before, after, rfl⟩ := List.append_of_mem hfirst
  obtain ⟨later, rfl⟩ := hkept
  have hpids : (page.lines.map (·.id)).Nodup := hids.sublist (hpage.sublist.map _)
  have hfront : b.front (.backfill page) = page.lines.filter b.takes :=
    front_backfill_of_inOrder hb hpids (horder.sublist hpage.sublist)
  have hsub : (b.front (.backfill page)).Sublist before := by
    have hall : (page.lines.filter b.takes).Sublist
        (before ++ (first :: (after ++ behind ++ later))) := by
      simpa using List.filter_sublist.trans hpage.sublist
    rw [hfront]
    refine List.Sublist.of_sublist_append_left (fun line hline hlater ↦ ?_) hall
    obtain ⟨hin, htakes⟩ := List.mem_filter.1 hline
    rcases List.mem_cons.1 hlater with rfl | hlater
    · refine ((takes_iff hhead).1 htakes).2 ?_
      simp [ids, hlines]
    · refine hno ⟨first, line, hhead, hin, htakes, ?_⟩
      have hpair : [first, line].Sublist (first :: (after ++ behind ++ later)) :=
        (List.singleton_sublist.2 hlater).cons_cons first
      simpa using hpair.trans (List.sublist_append_right before _)
  have hrest : rest.Sublist (after ++ behind) := hrest.trans (List.sublist_append_right ..)
  rw [lines_backfill hb, hlines]
  simpa using hsub.append (hrest.cons_cons first)

/-- A page that overtakes leaves the held lines out of the stored order. -/
theorem Overtakes.not_sublist (hids : (stored.map (·.id)).Nodup) (hb : Sound b)
    (hpage : page.lines <:+: stored) (h : Overtakes stored b page) :
    ¬(b.apply (.backfill page)).lines.Sublist stored := by
  obtain ⟨first, line, hhead, hin, htakes, hpair⟩ := h
  obtain ⟨rest, hlines⟩ := List.head?_eq_some_iff.1 hhead
  have hpids : (page.lines.map (·.id)).Nodup := hids.sublist (hpage.sublist.map _)
  have hfront : line ∈ b.front (.backfill page) := (mem_front_backfill hb hpids).2 ⟨hin, htakes⟩
  have hswap : [line, first].Sublist (b.apply (.backfill page)).lines := by
    rw [lines_backfill hb, hlines]
    exact (List.singleton_sublist.2 hfront).append ((List.nil_sublist rest).cons_cons first)
  exact fun hsub ↦ not_sublist_swap hids.of_map hpair (hswap.trans hsub)

/-! ## Every run -/

theorem applyAll_concat (b : LogBuffer) (es : List LogEvent) (e : LogEvent) :
    b.applyAll (es ++ [e]) = (b.applyAll es).apply e := by
  simp [applyAll]

/-- If a live line comes before a page, the log holds a line when the page comes. -/
theorem LiveFirst.lines_ne_nil {pre es : List LogEvent} (hb : Sound b) (hopen : b.isDone = false)
    (h : LiveFirst (pre ++ .backfill page :: es)) : (b.applyAll pre).lines ≠ [] := by
  induction pre generalizing b with
  | nil => exact h.elim
  | cons e pre ih =>
    cases e with
    | backfill _ => exact h.elim
    | connected => exact ih (hb.apply _) ((isDone_apply b _ (by simp)).trans hopen) h
    | disconnected => exact ih (hb.apply _) ((isDone_apply b _ (by simp)).trans hopen) h
    | stream event =>
      cases event with
      | done _ => exact h.elim
      | heartbeat => exact ih (hb.apply _) ((isDone_apply b _ (by simp)).trans hopen) h
      | log line =>
        have hheld : line.id ∈ (b.apply (.stream (.log line))).ids := by
          simpa [LogBuffer.apply, applyStream, hopen] using (hb.append line).2
        have hkept := ids_subset_applyAll (hb.apply (.stream (.log line))) pre hheld
        intro hnil
        have hids : ((b.apply (.stream (.log line))).applyAll pre).ids = [] := by
          rw [ids]
          exact List.map_eq_nil_iff.2 hnil
        exact List.not_mem_nil (hids ▸ hkept)

/-- An event puts behind at most the line that it brings live. -/
theorem back_sublist (b : LogBuffer) (e : LogEvent) : (b.back e).Sublist e.live?.toList := by
  cases e with
  | connected | disconnected | backfill _ => exact .slnil
  | stream event =>
    cases event with
    | heartbeat | done _ => exact .slnil
    | log line =>
      simp only [back, LogEvent.live?, Option.toList_some]
      split
      · exact List.nil_sublist _
      · exact .refl _

/-- The stored lines up to the last that came live. -/
theorem prefix_of_live {before after : List LogLine} {pre es : List LogEvent}
    (hstored : before ++ es.filterMap LogEvent.live? ++ after = stored) (hpre : pre <+: es) :
    before ++ pre.filterMap LogEvent.live? <+: stored := by
  rw [← hstored]
  exact ((List.prefix_append_right_inj before).2 (hpre.filterMap _)).trans
    (List.prefix_append _ after)

/-- As long as no page overtakes, the held lines are among the stored ones up to the last that came
live. -/
theorem lines_sublist_of_not_overtakes (job : Option String) {es : List LogEvent}
    {before after : List LogLine} (hids : (stored.map (·.id)).Nodup) (horder : InOrder stored)
    (hstored : before ++ es.filterMap LogEvent.live? ++ after = stored)
    (hpages : ∀ page, .backfill page ∈ es → page.lines <:+: stored) (hfirst : LiveFirst es)
    (hno : ∀ pre page, pre ++ [.backfill page] <+: es →
      ¬Overtakes stored ((initial job).applyAll pre) page)
    (pre : List LogEvent) (hpre : pre <+: es) :
    ((initial job).applyAll pre).lines.Sublist (before ++ pre.filterMap LogEvent.live?) := by
  induction pre using List.reverseRecOn with
  | nil => cases job <;> exact List.nil_sublist _
  | append_singleton pre e ih =>
    have hpre' : pre <+: es := (List.prefix_append pre [e]).trans hpre
    have hb : Sound ((initial job).applyAll pre) := (Sound.initial job).applyAll pre
    have hrest : (pre ++ [e]).filterMap LogEvent.live? =
        pre.filterMap LogEvent.live? ++ e.live?.toList := by
      rw [List.filterMap_append]
      cases he : e.live? <;> simp [he]
    rw [applyAll_concat, hrest]
    by_cases he : ∃ page, e = .backfill page
    · obtain ⟨page, rfl⟩ := he
      obtain ⟨later, hes⟩ := hpre
      have hkept := prefix_of_live hstored hpre'
      have hlive : LiveFirst (pre ++ .backfill page :: later) := by simpa [← hes] using hfirst
      have hne : ((initial job).applyAll pre).lines ≠ [] :=
        hlive.lines_ne_nil (Sound.initial job) (by cases job <;> rfl)
      have hpage : page.lines <:+: stored := hpages page (by simp [← hes])
      simpa [LogEvent.live?] using
        sublist_apply_backfill hids horder hb hkept hne (ih hpre') hpage (hno pre page ⟨later, hes⟩)
    · have hfront : ((initial job).applyAll pre).front e = [] := by
        cases e with
        | backfill page => exact absurd ⟨page, rfl⟩ he
        | connected | disconnected | stream _ => rfl
      rw [lines_apply hb, hfront, List.nil_append, ← List.append_assoc]
      exact (ih hpre').append (back_sublist _ e)

/-- As long as no page overtakes, the held lines stay in the stored order. -/
theorem sublist_of_not_overtakes (job : Option String) {es : List LogEvent}
    (hids : (stored.map (·.id)).Nodup) (horder : InOrder stored) (hes : Delivers stored es)
    (hfirst : LiveFirst es)
    (hno : ∀ pre page, pre ++ [.backfill page] <+: es →
      ¬Overtakes stored ((initial job).applyAll pre) page)
    {pre : List LogEvent} (hpre : pre <+: es) :
    ((initial job).applyAll pre).lines.Sublist stored := by
  obtain ⟨before, after, hlive⟩ := hes.live
  calc
    ((initial job).applyAll pre).lines.Sublist (before ++ pre.filterMap LogEvent.live?) :=
      lines_sublist_of_not_overtakes job hids horder hlive hes.pages hfirst hno pre hpre
    List.Sublist _ stored := (prefix_of_live hlive hpre).sublist

/-- Where no two lines have the same timestamp, pages never disturb the stored order. -/
theorem sublist_of_strict (job : Option String) {es : List LogEvent}
    (hids : (stored.map (·.id)).Nodup)
    (hstrict : stored.Pairwise fun x y ↦ ¬y.timestamp.le x.timestamp) (hes : Delivers stored es)
    (hfirst : LiveFirst es) {pre : List LogEvent} (hpre : pre <+: es) :
    ((initial job).applyAll pre).lines.Sublist stored := by
  have horder : InOrder stored := hstrict.imp fun {x y} hxy ↦ by
    simpa [hxy] using Timestamp.le_total x.timestamp y.timestamp
  refine sublist_of_not_overtakes job hids horder hes hfirst (fun pre page _ hover ↦ ?_) hpre
  obtain ⟨first, line, hhead, -, htakes, hpair⟩ := hover
  exact List.pairwise_iff_forall_sublist.1 hstrict hpair ((takes_iff hhead).1 htakes).1

/-- What it takes for the held lines to stay in the stored order.

Live lines bring a stretch of a stored log, in order, and pages bring stretches of it, after the
first live line. Then the held lines are in the stored order after every event exactly if no page
brings a line that is stored after the first held line and not later than it. -/
theorem sublist_iff_not_overtakes (job : Option String) {es : List LogEvent}
    (hids : (stored.map (·.id)).Nodup) (horder : InOrder stored) (hes : Delivers stored es)
    (hfirst : LiveFirst es) :
    (∀ pre, pre <+: es → ((initial job).applyAll pre).lines.Sublist stored) ↔
      ∀ pre page, pre ++ [.backfill page] <+: es →
        ¬Overtakes stored ((initial job).applyAll pre) page := by
  constructor
  · intro hsub pre page hpre hover
    have hpage : page.lines <:+: stored := hes.pages page (hpre.subset (by simp))
    refine hover.not_sublist hids ((Sound.initial job).applyAll pre) hpage ?_
    rw [← applyAll_concat]
    exact hsub _ hpre
  · intro hno pre hpre
    exact sublist_of_not_overtakes job hids horder hes hfirst hno hpre

/-- A page that overlaps what came live, with lines of one timestamp, goes where it belongs. -/
theorem tied_page_in_order :
    let line : String → LogLine := fun id ↦ ⟨id, .epoch, .stdout, "", none⟩
    let page : LogsPage := ⟨[line "a", line "b"], false, none⟩
    let stored := [line "a", line "b", line "c"]
    let es : List LogEvent := [.stream (.log (line "b")), .backfill page, .stream (.log (line "c"))]
    (stored.map (·.id)).Nodup ∧ InOrder stored ∧ Delivers stored es ∧ LiveFirst es ∧
      ∀ pre, pre <+: es → ((initial (some "j1")).applyAll pre).lines.Sublist stored := by
  intro line page stored es
  have hids : (stored.map (·.id)).Nodup := by decide
  have horder : InOrder stored := by unfold InOrder; decide +kernel
  have hes : Delivers stored es := by
    constructor
    · decide +kernel
    · intro p hp
      obtain rfl : p = page := by simpa [es] using hp
      decide +kernel
  refine ⟨hids, horder, hes, trivial, ?_⟩
  refine (sublist_iff_not_overtakes (some "j1") hids horder hes trivial).2 ?_
  rintro pre p hpre ⟨first, l, hhead, hin, htakes, hpair⟩
  obtain ⟨rfl, rfl⟩ : pre = [.stream (.log (line "b"))] ∧ p = page := by
    rcases pre with - | ⟨e₁, - | ⟨e₂, - | ⟨e₃, pre⟩⟩⟩ <;>
      simp_all [es, List.cons_prefix_cons]
  obtain rfl : line "b" = first := Option.some.inj hhead
  have hl : l = line "a" ∨ l = line "b" := by simpa [page] using hin
  rcases hl with rfl | rfl <;> revert htakes hpair <;> decide +kernel

/-- A page that overlaps what came live and runs past it brings a line with the timestamp of the
first held line in front of it, and the live copy of that line is not taken. -/
theorem tied_line_misplaced :
    ¬∀ (job : Option String) (stored : List LogLine) (es : List LogEvent),
      (stored.map (·.id)).Nodup → InOrder stored → Delivers stored es → LiveFirst es →
        ∀ pre, pre <+: es → ((initial job).applyAll pre).lines.Sublist stored := by
  intro h
  let line : String → LogLine := fun id ↦ ⟨id, .epoch, .stdout, "", none⟩
  let stored := [line "a", line "b", line "c"]
  let es : List LogEvent := [.stream (.log (line "b")), .backfill ⟨stored, false, none⟩]
  have hes : Delivers stored es := by
    constructor
    · decide +kernel
    · intro page hpage
      obtain rfl : page = ⟨stored, false, none⟩ := by simpa [es] using hpage
      exact List.infix_refl stored
  have hover : Overtakes stored ((initial (some "j1")).applyAll [.stream (.log (line "b"))])
      ⟨stored, false, none⟩ :=
    ⟨line "b", line "c", by decide +kernel, by decide, by decide +kernel, by decide +kernel⟩
  refine hover.not_sublist (by decide) ((Sound.initial _).applyAll _) (List.infix_refl stored) ?_
  rw [← applyAll_concat]
  exact h (some "j1") stored es (by decide) (by unfold InOrder; decide +kernel) hes trivial es
    (List.prefix_refl es)

end LogBuffer

end JobWatch

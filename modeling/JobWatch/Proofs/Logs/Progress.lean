import JobWatch.Proofs.Logs.Following
import JobWatch.Proofs.Logs.Stored

/-!
# Going back through a stored log

A page goes back from the first held line. The held lines are sorted by their timestamps while the
backend keeps an order of its own. Where the two disagree a page may bring nothing, and then the next
request is the same again; and lines that are stored before the first held line, though they are
later, are passed over for good.

That is all that can go wrong (`loadAll_progress`). The first held line is stored right behind the
lines that the next page comes from, the held lines among those are later than it, and what is stored
behind it has been brought or passed over (`PagedTo`). So a page that brings a line moves on, and one
that brings none has only later lines.
-/

namespace JobWatch

namespace LogBuffer

/-- All of the lines just before one are later than it, and there are more lines before them: a page
that goes back from that one brings nothing and leaves everything as it is. -/
def Stalls (stored : List LogLine) (limit : Nat) (id : String) : Prop :=
  ∃ older line newer, stored = older ++ line :: newer ∧ line.id = id ∧ limit < older.length ∧
    ∀ x ∈ (LogsPage.ofLast limit older).lines, ¬x.timestamp.le line.timestamp

/-- A line came on a page that went back from a line earlier than it. -/
def PassedOver (stored : List LogLine) (limit : Nat) (sent : List (Option String))
    (x : LogLine) : Prop :=
  ∃ older line newer, stored = older ++ line :: newer ∧ some line.id ∈ sent ∧
    x ∈ (LogsPage.ofLast limit older).lines ∧ ¬x.timestamp.le line.timestamp

/-- How far paging has come: the next page comes from the older lines, and the newer ones, of which
the first is the first that is held, have been brought or passed over. -/
structure PagedTo (stored : List LogLine) (limit : Nat) (sent : List (Option String))
    (older newer : List LogLine) (b : LogBuffer) : Prop where
  sound : Sound b
  split : stored = older ++ newer
  cursor : b.cursor = newer.head?.map (·.id)
  head : b.lines.head? = newer.head?
  held : b.lines ⊆ stored
  later : ∀ x ∈ older, x ∈ b.lines → ∀ first ∈ newer.head?, ¬x.timestamp.le first.timestamp
  brought : ∀ x ∈ newer, x ∈ b.lines ∨ PassedOver stored limit sent x
  asked : ∀ id, some id ∈ sent →
    id ∈ newer.tail.map (·.id) ∨ newer.head?.map (·.id) = some id ∧ Stalls stored limit id

/-- What holds of a log after some requests for earlier lines. -/
structure Paged (stored : List LogLine) (limit : Nat) (sent : List (Option String))
    (b : LogBuffer) : Prop where
  once : ∀ id, 2 ≤ sent.count (some id) → Stalls stored limit id
  ahead : b.hasEarlierLines = true → ∃ older newer, PagedTo stored limit sent older newer b
  complete : b.hasEarlierLines = false → ∀ x ∈ stored, x ∈ b.lines ∨ PassedOver stored limit sent x

variable {stored older newer : List LogLine} {limit : Nat} {sent : List (Option String)}
  {b : LogBuffer}

/-- A page of at least one line is not empty while there are lines before it. -/
theorem exists_mem_ofLast (hlimit : 1 ≤ limit) (h : 0 < older.length) :
    ∃ x, x ∈ (LogsPage.ofLast limit older).lines := by
  refine List.exists_mem_of_length_pos ?_
  simp only [LogsPage.ofLast, List.length_drop]
  omega

theorem PassedOver.mono {sent' : List (Option String)} {x : LogLine} (hsub : sent ⊆ sent')
    (h : PassedOver stored limit sent x) : PassedOver stored limit sent' x := by
  obtain ⟨older, line, newer, hsplit, hsent, hx⟩ := h
  exact ⟨older, line, newer, hsplit, hsub hsent, hx⟩

theorem Paged.forJob (stored : List LogLine) (limit : Nat) (job : String) :
    Paged stored limit [] (.forJob job) where
  once id h := by simp at h
  ahead _ := ⟨stored, [], Sound.initial (some job), (List.append_nil stored).symm, rfl, rfl,
    List.nil_subset stored, fun _ _ hx ↦ absurd hx List.not_mem_nil, fun _ hx ↦ (nomatch hx),
    fun _ hid ↦ (nomatch hid)⟩
  complete h := by simp [LogBuffer.forJob] at h

namespace PagedTo

/-- A stored line whose id is held is held. -/
theorem mem_lines (h : PagedTo stored limit sent older newer b) (hids : (stored.map (·.id)).Nodup)
    {x : LogLine} (hx : x ∈ stored) (hid : x.id ∈ b.ids) : x ∈ b.lines := by
  obtain ⟨y, hy, heq⟩ := List.mem_map.1 hid
  rwa [← List.inj_on_of_nodup_map hids (h.held hy) hx heq]

/-- A line that is not taken is held or later than the first held line. -/
theorem of_not_takes (h : PagedTo stored limit sent older newer b)
    (hids : (stored.map (·.id)).Nodup) {x : LogLine} (hx : x ∈ stored) (hnot : ¬b.takes x) :
    x ∈ b.lines ∨ ∃ first rest, newer = first :: rest ∧ ¬x.timestamp.le first.timestamp := by
  by_cases hid : x.id ∈ b.ids
  · exact .inl (h.mem_lines hids hx hid)
  · have hlater : ¬b.mayPrecede x := by simpa [takes, hid] using hnot
    cases hnewer : newer with
    | nil =>
      have hlines : b.lines = [] := by simpa [hnewer] using h.head
      simp [mayPrecede, hlines] at hlater
    | cons first rest =>
      obtain ⟨held, hlines⟩ := List.head?_eq_some_iff.1 (h.head.trans (by rw [hnewer]; rfl))
      exact .inr ⟨first, rest, rfl, by simpa [mayPrecede, hlines] using hlater⟩

section Page

variable (h : PagedTo stored limit sent older newer b) (hids : (stored.map (·.id)).Nodup)

include h in
/-- The request that is next goes back from the first of the newer lines. -/
theorem cursor_mem_sent {first : LogLine} {rest : List LogLine} (hnewer : newer = first :: rest) :
    some first.id ∈ sent ++ [b.cursor] := by
  rw [h.cursor, hnewer]
  exact List.mem_append_right sent (List.mem_singleton_self _)

include h in
theorem page_sublist : (LogsPage.ofLast limit older).lines.Sublist stored := by
  rw [h.split]
  exact (LogsPage.lines_ofLast_sublist ..).trans (List.sublist_append_left ..)

include h hids in
theorem page_nodup : ((LogsPage.ofLast limit older).lines.map (·.id)).Nodup :=
  hids.sublist (h.page_sublist.map _)

include h hids in
theorem notMem_page {x : LogLine} (hx : x ∈ older.take (older.length - limit)) :
    x ∉ (LogsPage.ofLast limit older).lines := by
  have hnodup : (older.take (older.length - limit) ++ older.drop (older.length - limit)).Nodup := by
    rw [List.take_append_drop]
    rw [h.split] at hids
    exact hids.of_map.sublist (List.sublist_append_left ..)
  intro hpage
  exact (List.nodup_append.1 hnodup).2.2 x hx x hpage rfl

include h hids in
/-- What a page has is held after it, or passed over. -/
theorem brings {x : LogLine} (hx : x ∈ (LogsPage.ofLast limit older).lines) :
    x ∈ (b.apply (.backfill (.ofLast limit older))).lines ∨
      PassedOver stored limit (sent ++ [b.cursor]) x := by
  rw [lines_backfill h.sound, List.mem_append]
  by_cases htakes : b.takes x
  · exact .inl (.inl ((mem_front_backfill h.sound (h.page_nodup hids)).2 ⟨hx, htakes⟩))
  · rcases h.of_not_takes hids (h.page_sublist.subset hx) htakes with
      hheld | ⟨first, rest, hnewer, hlater⟩
    · exact .inl (.inr hheld)
    · exact .inr ⟨older, first, rest, hnewer ▸ h.split, h.cursor_mem_sent hnewer, hx, hlater⟩

include h hids in
/-- A page that brings nothing, though there are more lines, has later lines only. -/
theorem stalls_of_front_nil (hlimit : 1 ≤ limit) (hmore : limit < older.length)
    (hfront : b.front (.backfill (.ofLast limit older)) = []) :
    ∃ first rest, newer = first :: rest ∧ Stalls stored limit first.id := by
  have hnot : ∀ x ∈ (LogsPage.ofLast limit older).lines, ¬b.takes x := by
    intro x hx htakes
    have hmem := (mem_front_backfill h.sound (h.page_nodup hids)).2 ⟨hx, htakes⟩
    rw [hfront] at hmem
    exact List.not_mem_nil hmem
  have hskip : ∀ x ∈ (LogsPage.ofLast limit older).lines,
      x ∈ b.lines ∨ ∃ first rest, newer = first :: rest ∧ ¬x.timestamp.le first.timestamp := by
    intro x hx
    exact h.of_not_takes hids (h.page_sublist.subset hx) (hnot x hx)
  cases hnewer : newer with
  | nil =>
    -- Nothing is held, so the page has no line, but it has one.
    have hlines : b.lines = [] := by simpa [hnewer] using h.head
    obtain ⟨x, hx⟩ := exists_mem_ofLast hlimit (Nat.zero_lt_of_lt hmore)
    simpa [hlines, hnewer] using hskip x hx
  | cons first rest =>
    refine ⟨first, rest, rfl, older, first, rest, hnewer ▸ h.split, rfl, hmore, fun x hx ↦ ?_⟩
    rcases hskip x hx with hheld | ⟨first', rest', heq, hlater⟩
    · have hold : x ∈ older := (LogsPage.lines_ofLast_sublist ..).subset hx
      exact h.later x hold hheld first (by rw [hnewer]; rfl)
    · obtain ⟨rfl, -⟩ := List.cons.inj (hnewer.symm.trans heq)
      exact hlater

include h hids in
/-- After a page that brings nothing the next page comes from where it came from. -/
theorem apply_of_front_nil (hlimit : 1 ≤ limit) (hmore : limit < older.length)
    (hfront : b.front (.backfill (.ofLast limit older)) = []) :
    PagedTo stored limit (sent ++ [b.cursor]) older newer
      (b.apply (.backfill (.ofLast limit older))) := by
  obtain ⟨first, rest, hnewer, hstalls⟩ := h.stalls_of_front_nil hids hlimit hmore hfront
  have hlines : (b.apply (.backfill (.ofLast limit older))).lines = b.lines := by
    rw [lines_backfill h.sound, hfront, List.nil_append]
  have hhead : b.lines.head? = some first := h.head.trans (by rw [hnewer]; rfl)
  constructor
  case sound => exact h.sound.apply _
  case split => exact h.split
  case cursor =>
    rw [cursor_backfill, hlines, hhead, hnewer]
    rfl
  case head => rw [hlines, h.head]
  case held => rw [hlines]; exact h.held
  case later => rw [hlines]; exact h.later
  case brought =>
    intro x hx
    rw [hlines]
    exact (h.brought x hx).imp_right (PassedOver.mono (List.subset_append_left ..))
  case asked =>
    intro id hid
    rcases List.mem_append.1 hid with hid | hid
    · exact h.asked id hid
    · have hcursor : newer.head?.map (·.id) = some id :=
        h.cursor.symm.trans (List.mem_singleton.1 hid).symm
      obtain rfl : first.id = id := by simpa [hnewer] using hcursor
      exact .inr ⟨hcursor, hstalls⟩

include h in
/-- Every request so far went back from a line that the next page does not come from. -/
theorem mem_ids_of_sent {id : String} (hid : some id ∈ sent ++ [b.cursor]) :
    id ∈ newer.map (·.id) := by
  have hhead : newer.head?.map (·.id) = some id → id ∈ newer.map (·.id) := by
    cases newer with
    | nil => exact fun hnone ↦ nomatch hnone
    | cons first rest => exact fun hfirst ↦ Option.some.inj hfirst ▸ List.mem_cons_self
  rcases List.mem_append.1 hid with hid | hid
  · rcases h.asked id hid with htail | ⟨hfirst, -⟩
    · exact ((List.tail_sublist newer).map _).subset htail
    · exact hhead hfirst
  · exact hhead (h.cursor.symm.trans (List.mem_singleton.1 hid).symm)

include h in
/-- A line that a page brings is earlier than those held lines that are stored before the first. -/
theorem not_le_of_takes {x first : LogLine} (hx : x ∈ older) (hheld : x ∈ b.lines)
    (hfirst : b.takes first) : ¬x.timestamp.le first.timestamp := by
  obtain ⟨held, rest, hlines⟩ := List.exists_cons_of_ne_nil (List.ne_nil_of_mem hheld)
  have hhead : b.lines.head? = some held := by rw [hlines]; rfl
  intro hle
  refine h.later x hx hheld held (h.head ▸ hhead) ?_
  exact Timestamp.le_trans hle ((takes_iff hhead).1 hfirst).1

include h hids in
/-- After a page that brings lines the next page comes from the lines before the earliest of them.
-/
theorem apply_of_front_cons {first : LogLine} {rest : List LogLine}
    (hfront : b.front (.backfill (.ofLast limit older)) = first :: rest) :
    ∃ older' newer', PagedTo stored limit (sent ++ [b.cursor]) older' newer'
      (b.apply (.backfill (.ofLast limit older))) := by
  have hpids := h.page_nodup hids
  obtain ⟨before, after, hpage, hlater⟩ := earliest_of_front h.sound hpids hfront
  have hlines : (b.apply (.backfill (.ofLast limit older))).lines = first :: rest ++ b.lines := by
    rw [lines_backfill h.sound, hfront]
  have hfirst : b.takes first :=
    ((mem_front_backfill h.sound hpids).1 (hfront ▸ List.mem_cons_self)).2
  have holder : older = older.take (older.length - limit) ++ (before ++ first :: after) := by
    rw [← hpage]
    exact (List.take_append_drop ..).symm
  refine ⟨older.take (older.length - limit) ++ before, first :: (after ++ newer), ?_⟩
  constructor
  case sound => exact h.sound.apply _
  case split =>
    calc
      stored = older ++ newer := h.split
      _ = older.take (older.length - limit) ++ (before ++ first :: after) ++ newer := by
        rw [← holder]
      _ = _ := by simp only [List.append_assoc, List.cons_append]
  case cursor => rw [cursor_backfill, hlines]; rfl
  case head => rw [hlines]; rfl
  case held =>
    rw [hlines, ← hfront]
    intro x hx
    rcases List.mem_append.1 hx with hx | hx
    · exact h.page_sublist.subset ((mem_front_backfill h.sound hpids).1 hx).1
    · exact h.held hx
  case later =>
    intro x hx hheld
    rw [hlines, ← hfront] at hheld
    rintro _ ⟨⟩
    rcases List.mem_append.1 hheld with hnew | hheld
    · obtain ⟨hin, htakes⟩ := (mem_front_backfill h.sound hpids).1 hnew
      rcases List.mem_append.1 hx with hearlier | hbefore
      · exact absurd hin (h.notMem_page hids hearlier)
      · exact hlater x hbefore htakes
    · have hold : x ∈ older := by
        rw [holder, ← List.append_assoc]
        exact List.mem_append_left _ hx
      exact h.not_le_of_takes hold hheld hfirst
  case brought =>
    intro x hx
    rcases List.mem_cons.1 hx with rfl | hx
    · rw [hlines]
      exact .inl List.mem_cons_self
    rcases List.mem_append.1 hx with hx | hx
    · refine h.brings hids ?_
      rw [hpage]
      exact List.mem_append_right before (List.mem_cons_of_mem first hx)
    · rw [hlines]
      exact (h.brought x hx).imp (List.mem_append_right _)
        (PassedOver.mono (List.subset_append_left ..))
  case asked =>
    intro id hid
    refine .inl ?_
    rw [List.tail_cons, List.map_append]
    exact List.mem_append_right _ (h.mem_ids_of_sent hid)

include h hids in
/-- The line that the next page goes back from has been asked for before only if paging stalls. -/
theorem stalls_of_sent_cursor {id : String} (hcursor : b.cursor = some id)
    (hsent : some id ∈ sent) : Stalls stored limit id := by
  rcases h.asked id hsent with htail | ⟨-, hstalls⟩
  · rw [h.cursor] at hcursor
    cases newer with
    | nil => exact nomatch hcursor
    | cons first rest =>
      -- The ids of the stored lines are distinct.
      obtain rfl : first.id = id := Option.some.inj hcursor
      have hnewer : ((first :: rest).map (·.id)).Nodup := by
        rw [h.split, List.map_append] at hids
        exact (List.nodup_append.1 hids).2.1
      exact absurd htail (List.nodup_cons.1 hnewer).1
  · exact hstalls

include h hids in
/-- Where paging stalls, a page brings nothing. -/
theorem front_eq_nil_of_stalls {id : String} (hcursor : b.cursor = some id)
    (hstalls : Stalls stored limit id) :
    limit < older.length ∧ b.front (.backfill (.ofLast limit older)) = [] := by
  obtain ⟨older', first, newer', hsplit, rfl, hmore, hlater⟩ := hstalls
  have hsame : older' = older := by
    rw [← storedBefore_head hids h.split, ← storedBefore_head hids hsplit, ← h.cursor, hcursor]
    rfl
  subst hsame
  have hnewer : newer = first :: newer' := List.append_cancel_left (h.split.symm.trans hsplit)
  have hhead : b.lines.head? = some first := h.head.trans (by rw [hnewer]; rfl)
  refine ⟨hmore, List.eq_nil_iff_forall_not_mem.2 fun x hx ↦ ?_⟩
  obtain ⟨hin, htakes⟩ := (mem_front_backfill h.sound (h.page_nodup hids)).1 hx
  exact hlater x hin ((takes_iff hhead).1 htakes).1

end Page

end PagedTo

/-- What one more request does. -/
theorem Paged.apply (h : Paged stored limit sent b) (hids : (stored.map (·.id)).Nodup)
    (hlimit : 1 ≤ limit) (hmore : b.hasEarlierLines = true) :
    ∃ older newer, stored = older ++ newer ∧ b.cursor = newer.head?.map (·.id) ∧
      Paged stored limit (sent ++ [b.cursor]) (b.apply (.backfill (.ofLast limit older))) := by
  obtain ⟨older, newer, hto⟩ := h.ahead hmore
  refine ⟨older, newer, hto.split, hto.cursor, ?_⟩
  have hearlier : (b.apply (.backfill (.ofLast limit older))).hasEarlierLines =
      decide (limit < older.length) := rfl
  constructor
  case once =>
    intro id htwice
    by_cases hcursor : b.cursor = some id
    · refine hto.stalls_of_sent_cursor hids hcursor (List.count_pos_iff.1 ?_)
      rw [List.count_append, hcursor, List.count_singleton_self] at htwice
      omega
    · refine h.once id ?_
      rwa [List.count_append, List.count_singleton, if_neg (by simpa using hcursor)] at htwice
  case ahead =>
    intro hmore
    have hmore : limit < older.length := by simpa [hearlier] using hmore
    cases hfront : b.front (.backfill (.ofLast limit older)) with
    | nil => exact ⟨older, newer, hto.apply_of_front_nil hids hlimit hmore hfront⟩
    | cons first rest => exact hto.apply_of_front_cons hids hfront
  case complete =>
    intro hnone x hx
    have hnone : older.length ≤ limit := by simpa [hearlier] using hnone
    rcases List.mem_append.1 (hto.split ▸ hx) with hx | hx
    · refine hto.brings hids ?_
      rwa [LogsPage.ofLast, Nat.sub_eq_zero_of_le hnone]
    · rw [lines_backfill hto.sound]
      exact (hto.brought x hx).imp (List.mem_append_right _)
        (PassedOver.mono (List.subset_append_left ..))

end LogBuffer

/-! ## The feed -/

namespace Feed

open LogBuffer

/-- The answers of a backend to what a feed asks for, each with where the request goes back from. -/
def answers (backend : Request → Reply) (out : List Output) : List (Option String × Event) :=
  out.filterMap fun
    | .fetchPage request job cursor limit =>
      some (cursor, .page request (backend (.logs job cursor limit)))
    | _ => none

/-- A request for earlier lines that is answered before anything else happens, and where it goes
back from. -/
def load (backend : Request → Reply) (f : Feed) : Feed × List (Option String) :=
  let (f, out) := f.step .loadEarlier
  let answered := answers backend out
  (answered.foldl (fun f answer ↦ (f.step answer.2).1) f, answered.map (·.1))

/-- Asks for earlier lines as long as there are some, at most so many times. -/
def loadAll (backend : Request → Reply) : Nat → Feed → Feed × List (Option String)
  | 0, f => (f, [])
  | rounds + 1, f =>
    if f.cell.value.hasEarlierLines then
      let (f, sent) := f.load backend
      let (f, more) := loadAll backend rounds f
      (f, sent ++ more)
    else (f, [])

/-- A feed follows a job and may write its log. -/
structure Follows (f : Feed) (job : String) : Prop where
  orderly : Orderly f
  writer : ∃ w, f.writer = some w ∧ f.cell.isCurrent w
  jobId : f.cell.value.jobId = some job

variable {f : Feed} {job : String} {backend : Request → Reply}

/-- A feed that is started on a job follows it. -/
theorem follows_start (h : Orderly f) (job : String) : Follows (f.start job).1 job where
  orderly := h.step (.start job)
  writer := ⟨_, rfl, f.cell.isCurrent_reset _⟩
  jobId := rfl

theorem Orderly.load (h : Orderly f) (backend : Request → Reply) : Orderly (f.load backend).1 := by
  simp only [Feed.load]
  generalize answers backend (f.step .loadEarlier).2 = answered
  have h := h.step .loadEarlier
  generalize (f.step .loadEarlier).1 = g at h
  induction answered generalizing g with
  | nil => exact h
  | cons answer answered ih => exact ih _ (h.step answer.2)

/-- The page that a feed has just asked for goes to its log. -/
theorem received_of_current {c : PageCall} {page : LogsPage} {reply : Reply}
    (hw : f.cell.isCurrent c.writer) (hread : reply.read = .ok page) :
    (f.received c reply).1 =
      { f with
        calls := f.calls.filter (·.request != c.request)
        cell := ⟨f.cell.value.apply (.backfill page), f.cell.epoch, f.cell.version + 1⟩ } := by
  simp only [received, hread]
  rw [Cell.update_of_current _ hw]

/-- The call that a request for earlier lines opens is the one that its answer closes. -/
theorem Follows.load_eq (h : Follows f job) {w : Writer} (hw : f.writer = some w)
    (backend : Request → Reply) :
    let c : PageCall := ⟨f.requests, job, w⟩
    let asked : Feed := { f with calls := f.calls ++ [c], requests := f.requests + 1 }
    f.load backend =
      ((asked.received c (backend (.logs job f.cell.value.cursor f.limit))).1,
        [f.cell.value.cursor]) := by
  intro c asked
  have hasked : f.step .loadEarlier =
      (asked, [.fetchPage f.requests job f.cell.value.cursor f.limit]) := by
    simp only [step, loadEarlier, hw, h.jobId, asked, c]
  have hold : f.calls.find? (·.request == f.requests) = none := by
    refine List.find?_eq_none.2 fun c hc ↦ ?_
    simpa using Nat.ne_of_lt (h.orderly.call_lt c hc)
  have hfind : asked.calls.find? (·.request == f.requests) = some c := by
    rw [List.find?_append, hold]
    simp [c]
  rw [Feed.load, hasked]
  change ((asked.step (.page f.requests _)).1, [f.cell.value.cursor]) = _
  simp only [step, hfind]

/-- A request for earlier lines that is answered with a page puts the page in front. -/
theorem Follows.load (h : Follows f job) {page : LogsPage}
    (hread : (backend (.logs job f.cell.value.cursor f.limit)).read = .ok page) :
    Follows (f.load backend).1 job ∧ (f.load backend).2 = [f.cell.value.cursor] ∧
      (f.load backend).1.limit = f.limit ∧
      (f.load backend).1.cell.value = f.cell.value.apply (.backfill page) := by
  obtain ⟨w, hw, hcurrent⟩ := h.writer
  have horderly := h.orderly.load backend
  rw [h.load_eq hw, received_of_current hcurrent hread] at horderly ⊢
  exact ⟨⟨horderly, ⟨w, hw, hcurrent⟩, (LogBuffer.jobId_apply ..).trans h.jobId⟩, rfl, rfl, rfl⟩

/-- What repeated requests for earlier lines lead to. -/
theorem Follows.paged_loadAll {stored : List LogLine} {sent : List (Option String)}
    (h : Follows f job) (hpaged : Paged stored f.limit sent f.cell.value)
    (hids : (stored.map (·.id)).Nodup) (hlimit : 1 ≤ f.limit)
    (hserves : Serves backend job f.limit stored) (rounds : Nat) :
    Paged stored f.limit (sent ++ (f.loadAll backend rounds).2)
      (f.loadAll backend rounds).1.cell.value := by
  induction rounds generalizing f sent with
  | zero => simpa [loadAll] using hpaged
  | succ rounds ih =>
    by_cases hmore : f.cell.value.hasEarlierLines = true
    · obtain ⟨older, newer, hsplit, hcursor, hpaged'⟩ := hpaged.apply hids hlimit hmore
      have hread : (backend (.logs job f.cell.value.cursor f.limit)).read =
          .ok (LogsPage.ofLast f.limit older) := hcursor ▸ hserves.read hids hsplit
      obtain ⟨hfollows, hsent, hsame, hvalue⟩ := h.load hread
      rw [← hvalue, ← hsame, ← hsent] at hpaged'
      simpa [loadAll, hmore, hsame] using
        ih hfollows hpaged' (hsame ▸ hlimit) (hsame ▸ hserves)
    · simpa [loadAll, hmore] using hpaged

/-- Once paging stalls, it goes on for ever with the same request, and nothing changes. -/
theorem Follows.loadAll_of_stalls {stored older newer : List LogLine} {sent : List (Option String)}
    {id : String} (h : Follows f job) (hto : PagedTo stored f.limit sent older newer f.cell.value)
    (hmore : f.cell.value.hasEarlierLines = true) (hids : (stored.map (·.id)).Nodup)
    (hlimit : 1 ≤ f.limit) (hserves : Serves backend job f.limit stored)
    (hcursor : f.cell.value.cursor = some id) (hstalls : Stalls stored f.limit id) (rounds : Nat) :
    (f.loadAll backend rounds).2 = List.replicate rounds (some id) ∧
      (f.loadAll backend rounds).1.cell.value.lines = f.cell.value.lines := by
  induction rounds generalizing f sent with
  | zero => exact ⟨rfl, rfl⟩
  | succ rounds ih =>
    have hread : (backend (.logs job f.cell.value.cursor f.limit)).read =
        .ok (LogsPage.ofLast f.limit older) := hto.cursor ▸ hserves.read hids hto.split
    obtain ⟨hfollows, hsent, hsame, hvalue⟩ := h.load hread
    obtain ⟨hlonger, hfront⟩ := hto.front_eq_nil_of_stalls hids hcursor hstalls
    have hto' := hto.apply_of_front_nil hids hlimit hlonger hfront
    have hlines : (f.load backend).1.cell.value.lines = f.cell.value.lines := by
      rw [hvalue, lines_backfill hto.sound, hfront, List.nil_append]
    have hmore' : (f.load backend).1.cell.value.hasEarlierLines = true := by
      rw [hvalue]
      exact decide_eq_true hlonger
    have hcursor' : (f.load backend).1.cell.value.cursor = some id := by
      rw [hvalue, hto'.cursor, ← hto.cursor, hcursor]
    rw [← hvalue, ← hsame] at hto'
    obtain ⟨hrest, hheld⟩ := ih hfollows hto' hmore' (hsame ▸ hlimit) (hsame ▸ hserves) hcursor'
      (hsame ▸ hstalls)
    simp only [loadAll, hmore, if_true, hrest, hsent, hcursor, hheld, hlines]
    exact ⟨rfl, trivial⟩

/-- After any number of rounds, the log has paged back through what is stored. -/
theorem paged_start_loadAll (hf : Orderly f) (job : String) {stored : List LogLine}
    (hids : (stored.map (·.id)).Nodup) (hlimit : 1 ≤ f.limit)
    (hserves : Serves backend job f.limit stored) (rounds : Nat) :
    Paged stored f.limit ((f.start job).1.loadAll backend rounds).2
      ((f.start job).1.loadAll backend rounds).1.cell.value :=
  (follows_start hf job).paged_loadAll (Paged.forJob stored f.limit job) hids hlimit hserves rounds

/-- Where the timestamps do not go back, no two requests are the same, and all lines are held in the
end. -/
theorem loadAll_of_inOrder (hf : Orderly f) (job : String) {stored : List LogLine}
    (hids : (stored.map (·.id)).Nodup) (horder : InOrder stored) (hlimit : 1 ≤ f.limit)
    (hserves : Serves backend job f.limit stored) (rounds : Nat) :
    ∃ g sent, (f.start job).1.loadAll backend rounds = (g, sent) ∧
      (∀ id, sent.count (some id) ≤ 1) ∧
      (g.cell.value.hasEarlierLines = false → stored ⊆ g.cell.value.lines) := by
  have hpaged := paged_start_loadAll hf job hids hlimit hserves rounds
  have hle : ∀ older line newer, stored = older ++ line :: newer →
      ∀ x ∈ (LogsPage.ofLast f.limit older).lines, x.timestamp.le line.timestamp := by
    rintro older line newer rfl x hx
    have hold : x ∈ older := (LogsPage.lines_ofLast_sublist ..).subset hx
    exact (List.pairwise_append.1 horder).2.2 x hold line List.mem_cons_self
  refine ⟨_, _, rfl, fun id ↦ ?_, fun hnone line hline ↦ ?_⟩
  · by_contra htwice
    obtain ⟨older, line, newer, hsplit, -, hmore, hlater⟩ := hpaged.once id (by omega)
    obtain ⟨x, hx⟩ := exists_mem_ofLast hlimit (Nat.zero_lt_of_lt hmore)
    exact hlater x hx (hle older line newer hsplit x hx)
  · rcases hpaged.complete hnone line hline with hheld | hpassed
    · exact hheld
    · obtain ⟨older, first, newer, hsplit, -, hx, hlater⟩ := hpassed
      exact absurd (hle older first newer hsplit line hx) hlater

/-- What repeated requests for earlier lines come to, whatever the timestamps are.

A feed that has just been started asks for earlier lines as long as there are some. Two requests go
back from the same line only if there are more lines than a page holds before that line and the ones
just before it are all later than it. When there are no earlier lines left, each stored line is held
or came on a page that went back from an earlier line. -/
theorem loadAll_progress (hf : Orderly f) (job : String) {stored : List LogLine}
    (hids : (stored.map (·.id)).Nodup) (hlimit : 1 ≤ f.limit)
    (hserves : Serves backend job f.limit stored) (rounds : Nat) :
    ∃ g sent, (f.start job).1.loadAll backend rounds = (g, sent) ∧
      (∀ id, 2 ≤ sent.count (some id) → Stalls stored f.limit id) ∧
      (g.cell.value.hasEarlierLines = false →
        ∀ line ∈ stored, line ∈ g.cell.value.lines ∨ PassedOver stored f.limit sent line) := by
  have hpaged := paged_start_loadAll hf job hids hlimit hserves rounds
  exact ⟨_, _, rfl, hpaged.once, hpaged.complete⟩

/-- Three lines, of which the last is earlier than the one before it. -/
theorem serves_skewed :
    Serves (oneByOne [("a", 1), ("b", 9), ("c", 2)]) "j1" 1
      [lineAt "a" 1, lineAt "b" 9, lineAt "c" 2] := by
  intro cursor hcursor
  have hcursor : cursor = none ∨ cursor = some "a" ∨ cursor = some "b" ∨ cursor = some "c" := by
    simpa [lineAt] using hcursor
  rcases hcursor with rfl | rfl | rfl | rfl <;> exact Reply.read_ok (by decide +kernel)

/-- Two lines, of which the last is earlier. -/
theorem serves_reversed :
    Serves (oneByOne [("a", 5), ("b", 1)]) "j1" 1 [lineAt "a" 5, lineAt "b" 1] := by
  intro cursor hcursor
  have hcursor : cursor = none ∨ cursor = some "a" ∨ cursor = some "b" := by
    simpa [lineAt] using hcursor
  rcases hcursor with rfl | rfl | rfl <;> exact Reply.read_ok (by decide +kernel)

/-- A page that brings nothing is asked for again, from the same line. -/
theorem loadAll_skewed :
    (((Feed.new 1).start "j1").1.loadAll (oneByOne [("a", 1), ("b", 9), ("c", 2)]) 3).2 =
      [none, some "c", some "c"] := by
  decide +kernel

theorem loadAll_reversed :
    let b := (((Feed.new 1).start "j1").1.loadAll (oneByOne [("a", 5), ("b", 1)]) 2).1.cell.value
    (b.lines, b.hasEarlierLines) = ([lineAt "b" 1], false) := by
  decide +kernel

/-- The page before the last of three lines brings nothing, and is asked for again. -/
theorem skewed_line_stalls :
    let stored := [lineAt "a" 1, lineAt "b" 9, lineAt "c" 2]
    let backend := oneByOne [("a", 1), ("b", 9), ("c", 2)]
    (Orderly (Feed.new 1) ∧ (stored.map (·.id)).Nodup ∧ 1 ≤ (Feed.new 1).limit ∧
        Serves backend "j1" (Feed.new 1).limit stored) ∧
      (((Feed.new 1).start "j1").1.loadAll backend 3).2 = [none, some "c", some "c"] ∧
      Stalls stored 1 "c" := by
  intro stored backend
  have hids : (stored.map (·.id)).Nodup := by decide
  obtain ⟨g, sent, hrun, honce, -⟩ :=
    loadAll_progress (Orderly.new 1) "j1" hids (Nat.le_refl 1) serves_skewed 3
  obtain rfl : sent = [none, some "c", some "c"] := by rw [← loadAll_skewed, hrun]
  exact ⟨⟨Orderly.new 1, hids, Nat.le_refl 1, serves_skewed⟩, loadAll_skewed, honce "c" (by decide)⟩

/-- The stored order need not agree with the timestamps. Then a request may be made twice, and a
stored line may never be held. -/
theorem paging_misled_by_timestamps :
    (¬∀ (f : Feed) (job : String) (backend : Request → Reply) (stored : List LogLine),
      Orderly f → (stored.map (·.id)).Nodup → 1 ≤ f.limit → Serves backend job f.limit stored →
        ∀ rounds id, ((f.start job).1.loadAll backend rounds).2.count (some id) ≤ 1) ∧
    ¬∀ (f : Feed) (job : String) (backend : Request → Reply) (stored : List LogLine),
      Orderly f → (stored.map (·.id)).Nodup → 1 ≤ f.limit → Serves backend job f.limit stored →
        ∀ rounds, ((f.start job).1.loadAll backend rounds).1.cell.value.hasEarlierLines = false →
          stored ⊆ ((f.start job).1.loadAll backend rounds).1.cell.value.lines := by
  constructor
  · intro h
    have honce := h (Feed.new 1) "j1" _ _ (Orderly.new 1) (by decide) (Nat.le_refl 1) serves_skewed
      3 "c"
    rw [loadAll_skewed] at honce
    revert honce
    decide
  · intro h
    obtain ⟨hlines, hnone⟩ := Prod.mk.inj loadAll_reversed
    have hall := h (Feed.new 1) "j1" _ _ (Orderly.new 1) (by decide) (Nat.le_refl 1) serves_reversed
      2 hnone
    rw [hlines] at hall
    revert hall
    decide

end Feed

end JobWatch

import JobWatch.Api.Endpoint
import JobWatch.Command.StoredLogs
import JobWatch.Proofs.Logs.Page

/-!
# Fetching a stored log

A backend keeps the lines of a job in their order and answers with the lines just before the one
that it is asked to go back from, or with the last ones. Where the timestamps do not go back, pages
fetched one after the other are the stored log from its end (`fetchStored_eq_drop`): after every
page the held lines are what is stored behind the lines that are still to come (`HoldsAfter`).
-/

namespace JobWatch

/-- The last lines of some, at most so many. -/
def LogsPage.ofLast (limit : Nat) (lines : List LogLine) : LogsPage where
  lines := lines.drop (lines.length - limit)
  hasMore := decide (limit < lines.length)
  oldestId := (lines.drop (lines.length - limit)).head?.map (·.id)

theorem LogsPage.lines_ofLast_sublist (limit : Nat) (lines : List LogLine) :
    (ofLast limit lines).lines.Sublist lines := List.drop_sublist ..

theorem Reply.read_ok {α : Type} [Wire α] {body : List UInt8} {a : α}
    (h : Wire.ofOctets? body = some a) : Reply.read (.ok body) = .ok a := by
  simp [Reply.read, Except.bind, h]

namespace LogBuffer

/-- The stored lines before the one that a page goes back from. -/
def storedBefore (stored : List LogLine) : Option String → List LogLine
  | none => stored
  | some id => stored.takeWhile (·.id ≠ id)

/-- A backend that answers a job's requests for pages from a stored log. -/
def Serves (backend : Request → Reply) (job : String) (limit : Nat) (stored : List LogLine) :
    Prop :=
  ∀ cursor ∈ none :: stored.map (some ·.id),
    (backend (.logs job cursor limit)).read =
      .ok (LogsPage.ofLast limit (storedBefore stored cursor))

/-- Asks a backend for a page, and notes the request. -/
def fetchFrom (backend : Request → Reply) (job : String) (limit : Nat) (cursor : Option String) :
    StateM (List Request) (Except ApiError LogsPage) := do
  modify (· ++ [.logs job cursor limit])
  return (backend (.logs job cursor limit)).read

/-- The held lines are what is stored behind some lines, and the next page goes back from there. -/
structure HoldsAfter (stored older : List LogLine) (b : LogBuffer) : Prop where
  sound : Sound b
  split : stored = older ++ b.lines
  cursor : b.cursor = b.lines.head?.map (·.id)

variable {stored older : List LogLine} {b : LogBuffer} {backend : Request → Reply} {job : String}
  {limit : Nat}

/-- Before the first of the newer lines stand the older ones. -/
theorem storedBefore_head {newer : List LogLine} (hids : (stored.map (·.id)).Nodup)
    (h : stored = older ++ newer) : storedBefore stored (newer.head?.map (·.id)) = older := by
  cases newer with
  | nil => simpa [storedBefore] using h
  | cons line newer =>
    have hne : ∀ x ∈ older, decide (x.id ≠ line.id) = true := by
      intro x hx
      rw [h, List.map_append, List.map_cons] at hids
      have hdisj := (List.nodup_append.1 hids).2.2 x.id (List.mem_map_of_mem hx)
      simpa using hdisj line.id List.mem_cons_self
    rw [List.head?_cons, Option.map_some, storedBefore, h, List.takeWhile_append_of_pos hne]
    simp

/-- The answer to a request that goes back from where some stored lines begin. -/
theorem Serves.read {newer : List LogLine} (hserves : Serves backend job limit stored)
    (hids : (stored.map (·.id)).Nodup) (h : stored = older ++ newer) :
    (backend (.logs job (newer.head?.map (·.id)) limit)).read =
      .ok (LogsPage.ofLast limit older) := by
  have hmem : newer.head?.map (·.id) ∈ none :: stored.map (some ·.id) := by
    cases newer with
    | nil => exact List.mem_cons_self
    | cons line newer =>
      refine List.mem_cons_of_mem _ (List.mem_map.2 ⟨line, ?_, rfl⟩)
      rw [h]
      exact List.mem_append_right older List.mem_cons_self
  rw [hserves _ hmem, storedBefore_head hids h]

/-- The log of a job that holds no line has all that is stored before it. -/
theorem HoldsAfter.forJob (stored : List LogLine) (job : String) :
    HoldsAfter stored stored (.forJob job) :=
  ⟨Sound.initial (some job), (List.append_nil stored).symm, rfl⟩

namespace HoldsAfter

/-- The next page is taken as a whole. -/
theorem front (h : HoldsAfter stored older b) (hids : (stored.map (·.id)).Nodup)
    (horder : InOrder stored) (limit : Nat) :
    b.front (.backfill (.ofLast limit older)) = older.drop (older.length - limit) := by
  have hsub : (older.drop (older.length - limit)).Sublist stored := by
    rw [h.split]
    exact (List.drop_sublist ..).trans (List.sublist_append_left older b.lines)
  rw [front_backfill_of_inOrder h.sound (hids.sublist (hsub.map _)) (horder.sublist hsub)]
  refine List.filter_eq_self.2 fun line hline ↦ ?_
  have hline : line ∈ older := (List.drop_sublist ..).subset hline
  rw [h.split] at hids horder
  have hnew : line.id ∉ b.ids := by
    rw [List.map_append, List.nodup_append] at hids
    intro hheld
    exact hids.2.2 _ (List.mem_map_of_mem hline) _ hheld rfl
  cases hlines : b.lines with
  | nil => simp [takes, mayPrecede, hlines, hnew]
  | cons first rest =>
    have hle : line.timestamp.le first.timestamp :=
      (List.pairwise_append.1 horder).2.2 line hline first (by simp [hlines])
    simp [takes, mayPrecede, hlines, hnew, hle]

/-- What a page does. -/
theorem apply (h : HoldsAfter stored older b) (hids : (stored.map (·.id)).Nodup)
    (horder : InOrder stored) (limit : Nat) :
    HoldsAfter stored (older.take (older.length - limit))
        (b.apply (.backfill (.ofLast limit older))) ∧
      (b.apply (.backfill (.ofLast limit older))).hasEarlierLines =
        decide (limit < older.length) := by
  have hlines : (b.apply (.backfill (.ofLast limit older))).lines =
      older.drop (older.length - limit) ++ b.lines := by
    rw [lines_backfill h.sound, h.front hids horder]
  refine ⟨⟨h.sound.apply _, ?_, ?_⟩, rfl⟩
  · rw [hlines, ← List.append_assoc, List.take_append_drop]
    exact h.split
  · rw [cursor_backfill, hlines]
    cases hdrop : older.drop (older.length - limit) with
    | nil => cases hheld : b.lines <;> simp [LogsPage.ofLast, hdrop]
    | cons first rest => rfl

end HoldsAfter

/-- Fetching goes on after a page as long as there are earlier lines. -/
theorem run_fetchPages_succ {page : LogsPage} (pages : Nat) (requests : List Request)
    (hread : (backend (.logs job b.cursor limit)).read = .ok page) :
    (fetchPages (fetchFrom backend job limit) (pages + 1) b).run requests =
      if (b.apply (.backfill page)).hasEarlierLines then
        (fetchPages (fetchFrom backend job limit) pages (b.apply (.backfill page))).run
          (requests ++ [.logs job b.cursor limit])
      else (.ok (b.apply (.backfill page)), requests ++ [.logs job b.cursor limit]) := by
  simp only [fetchPages, fetchFrom, StateT.run_bind, StateT.run_modify, hread, pure_bind,
    bind_assoc]
  split <;> rfl

/-- How many requests it takes to fetch so many lines. It takes one to find that there are none. -/
def pageCount (limit lines : Nat) : Nat := max 1 ((lines + limit - 1) / limit)

theorem pageCount_of_le {lines : Nat} (hlimit : 1 ≤ limit) (h : lines ≤ limit) :
    pageCount limit lines = 1 := by
  have hlt : (lines + limit - 1) / limit < 2 := by
    rw [Nat.div_lt_iff_lt_mul (by omega)]
    omega
  simp only [pageCount]
  omega

/-- More lines than fit on a page take one page more than what is left over. -/
theorem pageCount_of_lt {lines : Nat} (hlimit : 1 ≤ limit) (h : limit < lines) :
    pageCount limit lines = pageCount limit (lines - limit) + 1 := by
  have hsub : lines - limit + limit - 1 = lines - 1 := by omega
  have hadd : lines + limit - 1 = lines - 1 + limit := by omega
  have hpos : 1 ≤ (lines - 1) / limit := (Nat.one_le_div_iff (by omega)).2 (by omega)
  simp only [pageCount, hsub]
  rw [hadd, Nat.add_div_right _ (by omega)]
  omega

/-- Fetching pages goes back by as many lines as they may hold, and stops where the log begins. -/
theorem HoldsAfter.run_fetchPages (h : HoldsAfter stored older b)
    (hids : (stored.map (·.id)).Nodup) (horder : InOrder stored)
    (hserves : Serves backend job limit stored) (hlimit : 1 ≤ limit) (pages : Nat)
    (requests : List Request) :
    ∃ b' more, (fetchPages (fetchFrom backend job limit) pages b).run requests =
        (.ok b', requests ++ more) ∧
      HoldsAfter stored (older.take (older.length - pages * limit)) b' ∧
      b'.hasEarlierLines =
        (if pages = 0 then b.hasEarlierLines else decide (pages * limit < older.length)) ∧
      more.length = min pages (pageCount limit older.length) := by
  induction pages generalizing older b requests with
  | zero => exact ⟨b, [], by rw [List.append_nil]; rfl, by simpa using h, rfl, by simp⟩
  | succ pages ih =>
    obtain ⟨hafter, hearlier⟩ := h.apply hids horder limit
    have hmul : (pages + 1) * limit = pages * limit + limit := Nat.succ_mul ..
    have hread : (backend (.logs job b.cursor limit)).read = .ok (LogsPage.ofLast limit older) :=
      h.cursor ▸ hserves.read hids h.split
    rw [if_neg (Nat.succ_ne_zero pages), run_fetchPages_succ pages requests hread, hearlier]
    by_cases hmore : limit < older.length
    · rw [if_pos (by simpa using hmore)]
      have hlen : (older.take (older.length - limit)).length = older.length - limit := by simp
      obtain ⟨b', more, hrun, hafter', hearlier', hcount⟩ :=
        ih hafter (requests ++ [.logs job b.cursor limit])
      rw [hlen] at hafter' hearlier' hcount
      refine ⟨b', .logs job b.cursor limit :: more, ?_, ?_, ?_, ?_⟩
      · rw [hrun, List.append_assoc]
        rfl
      · rw [List.take_take, Nat.min_eq_left (by omega)] at hafter'
        rwa [hmul, Nat.add_comm, ← Nat.sub_sub]
      · rw [hearlier', hearlier, hmul]
        split
        next hzero => simp [hzero]
        next => exact decide_eq_decide.2 (by omega)
      · rw [List.length_cons, hcount, pageCount_of_lt hlimit hmore]
        omega
    · rw [if_neg (by simpa using hmore)]
      refine ⟨_, [.logs job b.cursor limit], rfl, ?_, ?_, ?_⟩
      · have hzero : older.length - (pages + 1) * limit = older.length - limit := by omega
        rwa [hzero]
      · rw [hearlier]
        exact decide_eq_decide.2 (by omega)
      · rw [List.length_singleton, pageCount_of_le hlimit (by omega)]
        omega

/-- The stored log comes back.

Against a backend that serves a log whose timestamps do not go back, fetching so many pages holds
exactly the last lines of the log, as many as the pages may hold, in their order. Earlier lines are
left exactly if the log has more. As many pages are asked for as these lines come in. -/
theorem fetchStored_eq_drop (hids : (stored.map (·.id)).Nodup) (horder : InOrder stored)
    (hserves : Serves backend job limit stored) (hlimit : 1 ≤ limit) {pages : Nat}
    (hpages : 1 ≤ pages) :
    ∃ b requests, (fetchStored (fetchFrom backend job limit) job pages).run [] =
        (.ok b, requests) ∧
      b.lines = stored.drop (stored.length - min (pages * limit) stored.length) ∧
      b.hasEarlierLines = decide (pages * limit < stored.length) ∧
      requests.length = min pages (max 1 ((stored.length + limit - 1) / limit)) := by
  obtain ⟨b, requests, hrun, hafter, hearlier, hcount⟩ :=
    (HoldsAfter.forJob stored job).run_fetchPages hids horder hserves hlimit pages []
  refine ⟨b, requests, ?_, ?_, ?_, hcount⟩
  · rw [fetchStored, Nat.max_eq_left hpages, hrun, List.nil_append]
  · have hlen : (stored.take (stored.length - pages * limit)).length =
        stored.length - min (pages * limit) stored.length := by
      rw [List.length_take]
      omega
    calc
      b.lines = (stored.take (stored.length - pages * limit) ++ b.lines).drop _ :=
        List.drop_left.symm
      _ = stored.drop (stored.length - min (pages * limit) stored.length) := by
        rw [← hafter.split, hlen]
  · rw [hearlier, if_neg (by omega)]

/-! ## A small backend -/

/-- A line with an id, so many seconds after the beginning of 1970. -/
def lineAt (id : String) (second : Fin 10) : LogLine where
  id := id
  timestamp := (Timestamp.of? Timestamp.epoch.date second 0).getD .epoch
  source := .stdout
  text := ""
  phase := none

/-- A backend that keeps lines, given by their ids and seconds, and sends them one at a time. -/
def oneByOne (kept : List (String × Fin 10)) (r : Request) : Reply :=
  let older := match r.query.lookup "before_id" with
    | none => kept
    | some id => kept.takeWhile (·.1 ≠ id)
  .ok (String.toUTF8 (match older.getLast? with
    | none => "[]"
    | some (id, second) =>
      "[[[\"" ++ id ++ "\",\"1970-01-01T00:00:0" ++ (Nat.digitChar second).toString ++
        "Z\",\"stdout\",\"\"]]," ++ (if older.length = 1 then "false" else "true") ++
        ",\"" ++ id ++ "\"]")).toList

/-- Two lines with one timestamp, on two pages, are fetched in their order. -/
theorem tied_lines_fetched :
    let stored := [lineAt "a" 0, lineAt "b" 0]
    let backend := oneByOne [("a", 0), ("b", 0)]
    ((stored.map (·.id)).Nodup ∧ InOrder stored ∧ Serves backend "j1" 1 stored) ∧
      ∃ b requests, (fetchStored (fetchFrom backend "j1" 1) "j1" 2).run [] = (.ok b, requests) ∧
        b.lines = stored ∧ b.hasEarlierLines = false ∧ requests.length = 2 := by
  intro stored backend
  have hids : (stored.map (·.id)).Nodup := by decide
  have horder : InOrder stored := by unfold InOrder; decide +kernel
  have hserves : Serves backend "j1" 1 stored := by
    intro cursor hcursor
    have hcursor : cursor = none ∨ cursor = some "a" ∨ cursor = some "b" := by
      simpa [stored, lineAt] using hcursor
    rcases hcursor with rfl | rfl | rfl <;> exact Reply.read_ok (by decide +kernel)
  obtain ⟨b, requests, hrun, hlines, hearlier, hcount⟩ :=
    fetchStored_eq_drop hids horder hserves (Nat.le_refl 1) (show 1 ≤ 2 by decide)
  exact ⟨⟨hids, horder, hserves⟩, b, requests, hrun, hlines, hearlier, hcount.trans (by decide)⟩

end LogBuffer

end JobWatch

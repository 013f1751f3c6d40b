import JobWatch.Proofs.Logs.Integrity

/-!
# What a page brings

Of a page whose ids are distinct a log takes the lines that may stand before the first held line and
whose ids are not held, in the order of their timestamps. Where the page is in that order already,
nothing is moved.
-/

namespace JobWatch

namespace LogBuffer

variable {b : LogBuffer} {page : LogsPage}

/-- Whether a log takes a line of a page. -/
def takes (b : LogBuffer) (line : LogLine) : Bool := b.mayPrecede line && decide (line.id ∉ b.ids)

/-- A log takes the lines of a page that are not later than its first line and not held. -/
theorem takes_iff {first line : LogLine} (h : b.lines.head? = some first) :
    b.takes line ↔ line.timestamp.le first.timestamp ∧ line.id ∉ b.ids := by
  obtain ⟨rest, hlines⟩ := List.head?_eq_some_iff.1 h
  simp [takes, mayPrecede, hlines]

/-- Where the ids of a page are distinct, its fresh lines are those whose ids are new. -/
theorem takeFresh_eq_filter {lines : List LogLine} (seen : List String)
    (h : (lines.map (·.id)).Nodup) :
    (takeFresh seen lines).1 = lines.filter fun line ↦ decide (line.id ∉ seen) := by
  fun_induction takeFresh seen lines with
  | case1 => rfl
  | case2 seen line rest hseen ih =>
    have hmem : line.id ∈ seen := by simpa using hseen
    rw [List.filter_cons_of_neg (by simpa using hmem)]
    exact ih (List.nodup_cons.1 h).2
  | case3 seen line rest hseen fresh seen' heq ih =>
    obtain ⟨hline, hrest⟩ := List.nodup_cons.1 h
    have hnew : line.id ∉ seen := by simpa using hseen
    have ih := ih hrest
    rw [heq] at ih
    rw [List.filter_cons_of_pos (by simpa using hnew)]
    -- The id of the line that is taken does not come again.
    refine congrArg (line :: ·) (ih.trans (List.filter_congr fun x hx ↦ ?_))
    have hne : x.id ≠ line.id := by
      intro heq
      exact hline (List.mem_map.2 ⟨x, hx, heq⟩)
    simp [hne]

/-- A page leaves the held lines as they are, behind what it puts in front. -/
theorem lines_backfill (hb : Sound b) (page : LogsPage) :
    (b.apply (.backfill page)).lines = b.front (.backfill page) ++ b.lines := by
  simpa [back] using lines_apply hb (.backfill page)

/-- After a page the cursor is the first held line, or where the page says while none is held. -/
theorem cursor_backfill (b : LogBuffer) (page : LogsPage) :
    (b.apply (.backfill page)).cursor =
      ((b.apply (.backfill page)).lines.head?.map (·.id) <|> page.oldestId) := rfl

/-- The lines of a page that are put in front. -/
theorem front_backfill (hb : Sound b) (hids : (page.lines.map (·.id)).Nodup) :
    b.front (.backfill page) =
      (page.lines.filter b.takes).mergeSort fun x y ↦ x.timestamp.le y.timestamp := by
  have hnodup : ((page.lines.filter b.mayPrecede).map (·.id)).Nodup :=
    hids.sublist (List.filter_sublist.map _)
  have hseen : ∀ line : LogLine, decide (line.id ∉ b.seen) = decide (line.id ∉ b.ids) := by
    intro line
    simp only [hb.mem_seen]
  simp only [front, fresh, takeFresh_eq_filter b.seen hnodup, List.filter_filter, hseen]
  congr 2
  funext line
  exact Bool.and_comm ..

/-- A page puts in front the lines of it that the log takes, and no other. -/
theorem mem_front_backfill (hb : Sound b) (hids : (page.lines.map (·.id)).Nodup) {line : LogLine} :
    line ∈ b.front (.backfill page) ↔ line ∈ page.lines ∧ b.takes line := by
  rw [front_backfill hb hids, List.mem_mergeSort, List.mem_filter]

/-- A page in the order of its timestamps is not moved. -/
theorem front_backfill_of_inOrder (hb : Sound b) (hids : (page.lines.map (·.id)).Nodup)
    (horder : InOrder page.lines) :
    b.front (.backfill page) = page.lines.filter b.takes := by
  rw [front_backfill hb hids]
  exact List.mergeSort_of_pairwise (horder.sublist List.filter_sublist)

/-- Sorting moves behind the earliest line the lines that stood before it. -/
theorem earliest_of_mergeSort {lines rest : List LogLine} {first : LogLine} (h : lines.Nodup)
    (hsort : lines.mergeSort (fun x y ↦ x.timestamp.le y.timestamp) = first :: rest) :
    ∃ before after, lines = before ++ first :: after ∧
      ∀ x ∈ before, ¬x.timestamp.le first.timestamp := by
  have hfirst : first ∈ lines := List.mem_mergeSort.1 (hsort ▸ List.mem_cons_self)
  have hnodup : (first :: rest).Nodup := hsort ▸ (List.mergeSort_perm ..).nodup_iff.2 h
  obtain ⟨before, after, rfl⟩ := List.append_of_mem hfirst
  refine ⟨before, after, rfl, fun x hx hle ↦ ?_⟩
  have hpair : [x, first].Sublist (before ++ first :: after) :=
    (List.singleton_sublist.2 hx).append ((List.nil_sublist after).cons_cons first)
  have hsorted : [x, first].Sublist (first :: rest) := by
    rw [← hsort]
    exact List.pair_sublist_mergeSort (fun _ _ _ ↦ Timestamp.le_trans)
      (fun x y ↦ Timestamp.le_total x.timestamp y.timestamp) hle hpair
  have hrest : [first].Sublist rest := by
    cases hsorted with
    | cons _ h => exact (List.sublist_cons_self x [first]).trans h
    | cons_cons _ h => exact h
  exact (List.nodup_cons.1 hnodup).1 (List.singleton_sublist.1 hrest)

/-- The line that a page puts at the front is one that it brings, and later than it are the lines
that the page brings and has before it. -/
theorem earliest_of_front (hb : Sound b) (hids : (page.lines.map (·.id)).Nodup) {first : LogLine}
    {rest : List LogLine} (hfront : b.front (.backfill page) = first :: rest) :
    ∃ before after, page.lines = before ++ first :: after ∧
      ∀ x ∈ before, b.takes x → ¬x.timestamp.le first.timestamp := by
  rw [front_backfill hb hids] at hfront
  obtain ⟨before, after, hsplit, hlater⟩ :=
    earliest_of_mergeSort (hids.of_map.sublist List.filter_sublist) hfront
  obtain ⟨front, back, hpage, rfl, hback⟩ := List.filter_eq_append_iff.1 hsplit
  obtain ⟨skipped, after', rfl, hskipped, -, -⟩ := List.filter_eq_cons_iff.1 hback
  refine ⟨front ++ skipped, after', by rw [hpage, List.append_assoc], fun x hx htakes ↦ ?_⟩
  rcases List.mem_append.1 hx with hx | hx
  · exact hlater x (List.mem_filter.2 ⟨hx, htakes⟩)
  · exact absurd htakes (hskipped x hx)

end LogBuffer

end JobWatch

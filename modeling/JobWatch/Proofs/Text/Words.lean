import JobWatch.Text.Word
import Mathlib.Data.List.TakeWhile

/-!
# The words of a line

Whatever a line holds, its words are the line (`Word.flatten_fragments`), and none of them is wider
than the lines it is cut for (`Word.columns_le_of_mem_fragments`).

The columns of words add up where no escape sequence is cut in two. A line is cut between words, and
a long word where its columns are used up, only next to a character that is shown, outside of any
sequence. The exception is a hyphen between letters within a sequence, as in the title of a window:
a word is cut after it like after any other (`Word.intact_fragments`).
-/

namespace JobWatch.Text

/-! ## Where a text stands in an escape sequence -/

namespace EscapeState

/-- Where a text stands after some characters. -/
def after (st : EscapeState) (s : List Char) : EscapeState := s.foldl (fun st c ↦ (st.next c).2) st

variable (st : EscapeState)

@[simp] theorem after_nil : st.after [] = st := rfl

@[simp] theorem after_cons (c : Char) (s : List Char) :
    st.after (c :: s) = (st.next c).2.after s := rfl

@[simp] theorem after_append (a b : List Char) : st.after (a ++ b) = (st.after a).after b :=
  List.foldl_append

variable {st}

/-- A character is shown outside of any sequence only, and leaves the text there. -/
theorem of_shown {c : Char} (h : (st.next c).1 = true) :
    st = .outside ∧ (st.next c).2 = .outside := by
  cases st with
  | outside =>
    refine ⟨rfl, ?_⟩
    rw [next] at h ⊢
    split at h
    next => exact nomatch h
    next hc => rw [if_neg hc]
  | begun | control | command afterEsc => exact nomatch h

/-- Without escape characters a text stays outside of escape sequences. -/
theorem after_of_esc_notMem {s : List Char} (h : esc ∉ s) : outside.after s = .outside := by
  induction s with
  | nil => rfl
  | cons c s ih =>
    have hc : c ≠ esc := fun hc ↦ h (hc ▸ List.mem_cons_self)
    rw [after_cons, next, if_neg hc]
    exact ih fun hs ↦ h (List.mem_cons_of_mem c hs)

end EscapeState

/-- No escape sequence is open at the end of a text. -/
def Complete (s : List Char) : Prop := EscapeState.outside.after s = .outside

theorem complete_nil : Complete [] := rfl

theorem Complete.append_iff {a b : List Char} (ha : Complete a) :
    Complete (a ++ b) ↔ Complete b := by
  rw [Complete, EscapeState.after_append, ha, Complete]

/-! ## Columns -/

/-- The columns of a text that begins somewhere in an escape sequence. -/
def widthFrom (st : EscapeState) (s : List Char) : Nat :=
  ((markFrom st s).map fun (c, shown) ↦ if shown then charWidth c else 0).foldr (· + ·) 0

theorem width_eq_widthFrom (s : List Char) : width s = widthFrom .outside s := rfl

theorem widthFrom_cons (st : EscapeState) (c : Char) (s : List Char) :
    widthFrom st (c :: s) =
      (if (st.next c).1 then charWidth c else 0) + widthFrom (st.next c).2 s := rfl

theorem widthFrom_append (st : EscapeState) (a b : List Char) :
    widthFrom st (a ++ b) = widthFrom st a + widthFrom (st.after a) b := by
  induction a generalizing st with
  | nil => exact (Nat.zero_add _).symm
  | cons c a ih => rw [List.cons_append, widthFrom_cons, ih, widthFrom_cons, Nat.add_assoc]; rfl

/-- The columns of two texts add up if no escape sequence is open between them. -/
theorem width_append {a : List Char} (ha : Complete a) (b : List Char) :
    width (a ++ b) = width a + width b := by
  rw [width_eq_widthFrom, widthFrom_append, ha]
  rfl

/-- Characters of one column each, outside of any escape sequence. -/
theorem width_of_plain {s : List Char} (h : ∀ c ∈ s, c ≠ esc ∧ charWidth c = 1) :
    width s = s.length ∧ Complete s := by
  induction s with
  | nil => exact ⟨rfl, rfl⟩
  | cons c s ih =>
    obtain ⟨hc, hwidth⟩ := h c List.mem_cons_self
    obtain ⟨ihwidth, ihcomplete⟩ := ih fun d hd ↦ h d (List.mem_cons_of_mem c hd)
    have hnext : EscapeState.outside.next c = (true, .outside) := if_neg hc
    refine ⟨?_, ?_⟩
    · rw [width_eq_widthFrom, widthFrom_cons, hnext, if_pos rfl, hwidth, ← width_eq_widthFrom,
        ihwidth, List.length_cons, Nat.add_comm]
    · rw [Complete, EscapeState.after_cons, hnext]
      exact ihcomplete

/-- A space takes one column, or none within an escape sequence. -/
theorem widthFrom_blanks_le (st : EscapeState) (n : Nat) :
    widthFrom st (List.replicate n ' ') ≤ n := by
  induction n generalizing st with
  | zero => exact Nat.le_refl 0
  | succ n ih =>
    rw [List.replicate_succ, widthFrom_cons]
    have hblank : charWidth ' ' = 1 := rfl
    have hrest := ih (st.next ' ').2
    split <;> omega

/-! ## Groups -/

/-- Every cut is outside of any escape sequence. -/
def CutsOutside (st : EscapeState) : List (Bool × Char) → Prop
  | [] => True
  | (cut, c) :: rest => (cut = true → st = .outside) ∧ CutsOutside (st.next c).2 rest

/-- No escape sequence is cut in two: each part of a text but the last one is complete. -/
inductive Intact : List (List Char) → Prop
  | nil : Intact []
  | last (s : List Char) : Intact [s]
  | cons {s : List Char} {ss : List (List Char)} (hs : Complete s) (hss : Intact ss) :
      Intact (s :: ss)

namespace Intact

variable {ss ts : List (List Char)} {s : List Char}

theorem cons_of_ne_nil (hs : ss ≠ [] → Complete s) (hss : Intact ss) : Intact (s :: ss) := by
  cases ss with
  | nil => exact .last s
  | cons t ts => exact .cons (hs (List.cons_ne_nil t ts)) hss

theorem append (hss : Intact ss) (hcomplete : Complete ss.flatten) (hts : Intact ts) :
    Intact (ss ++ ts) := by
  induction hss with
  | nil => exact hts
  | last s => exact .cons (by simpa using hcomplete) hts
  | @cons s ss hs _ ih => exact .cons hs (ih (hs.append_iff.1 hcomplete))

/-- A part of a text has complete text in front of it. -/
theorem exists_before (hss : Intact ss) (hs : s ∈ ss) :
    ∃ before after, ss.flatten = before ++ s ++ after ∧ Complete before := by
  induction hss with
  | nil => exact absurd hs List.not_mem_nil
  | last t =>
    rw [List.mem_singleton.1 hs]
    exact ⟨[], [], by simp, complete_nil⟩
  | @cons t ts ht _ ih =>
    rcases List.mem_cons.1 hs with rfl | hs
    · exact ⟨[], ts.flatten, by simp, complete_nil⟩
    · obtain ⟨before, after, hflatten, hbefore⟩ := ih hs
      exact ⟨t ++ before, after, by simp [hflatten], ht.append_iff.2 hbefore⟩

/-- The parts that more parts follow are complete. -/
theorem complete_of_append (h : Intact (ss ++ ts)) (hts : ts ≠ []) : ∀ s ∈ ss, Complete s := by
  induction ss with
  | nil => exact fun s hs ↦ absurd hs List.not_mem_nil
  | cons t ss ih =>
    rw [List.cons_append] at h
    have hrest : Complete t ∧ Intact (ss ++ ts) := by
      generalize hrest : ss ++ ts = rest at h
      cases h with
      | last => exact absurd (List.append_eq_nil_iff.1 hrest).2 hts
      | cons ht hrest => exact ⟨ht, hrest⟩
    intro s hs
    rcases List.mem_cons.1 hs with rfl | hs
    · exact hrest.1
    · exact ih hrest.2 s hs

end Intact

theorem groups_ne_nil {α : Type} (x : Bool × α) (xs : List (Bool × α)) : groups (x :: xs) ≠ [] := by
  intro h
  have hflatten := flatten_groups (x :: xs)
  rw [h] at hflatten
  exact List.cons_ne_nil _ _ hflatten.symm

/-- One more item in front is a group of its own or joins the first one. -/
theorem groups_cons_cons {α : Type} {cut : Bool} {b : α} {xs : List (Bool × α)} {g : List α}
    {gs : List (List α)} (h : groups ((cut, b) :: xs) = g :: gs) (first : Bool) (a : α) :
    groups ((first, a) :: (cut, b) :: xs) = if cut then [a] :: g :: gs else (a :: g) :: gs := by
  simp only [groups, h]

theorem intact_groups_from {st : EscapeState} {c : Char} {xs : List (Bool × Char)}
    (h : CutsOutside (st.next c).2 xs) (first : Bool) :
    ∃ g gs, groups ((first, c) :: xs) = g :: gs ∧ (gs ≠ [] → st.after g = .outside) ∧
      Intact gs := by
  induction xs generalizing st c first with
  | nil => exact ⟨[c], [], rfl, fun h ↦ absurd rfl h, .nil⟩
  | cons x xs ih =>
    obtain ⟨cut, d⟩ := x
    obtain ⟨hcut, hrest⟩ := h
    obtain ⟨g, gs, hg, hafter, hgs⟩ := ih hrest cut
    have hgroups := groups_cons_cons hg first c
    cases cut with
    | false => exact ⟨c :: g, gs, hgroups, hafter, hgs⟩
    | true =>
      refine ⟨[c], g :: gs, hgroups, fun _ ↦ hcut rfl, Intact.cons_of_ne_nil (fun hne ↦ ?_) hgs⟩
      rw [Complete, ← hcut rfl]
      exact (hcut rfl).symm ▸ hafter hne

/-- Groups that are cut outside of the escape sequences leave these whole. -/
theorem intact_groups {xs : List (Bool × Char)} (h : CutsOutside .outside xs) :
    Intact (groups xs) := by
  cases xs with
  | nil => exact .nil
  | cons x xs =>
    obtain ⟨first, c⟩ := x
    obtain ⟨g, gs, hg, hafter, hgs⟩ := intact_groups_from h.2 first
    rw [hg]
    exact Intact.cons_of_ne_nil hafter hgs

/-- A text is what its groups are together. -/
theorem flatten_groupsBy {cuts : List Bool} {s : List Char} (h : s.length ≤ cuts.length) :
    (groupsBy cuts s).flatten = s := by
  rw [groupsBy, flatten_groups, List.map_snd_zip h]

theorem trimEnd_append_replicate (c : Char) (s : List Char) :
    trimEnd (· == c) s ++ List.replicate (s.length - (trimEnd (· == c) s).length) c = s := by
  have hsplit := List.takeWhile_append_dropWhile (p := (· == c)) (l := s.reverse)
  have hrun : s.reverse.takeWhile (· == c) =
      List.replicate (s.reverse.takeWhile (· == c)).length c :=
    List.eq_replicate_of_mem fun d hd ↦ by simpa using List.mem_takeWhile_imp hd
  have hlength := congrArg List.length hsplit
  rw [List.length_append, List.length_reverse] at hlength
  have hrest : s.length - (trimEnd (· == c) s).length =
      (s.reverse.takeWhile (· == c)).length := by
    rw [trimEnd, List.length_reverse]
    omega
  rw [hrest, ← List.reverse_replicate, ← hrun, trimEnd, ← List.reverse_append, hsplit,
    List.reverse_reverse]

namespace Word

/-! ## Nothing is lost -/

@[simp] theorem full_ofText (s : List Char) : (ofText s).full = s := trimEnd_append_replicate ' ' s

/-- No character is lost where a text becomes a word. -/
theorem map_full_ofText (ss : List (List Char)) : (ss.map ofText).map full = ss := by
  simp [Function.comp_def]

@[simp] theorem full_empty : empty.full = [] := rfl

theorem length_begins (cut : Bool) (ends : List Bool) (s : List (Char × Bool)) :
    (begins cut ends s).length = s.length := by
  induction s generalizing cut ends with
  | nil => cases ends <;> rfl
  | cons x s ih =>
    obtain ⟨c, shown⟩ := x
    cases shown with
    | false => cases ends <;> exact congrArg Nat.succ (ih ..)
    | true => cases ends <;> exact congrArg Nat.succ (ih ..)

theorem length_hyphenCuts (first second : Option Char) (s : List Char) :
    (hyphenCuts first second s).length = s.length := by
  induction s generalizing first second with
  | nil => rfl
  | cons c s ih => exact congrArg Nat.succ (ih ..)

theorem length_widthCuts (limit used : Nat) (s : List (Char × Bool)) :
    (widthCuts limit used s).length = s.length := by
  induction s generalizing used with
  | nil => rfl
  | cons x s ih =>
    simp only [widthCuts]
    split
    · exact congrArg Nat.succ (ih _)
    · split <;> exact congrArg Nat.succ (ih _)

theorem length_markEscapes (s : List Char) : (markEscapes s).length = s.length := by
  rw [← List.length_map (·.1), map_fst_markEscapes]

theorem map_full_ofParts (blanks : Nat) (ss : List (List Char)) (s : List Char) :
    (ofParts blanks (ss ++ [s])).map full = ss ++ [s ++ List.replicate blanks ' '] := by
  induction ss with
  | nil => rfl
  | cons t ss ih =>
    have hparts : ofParts blanks (t :: (ss ++ [s])) = of t 0 :: ofParts blanks (ss ++ [s]) := by
      cases h : ss ++ [s] with
      | nil => simp at h
      | cons => rfl
    rw [List.cons_append, hparts, List.map_cons, ih]
    simp [full, of]

/-- The parts of a word, without the spaces. -/
theorem map_text_ofParts (blanks : Nat) (ss : List (List Char)) :
    (ofParts blanks ss).map text = ss := by
  induction ss with
  | nil => rfl
  | cons t ss ih =>
    cases ss with
    | nil => rfl
    | cons => rw [ofParts, List.map_cons, ih] <;> simp [of]

/-- A word in parts is the word. -/
theorem flatten_ofParts {w : Word} {ss : List (List Char)} (hne : ss ≠ [])
    (h : ss.flatten = w.text) : ((ofParts w.blanks ss).map full).flatten = w.full := by
  obtain ⟨ss, s, rfl⟩ := ss.eq_nil_or_concat.resolve_left hne
  rw [List.concat_eq_append] at h ⊢
  rw [map_full_ofParts, List.flatten_concat, ← List.append_assoc, ← List.flatten_concat, h, full]

theorem intact_ofParts {blanks : Nat} {ss : List (List Char)} (h : Intact ss) :
    Intact ((ofParts blanks ss).map full) := by
  induction h with
  | nil => exact .nil
  | last s => exact .last _
  | @cons s ss hs hss ih =>
    cases ss with
    | nil => exact .last _
    | cons t ts =>
      rw [ofParts, List.map_cons]
      · refine .cons ?_ ih
        simpa [full, of] using hs
      · exact fun h ↦ nomatch h

theorem groupsBy_ne_nil {cuts : List Bool} {s : List Char} (h : s.length ≤ cuts.length)
    (hs : s ≠ []) : groupsBy cuts s ≠ [] := fun hnil ↦ by
  have hflatten := flatten_groupsBy h
  rw [hnil] at hflatten
  exact hs hflatten.symm

variable (w : Word) (limit : Nat) (line : List Char)

/-- No character is lost where a word is cut at its hyphens. -/
theorem flatten_atHyphens : ((atHyphens w).map full).flatten = w.full := by
  unfold atHyphens
  split
  · simp
  next h =>
    have hlength := Nat.le_of_eq (length_hyphenCuts none none w.text).symm
    exact flatten_ofParts (groupsBy_ne_nil hlength (by simpa using h)) (flatten_groupsBy hlength)

/-- No character is lost where a word is cut to a limit. -/
theorem flatten_within : ((within limit w).map full).flatten = w.full := by
  unfold within
  split
  · simp
  next h =>
    have hlength : w.text.length ≤ (widthCuts limit 0 (markEscapes w.text)).length :=
      Nat.le_of_eq (by rw [length_widthCuts, length_markEscapes])
    have hne : w.text ≠ [] := fun hnil ↦ by
      rw [w.columns_eq, hnil] at h
      exact h (Nat.zero_le _)
    exact flatten_ofParts (groupsBy_ne_nil hlength hne) (flatten_groupsBy hlength)

/-- No character is lost where a line is cut into words. -/
theorem flatten_ofLine : ((ofLine line).map full).flatten = line := by
  have hlength : line.length ≤ (begins false (ends (shown line)) (markEscapes line)).length :=
    Nat.le_of_eq (by rw [length_begins, length_markEscapes])
  rw [ofLine, map_full_ofText, flatten_groupsBy hlength]

theorem flatten_flatMap {f : Word → List Word}
    (hf : ∀ w, ((f w).map full).flatten = w.full) (ws : List Word) :
    ((ws.flatMap f).map full).flatten = (ws.map full).flatten := by
  induction ws with
  | nil => rfl
  | cons w ws ih =>
    rw [List.flatMap_cons, List.map_append, List.flatten_append, hf, ih, List.map_cons,
      List.flatten_cons]

/-- The parts of a line, put together, are the line. -/
theorem flatten_fragments : ((fragments limit line).map full).flatten = line := by
  rw [fragments, flatten_flatMap (flatten_within · limit), flatten_flatMap flatten_atHyphens,
    flatten_ofLine]

/-! ## Escape sequences stay whole -/

/-- No escape sequence of a text holds a hyphen between letters or digits. -/
def HyphensShown (s : List Char) : Prop :=
  ∀ before a b after, s = before ++ a :: '-' :: b :: after → isAlphanumeric a → isAlphanumeric b →
    Complete (before ++ [a, '-'])

theorem hyphensShown_of_esc_notMem {s : List Char} (h : esc ∉ s) : HyphensShown s := by
  rintro before a b after rfl - -
  exact EscapeState.after_of_esc_notMem fun hmem ↦ h (by
    rw [List.append_cons before, List.append_cons _ '-']
    exact List.mem_append_left _ (by simpa using hmem))

theorem HyphensShown.of_append {before s after : List Char} (hbefore : Complete before)
    (h : HyphensShown (before ++ s ++ after)) : HyphensShown s := by
  rintro start a b rest rfl ha hb
  have hcomplete := h (before ++ start) a b (rest ++ after) (by simp) ha hb
  rwa [List.append_assoc, hbefore.append_iff] at hcomplete

/-- Words begin outside of escape sequences. -/
theorem cutsOutside_begins (st : EscapeState) {cut : Bool} (hcut : cut = true → st = .outside)
    (ends : List Bool) (s : List Char) :
    CutsOutside st ((begins cut ends (markFrom st s)).zip s) := by
  induction s generalizing st cut ends with
  | nil => rw [List.zip_nil_right]; trivial
  | cons c s ih =>
    rw [markFrom]
    cases hshown : (st.next c).1 with
    | false =>
      have hbegins : begins cut ends ((c, false) :: markFrom (st.next c).2 s) =
          cut :: begins false ends (markFrom (st.next c).2 s) := by cases ends <;> rfl
      rw [hbegins, List.zip_cons_cons]
      exact ⟨hcut, ih _ (fun h ↦ absurd h Bool.false_ne_true) _⟩
    | true =>
      have hafter := (EscapeState.of_shown hshown).2
      cases ends with
      | nil => exact ⟨hcut, ih _ (fun _ ↦ hafter) _⟩
      | cons e ends => exact ⟨hcut, ih _ (fun _ ↦ hafter) _⟩

/-- The two characters before a place are those at the end of the text so far. -/
theorem cutsOutside_hyphenCuts {before rest : List Char} (h : HyphensShown (before ++ rest)) :
    CutsOutside (EscapeState.outside.after before)
      ((hyphenCuts before.dropLast.getLast? before.getLast? rest).zip rest) := by
  induction rest generalizing before with
  | nil => trivial
  | cons c rest ih =>
    refine ⟨fun hcut ↦ ?_, ?_⟩
    · simp only [Bool.and_eq_true, beq_iff_eq, Option.any_eq_true] at hcut
      obtain ⟨⟨hhyphen, a, hlast, ha⟩, hc⟩ := hcut
      obtain ⟨start, rfl⟩ := List.getLast?_eq_some_iff.1 hhyphen
      rw [List.dropLast_concat] at hlast
      obtain ⟨start, rfl⟩ := List.getLast?_eq_some_iff.1 hlast
      have hcomplete := h start a c rest (by simp) ha hc
      rwa [Complete, List.append_cons start] at hcomplete
    · have hline : HyphensShown ((before ++ [c]) ++ rest) := by simpa using h
      have hnext := ih hline
      rwa [List.dropLast_concat, List.getLast?_concat, EscapeState.after_append] at hnext

/-- What becomes of the columns in use at one character, and whether a part begins there. -/
theorem widthCuts_cons {limit used : Nat} (hlimit : 3 ≤ limit) (hused : used ≤ limit) (c : Char)
    (shown : Bool) (s : List (Char × Bool)) :
    ∃ cut start, widthCuts limit used ((c, shown) :: s) =
        cut :: widthCuts limit (start + if shown then charWidth c else 0) s ∧
      (cut = true → shown = true ∧ start = 0) ∧ (cut = false → start = used) ∧
      start + (if shown then charWidth c else 0) ≤ limit := by
  have hc := charWidth_le c
  cases shown with
  | false => exact ⟨false, used, rfl, fun h ↦ (nomatch h), fun _ ↦ rfl, hused⟩
  | true =>
    by_cases hcut : 0 < used ∧ limit < used + charWidth c
    · refine ⟨true, 0, ?_, fun _ ↦ ⟨rfl, rfl⟩, fun h ↦ (nomatch h), ?_⟩
      · simp [widthCuts, hcut]
      · simp only [if_true]
        omega
    · refine ⟨false, used, ?_, fun h ↦ (nomatch h), fun _ ↦ rfl, ?_⟩
      · simp [widthCuts, hcut]
      · simp only [if_true]
        omega

/-- A word is not cut to a limit inside of an escape sequence. -/
theorem cutsOutside_widthCuts {limit used : Nat} (hlimit : 3 ≤ limit) (hused : used ≤ limit)
    (st : EscapeState) (s : List Char) :
    CutsOutside st ((widthCuts limit used (markFrom st s)).zip s) := by
  induction s generalizing st used with
  | nil => trivial
  | cons c s ih =>
    obtain ⟨cut, start, hcuts, hcut, -, hle⟩ :=
      widthCuts_cons hlimit hused c (st.next c).1 (markFrom (st.next c).2 s)
    rw [markFrom, hcuts]
    exact ⟨fun h ↦ (EscapeState.of_shown (hcut h).1).1, ih hle _⟩

theorem intact_ofLine : Intact ((ofLine line).map full) := by
  rw [ofLine, map_full_ofText]
  exact intact_groups (cutsOutside_begins _ (fun h ↦ absurd h Bool.false_ne_true) _ _)

variable {w limit line}

/-- A word is cut at its hyphens outside of escape sequences, if those hold no hyphens. -/
theorem intact_atHyphens (h : HyphensShown w.text) : Intact ((atHyphens w).map full) := by
  unfold atHyphens
  split
  · exact .last _
  · exact intact_ofParts (intact_groups (@cutsOutside_hyphenCuts [] w.text h))

theorem intact_within (hlimit : 3 ≤ limit) : Intact ((within limit w).map full) := by
  unfold within
  split
  · exact .last _
  · exact intact_ofParts
      (intact_groups (cutsOutside_widthCuts hlimit (Nat.zero_le _) .outside w.text))

theorem intact_flatMap {f : Word → List Word}
    (hflatten : ∀ w, ((f w).map full).flatten = w.full) {ws : List Word}
    (hws : Intact (ws.map full)) (hf : ∀ w ∈ ws, Intact ((f w).map full)) :
    Intact ((ws.flatMap f).map full) := by
  induction ws with
  | nil => exact .nil
  | cons w ws ih =>
    rw [List.flatMap_cons, List.map_append]
    have hw := hf w List.mem_cons_self
    have hrest (h : Intact (ws.map full)) := ih h fun v hv ↦ hf v (List.mem_cons_of_mem w hv)
    cases ws with
    | nil => simpa using hw
    | cons v ws =>
      cases hws with
      | cons hcomplete hws => exact hw.append ((hflatten w).symm ▸ hcomplete) (hrest hws)

/-- The parts of a line hold whole escape sequences, if hyphens between letters or digits are shown.
-/
theorem intact_fragments (hlimit : 3 ≤ limit) (h : HyphensShown line) :
    Intact ((fragments limit line).map full) := by
  have hhyphens : ∀ w ∈ ofLine line, HyphensShown w.text := fun w hw ↦ by
    obtain ⟨before, after, hline, hbefore⟩ :=
      (intact_ofLine line).exists_before (List.mem_map_of_mem hw)
    rw [flatten_ofLine, full, ← List.append_assoc, List.append_assoc] at hline
    exact HyphensShown.of_append hbefore (hline ▸ h)
  exact intact_flatMap (flatten_within · limit)
    (intact_flatMap flatten_atHyphens (intact_ofLine line)
      fun w hw ↦ intact_atHyphens (hhyphens w hw))
    fun w _ ↦ intact_within hlimit

/-! ## Every part fits -/

theorem widthFrom_groups_le (hlimit : 3 ≤ limit) (st : EscapeState) (c : Char) {start : Nat}
    (hstart : start + (if (st.next c).1 then charWidth c else 0) ≤ limit) (first : Bool)
    (s : List Char) :
    ∃ g gs, groups ((first, c) ::
        (widthCuts limit (start + if (st.next c).1 then charWidth c else 0)
          (markFrom (st.next c).2 s)).zip s) = g :: gs ∧
      start + widthFrom st g ≤ limit ∧ ∀ s ∈ gs, width s ≤ limit := by
  induction s generalizing st c start first with
  | nil =>
    exact ⟨[c], [], rfl, hstart, fun s hs ↦ absurd hs List.not_mem_nil⟩
  | cons d s ih =>
    obtain ⟨cut, start', hcuts, hcut, hgoes, hle⟩ := widthCuts_cons hlimit hstart d
      ((st.next c).2.next d).1 (markFrom ((st.next c).2.next d).2 s)
    obtain ⟨g, gs, hg, hfirst, hgs⟩ := ih (st.next c).2 d hle cut
    rw [markFrom, hcuts, List.zip_cons_cons]
    have hgroups := groups_cons_cons hg first c
    cases cut with
    | false =>
      refine ⟨c :: g, gs, hgroups, ?_, hgs⟩
      rw [hgoes rfl] at hfirst
      rw [widthFrom_cons, ← Nat.add_assoc]
      exact hfirst
    | true =>
      obtain ⟨hshown, rfl⟩ := hcut rfl
      refine ⟨[c], g :: gs, hgroups, hstart, fun s hs ↦ ?_⟩
      rcases List.mem_cons.1 hs with rfl | hs
      · rw [(EscapeState.of_shown hshown).1, Nat.zero_add] at hfirst
        exact hfirst
      · exact hgs s hs

/-- The parts of a word that is cut to a limit fit into it. -/
theorem columns_le_of_mem_within (hlimit : 3 ≤ limit) {v : Word} (hv : v ∈ within limit w) :
    v.columns ≤ limit := by
  unfold within at hv
  split at hv
  next h => exact List.mem_singleton.1 hv ▸ h
  next h =>
    have htext : v.text ∈ groupsBy (widthCuts limit 0 (markEscapes w.text)) w.text := by
      rw [← map_text_ofParts w.blanks (groupsBy _ _)]
      exact List.mem_map_of_mem hv
    rw [v.columns_eq]
    cases hw : w.text with
    | nil =>
      rw [hw] at htext
      exact absurd htext List.not_mem_nil
    | cons c s =>
      obtain ⟨cut, start, hcuts, -, -, hle⟩ := widthCuts_cons hlimit (Nat.zero_le limit) c
        (EscapeState.outside.next c).1 (markFrom (EscapeState.outside.next c).2 s)
      obtain ⟨g, gs, hg, hfirst, hgs⟩ := widthFrom_groups_le hlimit .outside c hle cut s
      rw [hw, groupsBy, markEscapes, markFrom, hcuts, List.zip_cons_cons, hg] at htext
      rcases List.mem_cons.1 htext with h | h
      · rw [h, width_eq_widthFrom]
        omega
      · exact hgs _ h

/-- No part of a line is wider than the lines it is cut for. -/
theorem columns_le_of_mem_fragments (hlimit : 3 ≤ limit) (hw : w ∈ fragments limit line) :
    w.columns ≤ limit := by
  obtain ⟨v, -, hv⟩ := List.mem_flatMap.1 hw
  exact columns_le_of_mem_within hlimit hv

/-- A word without an open escape sequence, with the spaces after it. -/
theorem width_full (h : Complete w.text) :
    width w.full = w.columns + w.blanks ∧ Complete w.full := by
  obtain ⟨hwidth, hcomplete⟩ := width_of_plain (s := List.replicate w.blanks ' ')
    fun c hc ↦ List.eq_of_mem_replicate hc ▸ ⟨by decide, rfl⟩
  rw [full, width_append h, hwidth, List.length_replicate, w.columns_eq]
  exact ⟨rfl, h.append_iff.2 hcomplete⟩

/-- The spaces after a word may stand in an escape sequence. -/
theorem width_full_le (w : Word) : width w.full ≤ w.columns + w.blanks := by
  rw [full, width_eq_widthFrom, widthFrom_append, w.columns_eq]
  exact Nat.add_le_add_left (widthFrom_blanks_le ..) _

end Word

end JobWatch.Text

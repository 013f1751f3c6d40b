import JobWatch.Proofs.Text.Layout
import JobWatch.Proofs.Text.Words
import JobWatch.Text.Wrap

/-!
# A text that is wrapped

Wrapping drops nothing but spaces (`dense_wrap`): a line of words is printed without the spaces at
its end, and the words of all lines are the text.

How far a printed line is too long is what its layout allows (`overflow_of_mem_wrapLine`), as long
as the columns of its words add up.
-/

namespace JobWatch.Text

/-! ## Lines of words -/

theorem lineText_cons_cons (w v : Word) (l : List Word) :
    lineText (w :: v :: l) = w.full ++ lineText (v :: l) := rfl

/-- Only the spaces at the end of a line are dropped. -/
theorem lineText_append_blanks (l : List Word) :
    lineText l ++ List.replicate (endBlanks l) ' ' = (l.map Word.full).flatten := by
  induction l with
  | nil => rfl
  | cons w l ih =>
    cases l with
    | nil => simp [lineText, endBlanks, Word.full]
    | cons v l =>
      have hend : endBlanks (w :: v :: l) = endBlanks (v :: l) := rfl
      rw [lineText_cons_cons, hend, List.append_assoc, ih]
      rfl

theorem lineColumns_cons_cons (w v : Word) (l : List Word) :
    lineColumns (w :: v :: l) = w.columns + w.blanks + lineColumns (v :: l) := by
  rw [← fullColumns_singleton]
  exact lineColumns_append [w] (List.cons_ne_nil v l)

/-- A line has no more columns than are counted, if no escape sequence is open between its words. -/
theorem width_lineText_le {l : List Word} (h : ∀ w ∈ l.dropLast, Complete w.full) :
    width (lineText l) ≤ lineColumns l := by
  induction l with
  | nil => exact Nat.zero_le _
  | cons w l ih =>
    cases l with
    | nil => exact Nat.le_of_eq (w.columns_eq.symm.trans (lineColumns_singleton w).symm)
    | cons v l =>
      rw [List.dropLast_cons_cons] at h
      have hrest := ih fun u hu ↦ h u (List.mem_cons_of_mem w hu)
      rw [lineText_cons_cons, lineColumns_cons_cons, width_append (h w List.mem_cons_self)]
      exact Nat.add_le_add w.width_full_le hrest

/-- A line has the columns that are counted, if it holds no escape sequence. -/
theorem width_lineText {l : List Word} (h : ∀ w ∈ l, Complete w.text) :
    width (lineText l) = lineColumns l := by
  induction l with
  | nil => rfl
  | cons w l ih =>
    cases l with
    | nil => exact w.columns_eq.symm.trans (lineColumns_singleton w).symm
    | cons v l =>
      obtain ⟨hwidth, hcomplete⟩ := w.width_full (h w List.mem_cons_self)
      rw [lineText_cons_cons, lineColumns_cons_cons, width_append hcomplete, hwidth,
        ih fun u hu ↦ h u (List.mem_cons_of_mem w hu)]

/-! ## One line wrapped -/

/-- A text without its spaces and line feeds. -/
def dense (s : List Char) : List Char := s.filter fun c ↦ c ≠ ' ' && c ≠ '\n'

@[simp] theorem dense_append (a b : List Char) : dense (a ++ b) = dense a ++ dense b :=
  List.filter_append ..

@[simp] theorem dense_blanks (n : Nat) : dense (List.replicate n ' ') = [] := by
  simp [dense]

theorem dense_flatten (ls : List (List Char)) : dense ls.flatten = (ls.map dense).flatten :=
  List.filter_flatten

theorem dense_lineText (l : List Word) : dense (lineText l) = dense (l.map Word.full).flatten := by
  rw [← lineText_append_blanks, dense_append, dense_blanks, List.append_nil]

section Line

variable {limit : Nat} {line : List Char}

variable (limit line) in
/-- The layout of a line is a cut of its words. -/
theorem cutOf_words : CutOf (.empty :: Word.fragments limit line)
    (layout limit (.empty :: Word.fragments limit line)) :=
  (layout_optimal (List.cons_ne_nil _ _)).1

variable (limit line) in
/-- Every line, an empty one too, is wrapped to at least one. -/
theorem wrapLine_ne_nil : wrapLine limit line ≠ [] := by
  obtain ⟨before, l, hlayout, -⟩ := (cutOf_words limit line).exists_last List.mem_cons_self
  simp [wrapLine, hlayout]

variable (limit line) in
theorem flatten_words : (((layout limit (.empty :: Word.fragments limit line)).map
    fun l ↦ (l.map Word.full).flatten).flatten) = line := by
  have hwords := (cutOf_words limit line).flatten_eq
  calc ((layout limit (.empty :: Word.fragments limit line)).map
      fun l ↦ (l.map Word.full).flatten).flatten
    _ = ((layout limit (.empty :: Word.fragments limit line)).flatten.map Word.full).flatten := by
      rw [List.map_flatten, List.flatten_flatten, List.map_map, Function.comp_def]
    _ = ((Word.fragments limit line).map Word.full).flatten := by
      rw [hwords, List.map_cons, List.flatten_cons, Word.full_empty, List.nil_append]
    _ = line := Word.flatten_fragments limit line

variable (limit line) in
/-- Wrapping a line drops nothing but spaces. -/
theorem dense_wrapLine : dense (wrapLine limit line).flatten = dense line := by
  rw [wrapLine, dense_flatten, List.map_map]
  conv_rhs => rw [← flatten_words limit line, dense_flatten, List.map_map]
  exact congrArg List.flatten (List.map_congr_left fun l _ ↦ dense_lineText l)

/-- Wrapping brings in no character. -/
theorem mem_line_of_mem_wrapLine {s : List Char} (hs : s ∈ wrapLine limit line) {c : Char}
    (hc : c ∈ s) : c ∈ line := by
  obtain ⟨l, hl, rfl⟩ := List.mem_map.1 hs
  rw [← flatten_words limit line]
  refine List.mem_flatten_of_mem (List.mem_map_of_mem hl) ?_
  rw [← lineText_append_blanks]
  exact List.mem_append_left _ hc

variable (hlimit : 5 ≤ limit) (hline : Word.HyphensShown line) {s : List Char}
  (hs : s ∈ wrapLine limit line)

include hlimit

/-- Every part of a line fits into the limit by itself. -/
theorem words_fit : ∀ w ∈ Word.empty :: Word.fragments limit line, w.columns ≤ limit := by
  intro w hw
  rcases List.mem_cons.1 hw with rfl | hw
  · exact Nat.zero_le _
  · exact Word.columns_le_of_mem_fragments (by omega) hw

include hline hs

/-- A printed line is one of the layout and has no more columns. -/
theorem exists_line_of_mem_wrapLine :
    ∃ l ∈ layout limit (.empty :: Word.fragments limit line), width s ≤ lineColumns l := by
  obtain ⟨l, hl, rfl⟩ := List.mem_map.1 hs
  refine ⟨l, hl, width_lineText_le fun w hw ↦ ?_⟩
  obtain ⟨before, after, hlayout⟩ := List.append_of_mem hl
  have hcut := cutOf_words limit line
  rw [hlayout] at hcut
  have hne : l ≠ [] := hcut.ne_nil l (by simp)
  have hwords : (before.flatten ++ l.dropLast) ++ (l.getLast hne :: after.flatten) =
      .empty :: Word.fragments limit line := by
    rw [← hcut.flatten_eq, List.flatten_append, List.flatten_cons, List.append_assoc,
      ← List.singleton_append, ← List.append_assoc l.dropLast, List.dropLast_concat_getLast]
  have hintact : Intact ((Word.empty :: Word.fragments limit line).map Word.full) :=
    .cons complete_nil (Word.intact_fragments (by omega) hline)
  rw [← hwords, List.map_append] at hintact
  exact hintact.complete_of_append (by simp) _
    (List.mem_map_of_mem (List.mem_append_right _ hw))

/-- By how much a printed line may be too long. -/
theorem overflow_of_mem_wrapLine : 2500 * (width s - limit) ≤ 2000 + 2 * (limit * limit) := by
  obtain ⟨l, hl, hle⟩ := exists_line_of_mem_wrapLine hlimit hline hs
  have hover := overflow_le hlimit (List.cons_ne_nil _ _) (words_fit hlimit) hl
  omega

/-- Up to a limit of twenty-seven columns no wrapped line is too wide. -/
theorem width_le_of_mem_wrapLine (hnarrow : limit ≤ 27) : width s ≤ limit := by
  obtain ⟨l, hl, hle⟩ := exists_line_of_mem_wrapLine hlimit hline hs
  exact Nat.le_trans hle
    (lineColumns_le_of_narrow hlimit hnarrow (List.cons_ne_nil _ _) (words_fit hlimit) hl)

end Line

/-! ## Lines joined by line feeds -/

/-- A text up to its first line feed is its first line. -/
theorem lines_append_newline {a : List Char} (ha : '\n' ∉ a) (s : List Char) :
    lines (a ++ '\n' :: s) = a :: lines s := by
  induction a with
  | nil => rfl
  | cons c a ih =>
    have hc : c ≠ '\n' := fun hc ↦ ha (hc ▸ List.mem_cons_self)
    rw [List.cons_append, lines, if_neg hc, ih fun h ↦ ha (List.mem_cons_of_mem c h)]

theorem lines_of_notMem {a : List Char} (ha : '\n' ∉ a) : lines a = [a] := by
  induction a with
  | nil => rfl
  | cons c a ih =>
    have hc : c ≠ '\n' := fun hc ↦ ha (hc ▸ List.mem_cons_self)
    rw [lines, if_neg hc, ih fun h ↦ ha (List.mem_cons_of_mem c h)]

/-- Lines that are joined by line feeds are read back. -/
theorem lines_intercalate {l : List Char} {ls : List (List Char)}
    (h : ∀ m ∈ l :: ls, '\n' ∉ m) : lines (['\n'].intercalate (l :: ls)) = l :: ls := by
  induction ls generalizing l with
  | nil => rw [List.intercalate_singleton, lines_of_notMem (h l List.mem_cons_self)]
  | cons m ls ih =>
    rw [List.intercalate_cons_cons, List.append_assoc, List.singleton_append,
      lines_append_newline (h l List.mem_cons_self), ih fun k hk ↦ h k (List.mem_cons_of_mem l hk)]

theorem newline_notMem_of_mem_lines {s l : List Char} (h : l ∈ lines s) : '\n' ∉ l := by
  induction s generalizing l with
  | nil => exact List.mem_singleton.1 h ▸ List.not_mem_nil
  | cons c s ih =>
    rw [lines] at h
    split at h
    · rcases List.mem_cons.1 h with rfl | h
      · exact List.not_mem_nil
      · exact ih h
    next hc =>
      split at h
      next hnil => exact absurd hnil (lines_ne_nil s)
      next m ms hlines =>
        have hm (k : List Char) (hk : k ∈ m :: ms) : '\n' ∉ k := ih (hlines ▸ hk)
        rcases List.mem_cons.1 h with rfl | h
        · rw [List.mem_cons, not_or]
          exact ⟨fun h ↦ hc h.symm, hm m List.mem_cons_self⟩
        · exact hm l (List.mem_cons_of_mem m h)

theorem dense_intercalate (ls : List (List Char)) :
    dense (['\n'].intercalate ls) = (ls.map dense).flatten := by
  induction ls with
  | nil => rfl
  | cons l ls ih =>
    cases ls with
    | nil => simp
    | cons m ls =>
      have hnewline : dense ['\n'] = [] := rfl
      rw [List.intercalate_cons_cons, dense_append, dense_append, ih, hnewline, List.append_nil]
      rfl

variable (columns indent : Nat) (s : List Char)

/-- Wrapping a text drops nothing but spaces, and adds nothing but spaces and line feeds. -/
theorem dense_wrap : dense (['\n'].intercalate (wrap columns indent s)) = dense s := by
  have hindent (l : List Char) : dense (List.replicate indent ' ' ++ l) = dense l := by
    rw [dense_append, dense_blanks, List.nil_append]
  calc dense (['\n'].intercalate (wrap columns indent s))
    _ = dense ((lines s).flatMap (wrapLine (columns - indent))).flatten := by
      rw [dense_intercalate, wrap, List.map_map, dense_flatten]
      exact congrArg List.flatten (List.map_congr_left fun l _ ↦ hindent l)
    _ = ((lines s).map dense).flatten := by
      rw [List.flatMap, List.flatten_flatten, dense_flatten, List.map_map, List.map_map]
      exact congrArg List.flatten (List.map_congr_left fun l _ ↦ dense_wrapLine _ l)
    _ = dense s := by rw [← dense_intercalate, intercalate_lines]

end JobWatch.Text

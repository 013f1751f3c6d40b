import JobWatch.Display.LogLine
import JobWatch.Proofs.Text.Decimal
import JobWatch.Proofs.Text.Overlong

/-!
# A printed log line

Without colours a log line is its time, a space and the wrapped text, and the lines after the first
are indented under the text (`exists_wrapped`). So the printed text is complete
(`logLine_keeps_text`), and its lines are nine columns wider than those the text is wrapped into
(`map_width_lines_logLine`).

The lines fit a terminal of up to 36 columns, whatever the text. On every wider one some text is
printed on a line that is too long, because that is the cheaper layout (`logLine_fits`).
-/

namespace JobWatch

open Text

/-! ## The time of day -/

namespace Timestamp

variable (t : Timestamp)

/-- A time of day is written in three fields of two digits: the hour, the minute and the second,
which is counted on to 60 in a leap second. -/
theorem clockText_fields : ∃ h m s, t.clockText = h ++ ':' :: m ++ ':' :: s ∧
    (∀ field ∈ [h, m, s], field.length = 2 ∧ field.all Decimal.isDigit) ∧
    Decimal.ofDigits 0 h < 24 ∧ Decimal.ofDigits 0 m < 60 ∧
    (Decimal.ofDigits 0 s < 60 ∨ Decimal.ofDigits 0 s = 60 ∧ 1000000000 ≤ t.nano) ∧
    Decimal.ofDigits 0 h * 3600 + Decimal.ofDigits 0 m * 60 + Decimal.ofDigits 0 s =
      t.second + t.nano / 1000000000 := by
  have htwo {n : Nat} (hn : n < 100) :
      (Decimal.padded 2 n).length = 2 ∧ (Decimal.padded 2 n).all Decimal.isDigit :=
    ⟨Decimal.length_padded (Decimal.length_digits_le hn), Decimal.all_isDigit_padded 2 n⟩
  have hsecond := t.second_lt
  have hnano := t.nano_lt
  refine ⟨_, _, _, rfl, fun field hfield ↦ ?_, ?_⟩
  · simp only [List.mem_cons, List.not_mem_nil, or_false] at hfield
    rcases hfield with rfl | rfl | rfl
    · exact htwo (by omega)
    · exact htwo (by omega)
    · exact htwo (by omega)
  · simp only [Decimal.ofDigits_padded]
    omega

/-- The time of day takes eight columns, also in a leap second. -/
theorem length_clockText : t.clockText.length = 8 := by
  obtain ⟨h, m, s, htext, hfields, -⟩ := t.clockText_fields
  simp only [List.forall_mem_cons] at hfields
  obtain ⟨⟨hh, -⟩, ⟨hm, -⟩, ⟨hs, -⟩, -⟩ := hfields
  simp only [htext, List.length_append, List.length_cons, hh, hm, hs]

/-- The time of day is written in digits and colons. -/
theorem mem_clockText {c : Char} (hc : c ∈ t.clockText) : Decimal.isDigit c ∨ c = ':' := by
  obtain ⟨h, m, s, htext, hfields, -⟩ := t.clockText_fields
  have hdigit (field : List Char) (hfield : field ∈ [h, m, s]) (hc : c ∈ field) :
      Decimal.isDigit c := List.all_eq_true.1 (hfields field hfield).2 c hc
  rw [htext, List.mem_append, List.mem_append, List.mem_cons, List.mem_cons] at hc
  rcases hc with (hc | hc | hc) | hc | hc
  · exact .inl (hdigit h (by simp) hc)
  · exact .inr hc
  · exact .inl (hdigit m (by simp) hc)
  · exact .inr hc
  · exact .inl (hdigit s (by simp) hc)

/-- No character of the time of day begins an escape sequence, and each takes one column. -/
theorem clockText_plain : ∀ c ∈ t.clockText, c ≠ esc ∧ charWidth c = 1 := by
  intro c hc
  have hrange : 48 ≤ c.toNat ∧ c.toNat ≤ 58 := by
    rcases t.mem_clockText hc with h | rfl
    · simp only [Decimal.isDigit, Bool.and_eq_true, decide_eq_true_eq] at h
      have hlow : 48 ≤ c.toNat := h.1
      have hhigh : c.toNat ≤ 57 := h.2
      omega
    · decide
  refine ⟨?_, ?_⟩
  · rintro rfl
    exact absurd hrange.1 (by decide)
  · have hcontrol : isControl c = false := by
      simp only [isControl, Bool.or_eq_false_iff, Bool.and_eq_false_iff, decide_eq_false_iff_not]
      omega
    simp only [charWidth, hcontrol, Bool.false_eq_true, if_false]
    rw [if_pos (by omega)]

theorem newline_notMem_clockText : '\n' ∉ t.clockText := fun h ↦ by
  rcases t.mem_clockText h with h | h
  · exact absurd h (by decide)
  · exact absurd h (by decide)

end Timestamp

namespace Display

/-- What is printed of a log line after its time. -/
def markedText (p : Palette) (l : LogLine) : List Char :=
  (marker p l.source).toList ++ l.text.toList

/-- The columns that the text of a log line is wrapped for. -/
def textColumns (columns : Nat) : Nat := max columns leastColumns - timeColumns

/-- What stands in front of a line under the text. -/
def indent : List Char := List.replicate timeColumns ' '

theorem intercalate_append_head (sep a b : List Char) (ls : List (List Char)) :
    sep.intercalate ((a ++ b) :: ls) = a ++ sep.intercalate (b :: ls) := by
  cases ls with
  | nil => simp
  | cons l ls => simp [List.intercalate_cons_cons]

section Wrapped

variable (p : Palette) (columns : Nat) (l : LogLine)

/-- The wrapped text: its first line, and the others under it. -/
theorem exists_wrapped :
    ∃ first rest,
      (lines (markedText p l)).flatMap (wrapLine (textColumns columns)) = first :: rest ∧
      logBody p columns l = ['\n'].intercalate (first :: rest.map (indent ++ ·)) := by
  cases hwrapped : (lines (markedText p l)).flatMap (wrapLine (textColumns columns)) with
  | nil =>
    obtain ⟨line, ls, hlines⟩ := List.exists_cons_of_ne_nil (lines_ne_nil (markedText p l))
    rw [hlines, List.flatMap_cons] at hwrapped
    exact absurd (List.append_eq_nil_iff.1 hwrapped).1 (wrapLine_ne_nil _ line)
  | cons first rest =>
    have hwrap : wrap (max columns leastColumns) timeColumns
        ((marker p l.source).toList ++ l.text.toList) = (first :: rest).map (indent ++ ·) :=
      congrArg (List.map (indent ++ ·)) hwrapped
    refine ⟨first, rest, rfl, ?_⟩
    rw [logBody, hwrap, List.map_cons, intercalate_append_head]
    exact List.drop_left' List.length_replicate

theorem newline_notMem_wrapped {s : List Char}
    (hs : s ∈ (lines (markedText p l)).flatMap (wrapLine (textColumns columns))) : '\n' ∉ s := by
  obtain ⟨line, hline, hs⟩ := List.mem_flatMap.1 hs
  exact fun h ↦ newline_notMem_of_mem_lines hline (mem_line_of_mem_wrapLine hs h)

end Wrapped

section Plain

variable (pictured : Bool) (columns : Nat) (l : LogLine)

/-- Without colours a log line is its time, a space, and the marked text as it is laid out. -/
theorem toList_logLine : (logLine ⟨false, pictured⟩ columns l).toList =
    l.timestamp.clockText ++ ' ' :: logBody ⟨false, pictured⟩ columns l := by
  have hpaint (styles : List Style) (s : String) :
      Palette.paint ⟨false, pictured⟩ styles s = s := rfl
  simp [logLine, hpaint]

/-- The printed lines: the time stands in front of the first, the indent in front of the others. -/
theorem lines_logLine {first : List Char} {rest : List (List Char)}
    (h : (lines (markedText ⟨false, pictured⟩ l)).flatMap (wrapLine (textColumns columns)) =
      first :: rest)
    (hbody : logBody ⟨false, pictured⟩ columns l =
      ['\n'].intercalate (first :: rest.map (indent ++ ·))) :
    lines (logLine ⟨false, pictured⟩ columns l).toList =
      ((l.timestamp.clockText ++ [' ']) ++ first) :: rest.map (indent ++ ·) := by
  have hnewline : ∀ s ∈ first :: rest, '\n' ∉ s := fun s hs ↦
    newline_notMem_wrapped _ columns l (h ▸ hs)
  rw [toList_logLine, hbody, List.append_cons, ← intercalate_append_head]
  refine lines_intercalate fun s hs ↦ ?_
  rcases List.mem_cons.1 hs with rfl | hs
  · simp only [List.mem_append, List.mem_singleton, not_or]
    exact ⟨⟨l.timestamp.newline_notMem_clockText, by decide⟩, hnewline first List.mem_cons_self⟩
  · obtain ⟨m, hm, rfl⟩ := List.mem_map.1 hs
    rw [List.mem_append, not_or]
    exact ⟨by decide, hnewline m (List.mem_cons_of_mem first hm)⟩

/-- Each printed line is nine columns wider than what is printed of the text on it. -/
theorem map_width_lines_logLine :
    (lines (logLine ⟨false, pictured⟩ columns l).toList).map width =
      ((lines (markedText ⟨false, pictured⟩ l)).flatMap (wrapLine (textColumns columns))).map
        fun s ↦ timeColumns + width s := by
  obtain ⟨first, rest, hwrapped, hbody⟩ := exists_wrapped ⟨false, pictured⟩ columns l
  have hfront {front : List Char} (hplain : ∀ c ∈ front, c ≠ esc ∧ charWidth c = 1)
      (hlength : front.length = timeColumns) (s : List Char) :
      width (front ++ s) = timeColumns + width s := by
    obtain ⟨hwidth, hcomplete⟩ := width_of_plain hplain
    rw [width_append hcomplete, hwidth, hlength]
  have hblank : ' ' ≠ esc ∧ charWidth ' ' = 1 := ⟨by decide, rfl⟩
  have htime : ∀ c ∈ l.timestamp.clockText ++ [' '], c ≠ esc ∧ charWidth c = 1 := fun c hc ↦ by
    rcases List.mem_append.1 hc with hc | hc
    · exact l.timestamp.clockText_plain c hc
    · exact List.mem_singleton.1 hc ▸ hblank
  have hindent : ∀ c ∈ indent, c ≠ esc ∧ charWidth c = 1 := fun c hc ↦
    List.eq_of_mem_replicate hc ▸ hblank
  rw [lines_logLine pictured columns l hwrapped hbody, hwrapped, List.map_cons, List.map_cons,
    List.map_map, hfront htime (by simp [l.timestamp.length_clockText, timeColumns])]
  exact congrArg _ (List.map_congr_left fun s _ ↦ hfront hindent List.length_replicate s)

/-- What is printed of a log line after its time: the sign of the system if the line comes from it,
and the text. -/
theorem markedText_eq : markedText ⟨false, pictured⟩ l =
    (if l.source = .system then (if pictured then "⚙️  " else "[sys]") else "").toList ++
      l.text.toList := by
  rw [markedText]
  cases l.source <;> cases pictured <;> rfl

/-- Printing loses no text: after the time of day, as `HH:MM:SS`, and a space everything is printed
that is neither a space nor a line feed, in its order and nothing else, and the lines after the
first are indented under the text. What is printed is the text of the line, after the sign of the
system if the line comes from it. -/
theorem logLine_keeps_text :
    (∃ h m s, l.timestamp.clockText = h ++ ':' :: m ++ ':' :: s ∧
      (∀ field ∈ [h, m, s], field.length = 2 ∧ field.all Decimal.isDigit) ∧
      Decimal.ofDigits 0 h < 24 ∧ Decimal.ofDigits 0 m < 60 ∧
      (Decimal.ofDigits 0 s < 60 ∨ Decimal.ofDigits 0 s = 60 ∧ 1000000000 ≤ l.timestamp.nano) ∧
      Decimal.ofDigits 0 h * 3600 + Decimal.ofDigits 0 m * 60 + Decimal.ofDigits 0 s =
        l.timestamp.second + l.timestamp.nano / 1000000000) ∧
    (∃ body, (logLine ⟨false, pictured⟩ columns l).toList =
        l.timestamp.clockText ++ ' ' :: body ∧
      dense body = dense (markedText ⟨false, pictured⟩ l)) ∧
    markedText ⟨false, pictured⟩ l =
      (if l.source = .system then (if pictured then "⚙️  " else "[sys]") else "").toList ++
        l.text.toList ∧
    ∀ s ∈ (lines (logLine ⟨false, pictured⟩ columns l).toList).tail,
      List.replicate 9 ' ' <+: s := by
  obtain ⟨first, rest, hwrapped, hbody⟩ := exists_wrapped ⟨false, pictured⟩ columns l
  refine ⟨l.timestamp.clockText_fields, ⟨_, toList_logLine pictured columns l, ?_⟩,
    markedText_eq pictured l, fun s hs ↦ ?_⟩
  · have hwrap : ['\n'].intercalate (wrap (max columns leastColumns) timeColumns
        (markedText ⟨false, pictured⟩ l)) = indent ++ logBody ⟨false, pictured⟩ columns l := by
      rw [hbody, ← intercalate_append_head]
      exact congrArg (fun ls ↦ ['\n'].intercalate (ls.map (indent ++ ·))) hwrapped
    have hdense := dense_wrap (max columns leastColumns) timeColumns
      (markedText ⟨false, pictured⟩ l)
    rwa [hwrap, dense_append, indent, dense_blanks, List.nil_append] at hdense
  · rw [lines_logLine pictured columns l hwrapped hbody, List.tail_cons] at hs
    obtain ⟨s, -, rfl⟩ := List.mem_map.1 hs
    exact List.prefix_append indent s

/-! ## How wide the lines are -/

/-- Each printed line is as wide as the columns of the time and a wrapped line. -/
theorem width_of_mem_lines_logLine {s : List Char}
    (hs : s ∈ lines (logLine ⟨false, pictured⟩ columns l).toList) :
    ∃ line ∈ lines (markedText ⟨false, pictured⟩ l), ∃ m ∈ wrapLine (textColumns columns) line,
      width s = timeColumns + width m := by
  have hwidth := List.mem_map_of_mem (f := width) hs
  rw [map_width_lines_logLine] at hwidth
  obtain ⟨m, hm, hwidth⟩ := List.mem_map.1 hwidth
  obtain ⟨line, hline, hm⟩ := List.mem_flatMap.1 hm
  exact ⟨line, hline, m, hm, hwidth.symm⟩

/-- Each wrapped line is printed, behind as many columns as the time takes. -/
theorem exists_width_of_mem_wrapLine {line m : List Char}
    (hline : line ∈ lines (markedText ⟨false, pictured⟩ l))
    (hm : m ∈ wrapLine (textColumns columns) line) :
    ∃ s ∈ lines (logLine ⟨false, pictured⟩ columns l).toList, width s = timeColumns + width m := by
  have hwidth := List.mem_map_of_mem (f := fun s ↦ timeColumns + width s)
    (List.mem_flatMap_of_mem hline hm)
  rw [← map_width_lines_logLine] at hwidth
  exact List.mem_map.1 hwidth

/-- A line of bells, and between them one space more than fits on a line. -/
def bellLine (columns : Nat) : LogLine where
  id := ""
  timestamp := .epoch
  source := .stdout
  text := String.ofList (bells (textColumns columns))
  phase := none

theorem lines_bellLine :
    lines (markedText ⟨false, pictured⟩ (bellLine columns)) = [bells (textColumns columns)] := by
  have hmarked : markedText ⟨false, pictured⟩ (bellLine columns) = bells (textColumns columns) :=
    String.toList_ofList
  rw [hmarked, lines_of_notMem (notMem_bells _ (by decide) (by decide))]

/-- On a terminal of 37 columns and more the bells are printed on a line that is too long. -/
theorem exists_overlong_bellLine (hwide : 37 ≤ columns) :
    ∃ s ∈ lines (logLine ⟨false, pictured⟩ columns (bellLine columns)).toList,
      columns < width s := by
  have htime : timeColumns = 9 := rfl
  have htext : textColumns columns = max columns 29 - 9 := rfl
  obtain ⟨m, hm, hlong⟩ := exists_overlong (t := textColumns columns) (by omega)
  obtain ⟨s, hs, hwidth⟩ := exists_width_of_mem_wrapLine pictured columns (bellLine columns)
    (lines_bellLine pictured columns ▸ List.mem_singleton_self _) hm
  exact ⟨s, hs, by omega⟩

/-- How wide the printed lines are, for texts in which no escape sequence holds a hyphen between
letters or digits. An overlong line saves what it would cost to break it, and this bounds by how
much it is too long. All lines of all texts fit on terminals of up to 36 columns and on no wider
one. -/
theorem logLine_fits :
    (∀ l : LogLine, (∀ line ∈ lines (markedText ⟨false, pictured⟩ l), Word.HyphensShown line) →
      ∀ s ∈ lines (logLine ⟨false, pictured⟩ columns l).toList,
        2500 * (width s - max columns 29) ≤
          2000 + 2 * ((max columns 29 - 9) * (max columns 29 - 9))) ∧
    ((∀ l : LogLine, (∀ line ∈ lines (markedText ⟨false, pictured⟩ l), Word.HyphensShown line) →
      ∀ s ∈ lines (logLine ⟨false, pictured⟩ columns l).toList, width s ≤ max columns 29) ↔
      columns ≤ 36) := by
  have htime : timeColumns = 9 := rfl
  have htext : textColumns columns = max columns 29 - 9 := rfl
  have hleast : 5 ≤ textColumns columns := by omega
  refine ⟨fun l hl s hs ↦ ?_, fun hfits ↦ Nat.le_of_not_lt fun hwide ↦ ?_,
    fun hnarrow l hl s hs ↦ ?_⟩
  · obtain ⟨line, hline, m, hm, hwidth⟩ := width_of_mem_lines_logLine pictured columns l hs
    have hover := overflow_of_mem_wrapLine hleast (hl line hline) hm
    rw [← htext]
    omega
  · obtain ⟨s, hs, hlong⟩ := exists_overlong_bellLine pictured columns hwide
    have hbells : ∀ line ∈ lines (markedText ⟨false, pictured⟩ (bellLine columns)),
        Word.HyphensShown line := fun line hline ↦ by
      rw [lines_bellLine, List.mem_singleton] at hline
      exact hline ▸ Word.hyphensShown_of_esc_notMem (notMem_bells _ (by decide) (by decide))
    have hle := hfits (bellLine columns) hbells s hs
    omega
  · obtain ⟨line, hline, m, hm, hwidth⟩ := width_of_mem_lines_logLine pictured columns l hs
    have hle := width_le_of_mem_wrapLine hleast (hl line hline) hm (by omega)
    omega

end Plain

/-- A line as it stands in the log of a build: a sentence and the name of a revision. -/
def revisionLine : LogLine where
  id := "1"
  timestamp := .epoch
  source := .stdout
  text := "Cloned the repository, HEAD is now at the revision: " ++
    "3b18e512dba79e4c8300dd08aeb37f8e728b8dad"
  phase := none

/-- On a terminal of a hundred columns, the line takes a hundred and one. -/
theorem map_width_lines_revisionLine :
    (lines (logLine ⟨false, true⟩ 100 revisionLine).toList).map width = [101] := by
  decide +kernel

/-- On a terminal of a hundred columns it is printed on one line of 101. -/
theorem revision_overhangs_by_one :
    (lines (logLine ⟨false, true⟩ 100 revisionLine).toList).map width = [101] ∧
      ∀ s ∈ lines (logLine ⟨false, true⟩ 100 revisionLine).toList,
        2500 * (width s - 100) ≤ 2000 + 2 * (91 * 91) := by
  have hplain : ∀ line ∈ lines (markedText ⟨false, true⟩ revisionLine), esc ∉ line := by
    decide +kernel
  exact ⟨map_width_lines_revisionLine, (logLine_fits true 100).1 revisionLine
    fun line hline ↦ Word.hyphensShown_of_esc_notMem (hplain line hline)⟩

/-- With a hyphen in the title of a window the word is cut there, and the rest of it is measured as
if it were all part of a sequence. -/
example : (lines (logLine ⟨false, true⟩ 29
    { revisionLine with text := "\x1b]a-b\x1b[\x07111111111111111111111111" }).toList).map width =
      [33] := by
  decide +kernel

/-- Printed lines do not always fit the terminal. -/
theorem revision_exceeds_terminal :
    ¬ ∀ (l : LogLine) (columns : Nat), ∀ s ∈ lines (logLine ⟨false, true⟩ columns l).toList,
      width s ≤ max columns 29 := by
  intro h
  have hlong : 101 ∈ (lines (logLine ⟨false, true⟩ 100 revisionLine).toList).map width :=
    map_width_lines_revisionLine ▸ List.mem_singleton_self 101
  obtain ⟨s, hs, hwidth⟩ := List.mem_map.1 hlong
  have hle := h revisionLine 100 s hs
  omega

end Display

end JobWatch

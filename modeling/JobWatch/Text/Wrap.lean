import JobWatch.Text.Layout

/-!
# Wrapping a text

A text is wrapped line by line into lines that fit, each indented by the same number of spaces. The
spaces where a line is broken are dropped.
-/

namespace JobWatch.Text

/-- The lines of a text, which a line feed separates. -/
def lines : List Char → List (List Char)
  | [] => [[]]
  | c :: rest =>
    if c = '\n' then [] :: lines rest
    else
      match lines rest with
      | [] => [[c]]
      | l :: ls => (c :: l) :: ls

/-- The text of a line: its words with the spaces between them. -/
def lineText : List Word → List Char
  | [] => []
  | [w] => w.text
  | w :: ws => w.full ++ lineText ws

/-- One line of a text as lines of the given width. An empty word comes first, so that even the
first word may be put on the line after. -/
def wrapLine (limit : Nat) (line : List Char) : List (List Char) :=
  (layout limit (.empty :: Word.fragments limit line)).map lineText

/-- A text as lines of at most the given width where that is possible, the indent counted. -/
def wrap (columns indent : Nat) (s : List Char) : List (List Char) :=
  ((lines s).flatMap (wrapLine (columns - indent))).map (List.replicate indent ' ' ++ ·)

theorem lines_ne_nil (s : List Char) : lines s ≠ [] := by
  cases s with
  | nil => simp [lines]
  | cons c rest => simp only [lines]; split <;> (try split) <;> simp

/-- Lines, joined by line feeds, are the text. -/
theorem intercalate_lines (s : List Char) : ['\n'].intercalate (lines s) = s := by
  induction s with
  | nil => rfl
  | cons c rest ih =>
    simp only [lines]
    split
    · next h =>
      subst h
      cases hl : lines rest with
      | nil => exact absurd hl (lines_ne_nil rest)
      | cons l ls =>
        rw [hl] at ih
        simp only [List.intercalate, List.intersperse] at ih ⊢
        simpa using ih
    · split
      · next h => exact absurd h (lines_ne_nil rest)
      · next l ls h =>
        rw [h] at ih
        cases ls with
        | nil => simpa [List.intercalate] using ih
        | cons m ms => simpa [List.intercalate, List.intersperse] using ih

end JobWatch.Text

import JobWatch.Text.Alphanumeric
import JobWatch.Text.Blank
import JobWatch.Text.LineBreak
import JobWatch.Text.Width

/-!
# Words

The parts of a line that are kept together when it is wrapped. A line is cut wherever Unicode allows
a break, but not after a hyphen or a soft hyphen; words are then cut after hyphens that join two
letters or digits, and a word that is wider than a line is cut wherever it has to be. Escape
sequences stay with the character after them. Every cut keeps all characters: the words of a line,
put together, are the line.
-/

namespace JobWatch.Text

/-- Items in groups. A group begins with the first item and with every flagged one. -/
def groups {α : Type} : List (Bool × α) → List (List α)
  | [] => []
  | [(_, a)] => [[a]]
  | (_, a) :: (cut, b) :: rest =>
    match groups ((cut, b) :: rest) with
    | [] => [[a]]
    | g :: gs => if cut then [a] :: g :: gs else (a :: g) :: gs

/-- The characters of a text in groups, with a flag for each character. -/
def groupsBy (cuts : List Bool) (s : List Char) : List (List Char) := groups (cuts.zip s)

/-- A part of a line that is kept together, and the spaces after it. -/
structure Word where
  text : List Char
  /-- The number of spaces after the word. -/
  blanks : Nat
  /-- The columns of the text. -/
  columns : Nat
  columns_eq : columns = width text

namespace Word

/-- A word with spaces after it. -/
def of (text : List Char) (blanks : Nat) : Word := ⟨text, blanks, width text, rfl⟩

def empty : Word := of [] 0

def full (w : Word) : List Char := w.text ++ List.replicate w.blanks ' '

/-- The word that a text is, with the spaces at its end apart. -/
def ofText (s : List Char) : Word :=
  let text := trimEnd (· == ' ') s
  of text (s.length - text.length)

/-- A word in parts. The spaces stay after the last one. -/
def ofParts (blanks : Nat) : List (List Char) → List Word
  | [] => []
  | [t] => [of t blanks]
  | t :: ts => of t 0 :: ofParts blanks ts

/-! ## Cutting a line -/

/-- Flags without the last one that is set. -/
def clearLast : List Bool → List Bool
  | [] => []
  | b :: bs => if bs.any id then b :: clearLast bs else false :: bs

def softHyphen : Char := '\u00ad'

/-- For each character that is shown, whether a word ends after it. The last break does not count,
whether it is at the end or not. -/
def ends (shown : List Char) : List Bool :=
  let after := (breaks shown).drop 1 ++ [true]
  clearLast ((after.zip shown).map fun (allowed, c) => allowed && c != '-' && c != softHyphen)

/-- For each character of a marked text, whether a word begins before it; `cut` says so of the next
one. -/
def begins (cut : Bool) : List Bool → List (Char × Bool) → List Bool
  | _, [] => []
  | ends, (_, false) :: rest => cut :: begins false ends rest
  | e :: ends, (_, true) :: rest => cut :: begins e ends rest
  | [], (_, true) :: rest => cut :: begins false [] rest

/-- The words of a line. -/
def ofLine (line : List Char) : List Word :=
  (groupsBy (begins false (ends (shown line)) (markEscapes line)) line).map ofText

/-! ## Cutting a word -/

/-- For each character, whether it follows a hyphen that stands between two letters or digits; the
two characters before it are given. -/
def hyphenCuts : Option Char → Option Char → List Char → List Bool
  | _, _, [] => []
  | first, second, c :: rest =>
    (second == some '-' && first.any isAlphanumeric && isAlphanumeric c) ::
      hyphenCuts second (some c) rest

/-- A word cut at its hyphens. -/
def atHyphens (w : Word) : List Word :=
  if w.text.isEmpty then [w] else ofParts w.blanks (groupsBy (hyphenCuts none none w.text) w.text)

/-- For each character, whether it would not fit into the limit any more; `used` columns are taken
so far. -/
def widthCuts (limit : Nat) : Nat → List (Char × Bool) → List Bool
  | _, [] => []
  | used, (c, shown) :: rest =>
    if !shown then false :: widthCuts limit used rest
    else if 0 < used && limit < used + charWidth c then true :: widthCuts limit (charWidth c) rest
    else false :: widthCuts limit (used + charWidth c) rest

/-- A word cut into parts that fit into the limit, if it does not fit itself. -/
def within (limit : Nat) (w : Word) : List Word :=
  if w.columns ≤ limit then [w]
  else ofParts w.blanks (groupsBy (widthCuts limit 0 (markEscapes w.text)) w.text)

/-- The parts of a line that may be put on different lines of the given width. -/
def fragments (limit : Nat) (line : List Char) : List Word :=
  ((ofLine line).flatMap atHyphens).flatMap (within limit)

end Word

/-! ## Nothing is lost -/

theorem flatten_groups {α : Type} (xs : List (Bool × α)) : (groups xs).flatten = xs.map (·.2) := by
  induction xs with
  | nil => rfl
  | cons x xs ih =>
    cases xs with
    | nil => rfl
    | cons y ys =>
      obtain ⟨_, a⟩ := x
      obtain ⟨cut, b⟩ := y
      simp only [groups]
      split
      · next h => simp [h] at ih
      · next h =>
        rw [h] at ih
        split <;> simp_all

end JobWatch.Text

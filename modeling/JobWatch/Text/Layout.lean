import JobWatch.Text.Word

/-!
# Laying out words on lines

Words are put on lines of one width so that the whole looks best: a layout costs something for each
line, for the space left at the end of a line and for each column beyond the width, and the cheapest
layout wins. The words are taken in one after another; for each place where the last line may begin,
one layout is kept, the cheapest of those that have that place.
-/

namespace JobWatch.Text

/-- What a layout costs. -/
structure Penalties where
  /-- For each line. -/
  line : Nat
  /-- For each column beyond the width. -/
  overflow : Nat
  /-- For a last line that holds one short word. -/
  shortLast : Nat
  /-- A last line is short when it fills less than one part in this many. -/
  shortFraction : Nat
deriving DecidableEq, Repr

/-- The usual costs. -/
def Penalties.standard : Penalties := ⟨1000, 2500, 25, 4⟩

/-- A layout whose last line is still open. -/
structure Layout where
  /-- The cost of the lines that are complete. -/
  cost : Nat
  /-- The lines that are complete, last first. -/
  closed : List (List Word)
  /-- The words of the open line, last first. -/
  line : List Word
  /-- The columns of the open line, with the spaces after each word. -/
  columns : Nat

namespace Layout

def empty : Layout := ⟨0, [], [], 0⟩

/-- Puts a word on the open line. -/
def add (l : Layout) (w : Word) : Layout :=
  { l with line := w :: l.line, columns := l.columns + w.columns + w.blanks }

/-- The columns of the open line, without the spaces at its end. -/
def used (l : Layout) : Nat := l.columns - (l.line.head?.elim 0 (·.blanks))

/-- The cost when the open line ends, at the end of the text or before. -/
def costClosed (p : Penalties) (target : Nat) (atEnd : Bool) (l : Layout) : Nat :=
  let used := l.used
  l.cost + p.line +
    if target < used then (used - target) * p.overflow
    else if !atEnd then (target - used) * (target - used)
    else if l.line.length = 1 && used * p.shortFraction < target then p.shortLast
    else 0

def close (p : Penalties) (target : Nat) (atEnd : Bool) (l : Layout) : Layout :=
  ⟨l.costClosed p target atEnd, l.line.reverse :: l.closed, [], 0⟩

/-- The cheaper of two layouts; of two that cost the same, the first. -/
def cheaper (a b : Layout) : Layout := if b.cost < a.cost then b else a

/-- The cheapest layout; the first of those that cost the same. -/
def cheapest : List Layout → Option Layout
  | [] => none
  | l :: ls => some (ls.foldl cheaper l)

/-- The lines of the cheapest layout of the words to come, given the layouts of the words so far:
one for each place where the last line may begin, in order. -/
def arrange (p : Penalties) (target : Nat) : List Layout → List Word → List (List Word)
  | _, [] => []
  | open', w :: ws =>
    let open' := open'.map (·.add w)
    match cheapest (open'.map (close p target ws.isEmpty)) with
    | none => []
    | some best => if ws.isEmpty then best.closed.reverse else arrange p target (open' ++ [best]) ws

end Layout

/-- Words on lines of the given width. Without words there is one line. -/
def layout (target : Nat) (words : List Word) : List (List Word) :=
  if words.isEmpty then [[]] else Layout.arrange .standard (max target 1) [.empty] words

end JobWatch.Text

/-!
# Escape sequences in a text

A text for a terminal may hold escape sequences, which are not shown: `ESC [` up to a final
character from `@` to `~`, `ESC ]` up to a bell or `ESC \`, and `ESC` with any other character.
-/

namespace JobWatch.Text

def esc : Char := '\x1b'

/-- Where in an escape sequence a text stands. -/
inductive EscapeState where
  /-- Outside of any. -/
  | outside
  /-- After its first character. -/
  | begun
  /-- Among the parameters of a control sequence. -/
  | control
  /-- In the string of a command; whether the last character was an escape. -/
  | command (afterEsc : Bool)
deriving DecidableEq, Repr

/-- Whether the next character is shown, and where the text stands after it. -/
def EscapeState.next (s : EscapeState) (c : Char) : Bool × EscapeState :=
  match s with
  | .outside => if c = esc then (false, .begun) else (true, .outside)
  | .begun =>
    (false, if c = '[' then .control else if c = ']' then .command false else .outside)
  | .control => (false, if '@' ≤ c ∧ c ≤ '~' then .outside else .control)
  | .command afterEsc =>
    (false, if c = '\x07' || (afterEsc && c == '\\') then .outside else .command (c == esc))

/-- The characters of a text, each with whether it is shown. -/
def markFrom : EscapeState → List Char → List (Char × Bool)
  | _, [] => []
  | s, c :: rest => (c, (s.next c).1) :: markFrom (s.next c).2 rest

/-- The characters of a text, each with whether it is shown. -/
def markEscapes (s : List Char) : List (Char × Bool) := markFrom .outside s

def shown (s : List Char) : List Char := ((markEscapes s).filter (·.2)).map (·.1)

theorem map_fst_markFrom (st : EscapeState) (s : List Char) :
    (markFrom st s).map (·.1) = s := by
  induction s generalizing st with
  | nil => rfl
  | cons c rest ih => simp [markFrom, ih]

/-- Marking keeps every character. -/
@[simp] theorem map_fst_markEscapes (s : List Char) : (markEscapes s).map (·.1) = s :=
  map_fst_markFrom _ s

end JobWatch.Text

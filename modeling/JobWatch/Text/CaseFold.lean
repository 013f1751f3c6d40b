/-!
# Letters without regard to case

Comparison with lower-case ASCII letters up to simple case folding. Besides the two cases of ASCII,
the long s folds to `s` and the Kelvin sign to `k`; no other character folds to an ASCII letter.
-/

namespace JobWatch.Text

/-- The lower-case ASCII letter that a character folds to, or the character itself. -/
def foldCase (c : Char) : Char :=
  if c = '\u017F' then 's' else if c = '\u212A' then 'k' else c.toLower

/-- What follows a word at the start of a text. The word is given in lower case. -/
def word? : List Char → List Char → Option (List Char)
  | [], s => some s
  | w :: ws, c :: s => if foldCase c = w then word? ws s else none
  | _ :: _, [] => none

end JobWatch.Text

/-!
# White space

The characters with the Unicode property `White_Space`, and trimming by them. Every place of the
library that skips or trims blanks without naming them uses this set.
-/

namespace JobWatch.Text

/-- Whether a character has the property `White_Space`. -/
def isBlank (c : Char) : Bool :=
  let n := c.toNat
  (0x09 ≤ n && n ≤ 0x0D) || n == 0x20 || n == 0x85 || n == 0xA0 || n == 0x1680 ||
    (0x2000 ≤ n && n ≤ 0x200A) || n == 0x2028 || n == 0x2029 || n == 0x202F || n == 0x205F ||
    n == 0x3000

def skipBlanks (s : List Char) : List Char := s.dropWhile isBlank

def allBlank (s : String) : Bool := s.toList.all isBlank

/-- A text without the given character at its end, however often it stands there. -/
def trimEnd (drop : Char → Bool) (s : List Char) : List Char :=
  (s.reverse.dropWhile drop).reverse

def trimBlanks (s : List Char) : List Char := trimEnd isBlank (skipBlanks s)

/-- Skipping blanks leaves a text alone that starts with something else. -/
theorem skipBlanks_cons {c : Char} (s : List Char) (h : isBlank c = false) :
    skipBlanks (c :: s) = c :: s := by
  simp [skipBlanks, h]

end JobWatch.Text

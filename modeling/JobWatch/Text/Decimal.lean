/-!
# Decimal numbers

Numerals in base ten, written without sign, separator or padding unless a function says so.
-/

namespace JobWatch.Text.Decimal

/-- The character of a digit; numbers above nine share the last one. -/
def digit (n : Nat) : Char :=
  match n with
  | 0 => '0' | 1 => '1' | 2 => '2' | 3 => '3' | 4 => '4'
  | 5 => '5' | 6 => '6' | 7 => '7' | 8 => '8' | _ => '9'

def isDigit (c : Char) : Bool := '0' ≤ c && c ≤ '9'

def value (c : Char) : Nat := c.toNat - '0'.toNat

/-- The digits of a number, most significant first. -/
def digits (n : Nat) : List Char :=
  if n < 10 then [digit n] else digits (n / 10) ++ [digit (n % 10)]
termination_by n

/-- The number that a run of digits spells, continuing from `start`. -/
def ofDigits (start : Nat) (ds : List Char) : Nat :=
  ds.foldl (fun n d => n * 10 + value d) start

/-- The number that a text spells when it is one or more digits and nothing else. -/
def toNat? (s : List Char) : Option Nat :=
  if s.isEmpty || !s.all isDigit then none else some (ofDigits 0 s)

def text (n : Nat) : String := String.ofList (digits n)

/-- The text of an integer, with a minus sign when it is negative. -/
def ofInt (n : Int) : String :=
  match n with
  | .ofNat m => text m
  | .negSucc m => String.ofList ('-' :: digits (m + 1))

/-- The digits of a number, filled with leading zeros to at least the given count. -/
def padded (width n : Nat) : List Char :=
  List.replicate (width - (digits n).length) '0' ++ digits n

/-! ## Reading what was written -/

theorem value_digit {n : Nat} (h : n < 10) : value (digit n) = n := by
  match n, h with
  | 0, _ | 1, _ | 2, _ | 3, _ | 4, _ | 5, _ | 6, _ | 7, _ | 8, _ | 9, _ => rfl

theorem isDigit_digit (n : Nat) : isDigit (digit n) = true := by
  unfold digit; split <;> rfl

theorem all_isDigit_digits (n : Nat) : (digits n).all isDigit = true := by
  rw [digits]
  split
  · simp [isDigit_digit]
  · simp [isDigit_digit, all_isDigit_digits (n / 10)]
termination_by n
decreasing_by omega

theorem digits_ne_nil (n : Nat) : digits n ≠ [] := by
  rw [digits]; split <;> simp

theorem ofDigits_append (start : Nat) (a b : List Char) :
    ofDigits start (a ++ b) = ofDigits (ofDigits start a) b := by
  simp [ofDigits]

theorem ofDigits_digits (n : Nat) : ofDigits 0 (digits n) = n := by
  rw [digits]
  split
  · next h => simp [ofDigits, value_digit h]
  · rw [ofDigits_append, ofDigits_digits (n / 10)]
    simp only [ofDigits, List.foldl_cons, List.foldl_nil, value_digit (Nat.mod_lt n (by decide : 0 < 10))]
    omega
termination_by n
decreasing_by omega

end JobWatch.Text.Decimal

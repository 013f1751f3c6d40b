/-!
# Hexadecimal digits
-/

namespace JobWatch.Text.Hex

/-- The value of a hexadecimal digit of either case. -/
def value? (c : Char) : Option Nat :=
  if '0' ≤ c ∧ c ≤ '9' then some (c.toNat - '0'.toNat)
  else if 'a' ≤ c ∧ c ≤ 'f' then some (c.toNat - 'a'.toNat + 10)
  else if 'A' ≤ c ∧ c ≤ 'F' then some (c.toNat - 'A'.toNat + 10)
  else none

/-- The lower-case digit of a value below sixteen. -/
def lower (n : Nat) : Char :=
  if n < 10 then Char.ofNat ('0'.toNat + n) else Char.ofNat ('a'.toNat + (n - 10))

/-- The upper-case digit of a value below sixteen. -/
def upper (n : Nat) : Char :=
  if n < 10 then Char.ofNat ('0'.toNat + n) else Char.ofNat ('A'.toNat + (n - 10))

/-- The number that hexadecimal digits spell, unless one of them is none. -/
def ofDigits? (cs : List Char) : Option Nat :=
  cs.foldlM (fun n c => (value? c).map (n * 16 + ·)) 0

theorem value?_lower {n : Nat} (h : n < 16) : value? (lower n) = some n :=
  (by decide : ∀ m < 16, value? (lower m) = some m) n h

theorem value?_upper {n : Nat} (h : n < 16) : value? (upper n) = some n :=
  (by decide : ∀ m < 16, value? (upper m) = some m) n h

end JobWatch.Text.Hex

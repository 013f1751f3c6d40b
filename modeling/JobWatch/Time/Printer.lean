import JobWatch.Time.Timestamp

/-!
# Timestamps as text

The written form of a point in time: `YYYY-MM-DDTHH:MM:SSZ`, years outside 0 to 9999 with a sign and
at least four digits, and a fraction of three, six or nine digits when one is needed. A leap second
is written as second 60.
-/

namespace JobWatch.Timestamp

open Text.Decimal

/-- A year: four digits, or a sign and at least four digits outside 0 to 9999. -/
def yearText (y : Int) : List Char :=
  if 0 ≤ y ∧ y ≤ 9999 then padded 4 y.toNat
  else (if y < 0 then '-' else '+') :: padded 4 y.natAbs

/-- The fraction of a second, with the fewest of zero, three, six and nine digits that hold it. -/
def fractionText (nano : Nat) : List Char :=
  if nano = 0 then []
  else if nano % 1000000 = 0 then '.' :: padded 3 (nano / 1000000)
  else if nano % 1000 = 0 then '.' :: padded 6 (nano / 1000)
  else '.' :: padded 9 nano

def text (t : Timestamp) : List Char :=
  yearText t.date.year ++ '-' :: padded 2 t.date.month ++ '-' :: padded 2 t.date.day ++
    'T' :: t.clockText ++ fractionText (t.nano % 1000000000) ++ ['Z']

end JobWatch.Timestamp

import JobWatch.Time.Timestamp
import JobWatch.Text.Blank

/-!
# Reading timestamps

A relaxed reading of the internet date and time format. Blanks may stand before each field and
between the parts, the date and the time are divided by `T`, `t` or a space, fields may have a
single digit, a signed year may have any number of digits, and digits of the fraction past the ninth
are ignored. The offset is `Z`, `z`, `UTC` or a signed `hh:mm` whose separators may be colons,
blanks or missing. The result is in UTC.
-/

namespace JobWatch.Timestamp

open Text

/-- One or more digits, of which at most `most` are taken; a value of 2⁶³ and more is refused. -/
def number? (most : Nat) (s : List Char) : Option (Nat × List Char) :=
  let ds := (s.take most).takeWhile Decimal.isDigit
  let n := Decimal.ofDigits 0 ds
  if ds.isEmpty || 9223372036854775808 ≤ n then none else some (n, s.drop ds.length)

/-- A field of one or two digits, with blanks before it. -/
def field? (s : List Char) : Option (Nat × List Char) := number? 2 (skipBlanks s)

/-- The given character, with blanks before it. -/
def mark? (c : Char) (s : List Char) : Option (List Char) :=
  match skipBlanks s with
  | d :: rest => if d = c then some rest else none
  | [] => none

/-- A year: up to four digits, or any number of digits after a sign. -/
def year? (s : List Char) : Option (Int × List Char) :=
  match skipBlanks s with
  | '-' :: rest => (number? rest.length rest).map fun (n, r) => (-(n : Int), r)
  | '+' :: rest => (number? rest.length rest).map fun (n, r) => ((n : Int), r)
  | other => (number? 4 other).map fun (n, r) => ((n : Int), r)

/-- The fraction of a second in nanoseconds; none is zero. -/
def fraction? (s : List Char) : Option (Nat × List Char) :=
  match s with
  | '.' :: rest =>
    let ds := (rest.take 9).takeWhile Decimal.isDigit
    if ds.isEmpty then none
    else some (Decimal.ofDigits 0 ds * Nat.pow 10 (9 - ds.length), rest.dropWhile Decimal.isDigit)
  | _ => some (0, s)

/-- Two digits, the first of them at most `most`. -/
def twoDigits? (most : Char) (s : List Char) : Option (Nat × List Char) :=
  match s with
  | a :: b :: rest =>
    if Decimal.isDigit a && Decimal.isDigit b && a ≤ most then
      some (Decimal.value a * 10 + Decimal.value b, rest)
    else none
  | _ => none

/-- The offset from UTC in minutes, and what follows it. -/
def offset? (s : List Char) : Option (Int × List Char) :=
  let signed (sign : Int) (rest : List Char) : Option (Int × List Char) := do
    let (hours, rest) ← twoDigits? '9' rest
    let (minutes, rest) ← twoDigits? '5' (rest.dropWhile fun c => c = ':' || isBlank c)
    if hours < 24 then some (sign * (hours * 60 + minutes), rest) else none
  match s with
  | u :: t :: c :: rest =>
    if u.toUpper = 'U' ∧ t.toUpper = 'T' ∧ c.toUpper = 'C' then some (0, rest)
    else match s with
      | 'Z' :: rest | 'z' :: rest => some (0, rest)
      | '+' :: rest => signed 1 rest
      | '-' :: rest | '\u2212' :: rest => signed (-1) rest
      | _ => none
  | 'Z' :: rest | 'z' :: rest => some (0, rest)
  | _ => none

/-- The second of the day and the nanoseconds of a local time, where second 60 is a leap second. -/
def timeOfDay? (hour minute second nano : Nat) : Option (Nat × Nat) :=
  if hour < 24 ∧ minute < 60 ∧ second ≤ 60 then
    if second = 60 then some (hour * 3600 + minute * 60 + 59, nano + 1000000000)
    else some (hour * 3600 + minute * 60 + second, nano)
  else none

/-- The point in UTC of a local date and time with an offset in minutes. -/
def ofLocal? (date : Date) (second nano : Nat) (offset : Int) : Option Timestamp :=
  let utc := (second : Int) - offset * 60
  if utc < 0 then date.prev?.bind (of? · (utc + 86400).toNat nano)
  else if 86400 ≤ utc then date.next?.bind (of? · (utc - 86400).toNat nano)
  else of? date utc.toNat nano

def parse? (s : List Char) : Option Timestamp := do
  let (year, s) ← year? s
  let s ← mark? '-' s
  let (month, s) ← field? s
  let s ← mark? '-' s
  let (day, s) ← field? s
  let s ← match s with
    | c :: rest => if c = 'T' ∨ c = 't' ∨ c = ' ' then some rest else none
    | [] => none
  let (hour, s) ← field? s
  let s ← mark? ':' s
  let (minute, s) ← field? s
  let s ← mark? ':' s
  let (second, s) ← field? s
  let (nano, s) ← fraction? s
  let (offset, s) ← offset? (skipBlanks s)
  if s.all isBlank then
    let date ← Date.of? year month day
    let (second, nano) ← timeOfDay? hour minute second nano
    ofLocal? date second nano offset
  else none

end JobWatch.Timestamp

import JobWatch.Time.Date
import JobWatch.Text.Decimal

/-!
# Points in time

A `Timestamp` is a day in UTC with a second of that day and nanoseconds into the second. A leap
second is the second after `:59`, held as nanoseconds from 10⁹ on. The span to a later point is
counted in whole seconds, truncated toward zero.
-/

namespace JobWatch

/-- A point in time, in UTC. -/
structure Timestamp where
  date : Date
  /-- The second of the day, a leap second not counted. -/
  second : Nat
  /-- Nanoseconds into the second; 10⁹ and more lie in the leap second that follows it. -/
  nano : Nat
  second_lt : second < 86400
  nano_lt : nano < 2000000000
  /-- A leap second follows a second `:59`. A clock type may hold one elsewhere if its nanoseconds are
  set by hand; no reader of a time makes such a one. -/
  leap_at_59 : 1000000000 ≤ nano → second % 60 = 59
deriving DecidableEq, Repr

namespace Timestamp

/-- The point in time with the given fields, if there is one. -/
def of? (date : Date) (second nano : Nat) : Option Timestamp :=
  if h : second < 86400 ∧ nano < 2000000000 ∧ (1000000000 ≤ nano → second % 60 = 59) then
    some ⟨date, second, nano, h.1, h.2.1, h.2.2⟩
  else none

def epoch : Timestamp :=
  ⟨⟨1970, 1, 1, by decide, by decide, by decide⟩, 0, 0, by decide, by decide, by decide⟩

@[simp] theorem of?_self (t : Timestamp) : of? t.date t.second t.nano = some t := by
  have h : t.second < 86400 ∧ t.nano < 2000000000 ∧ (1000000000 ≤ t.nano → t.second % 60 = 59) :=
    ⟨t.second_lt, t.nano_lt, t.leap_at_59⟩
  rw [of?, dif_pos h]

/-- The point's place in time: day, then second, then nanosecond, as one number. -/
def rank (t : Timestamp) : Int :=
  (t.date.number * 86400 + t.second) * 2000000000 + t.nano

def le (a b : Timestamp) : Bool := a.rank ≤ b.rank

theorem le_iff {a b : Timestamp} : a.le b ↔ a.rank ≤ b.rank := by simp [le]

theorem le_total (a b : Timestamp) : a.le b || b.le a := by
  simp only [Bool.or_eq_true, le_iff]; omega

theorem le_trans {a b c : Timestamp} (hab : a.le b) (hbc : b.le c) : a.le c := by
  rw [le_iff] at *; omega

/-- Nanoseconds from one point to another. A leap second counts when it lies between the two times
of day. -/
def nanosUntil (a b : Timestamp) : Int :=
  let leap : Int :=
    if a.second < b.second then (if 1000000000 ≤ a.nano then 1 else 0)
    else if b.second < a.second then (if 1000000000 ≤ b.nano then -1 else 0)
    else 0
  ((b.date.number - a.date.number) * 86400 + (b.second - a.second : Int) + leap) * 1000000000 +
    (b.nano - a.nano : Int)

/-- Whole seconds from one point to another, truncated toward zero. -/
def secondsUntil (a b : Timestamp) : Int := (a.nanosUntil b).tdiv 1000000000

/-- The point so many milliseconds later, unless the calendar ends before it. -/
def addMillis? (t : Timestamp) (ms : Nat) : Option Timestamp :=
  let nanos := ms % 1000 * 1000000
  if 1000000000 ≤ t.nano && ms / 1000 == 0 && t.nano + nanos < 2000000000 then
    of? t.date t.second (t.nano + nanos)
  else
    let total := t.nano % 1000000000 + nanos
    let seconds := t.second + ms / 1000 + total / 1000000000
    (t.date.addDays? (seconds / 86400)).bind (of? · (seconds % 86400) (total % 1000000000))

/-- Hour, minute and second of the day; the second is 60 in a leap second. -/
def clock (t : Timestamp) : Nat × Nat × Nat :=
  (t.second / 3600, t.second / 60 % 60, t.second % 60 + t.nano / 1000000000)

/-- The time of day as `HH:MM:SS`. -/
def clockText (t : Timestamp) : List Char :=
  let (h, m, s) := t.clock
  Text.Decimal.padded 2 h ++ ':' :: Text.Decimal.padded 2 m ++ ':' :: Text.Decimal.padded 2 s

end Timestamp

end JobWatch

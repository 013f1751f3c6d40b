import JobWatch.Proofs.Text.Decimal
import JobWatch.Proofs.Text.Run
import JobWatch.Time.Parser
import JobWatch.Time.Printer

/-!
# What is written of a point in time is read back

The reading takes far more than is ever written, so each field is read off the front of a text that
goes on with the mark after it. Three things have to fit: a year outside 0 to 9999 has its sign,
because without one no more than four digits are taken; a fraction has a width that its zeros at the
end are made up for; and the second of a leap second is 60, and one less with the nanoseconds beyond
the second.
-/

namespace JobWatch.Timestamp

open Text Text.Decimal

/-! ## Fields -/

/-- A padded number is read back if it is short enough and no digit follows. -/
theorem number?_padded {most width n : Nat} {rest : List Char}
    (hlength : (padded width n).length ≤ most) (hn : n < 9223372036854775808)
    (hrest : StopsAt isDigit rest) : number? most (padded width n ++ rest) = some (n, rest) := by
  have hds := takeWhile_run_take (all_isDigit_padded width n) hrest hlength
  obtain ⟨d, ds, hpadded, -⟩ := exists_padded_eq_cons width n
  have hne : (padded width n).isEmpty = false := by rw [hpadded]; rfl
  simp only [number?, hds, ofDigits_padded, hne, Bool.false_or, decide_eq_true_eq]
  rw [if_neg (by omega), List.drop_left]

/-- A field of two digits, up to the mark after it. -/
theorem field?_padded {n : Nat} {rest : List Char} (hn : n < 100) (hrest : StopsAt isDigit rest) :
    field? (padded 2 n ++ rest) = some (n, rest) := by
  have hdigits : (digits n).length ≤ 2 := length_digits_le hn
  rw [field?, skipBlanks_padded]
  exact number?_padded (Nat.le_of_eq (length_padded hdigits)) (by omega) hrest

theorem mark?_cons {c : Char} (rest : List Char) (hc : isBlank c = false) :
    mark? c (c :: rest) = some rest := by
  rw [mark?, skipBlanks_cons rest hc]
  exact if_pos rfl

/-- A year of four digits. -/
theorem year?_padded {n : Nat} {rest : List Char} (hn : n < 10000) (hrest : StopsAt isDigit rest) :
    year? (padded 4 n ++ rest) = some ((n : Int), rest) := by
  have hdigits : (digits n).length ≤ 4 := length_digits_le hn
  have hread : number? 4 (padded 4 n ++ rest) = some (n, rest) :=
    number?_padded (Nat.le_of_eq (length_padded hdigits)) (by omega) hrest
  obtain ⟨d, ds, hpadded, hd⟩ := exists_padded_eq_cons 4 n
  rw [year?, skipBlanks_padded]
  rw [hpadded, List.cons_append] at hread ⊢
  split
  next heq =>
    obtain ⟨rfl, -⟩ := List.cons.inj heq
    exact absurd hd (by decide)
  next heq =>
    obtain ⟨rfl, -⟩ := List.cons.inj heq
    exact absurd hd (by decide)
  next => rw [hread, Option.map_some]

/-- A year of the calendar, with its sign where it has one. -/
theorem year?_yearText {y : Int} (hy : -262143 ≤ y ∧ y ≤ 262142) {rest : List Char}
    (hrest : StopsAt isDigit rest) : year? (yearText y ++ rest) = some (y, rest) := by
  -- After a sign any number of digits is taken.
  have hread (n : Nat) (hn : n < 9223372036854775808) :
      number? (padded 4 n ++ rest).length (padded 4 n ++ rest) = some (n, rest) := by
    refine number?_padded ?_ hn hrest
    rw [List.length_append]
    exact Nat.le_add_right ..
  unfold yearText
  split
  next h =>
    have hcast : (y.toNat : Int) = y := Int.toNat_of_nonneg h.1
    rw [year?_padded (by omega) hrest, hcast]
  next h =>
    split
    next hneg =>
      have hcast : -(y.natAbs : Int) = y := by omega
      rw [List.cons_append, year?, skipBlanks_cons _ rfl]
      simp only [hread y.natAbs (by omega), Option.map_some, hcast]
    next hpos =>
      have hcast : (y.natAbs : Int) = y := by omega
      rw [List.cons_append, year?, skipBlanks_cons _ rfl]
      simp only [hread y.natAbs (by omega), Option.map_some, hcast]

/-- A fraction of some digits, the zeros at its end made up for. -/
theorem fraction?_padded {width n : Nat} {rest : List Char} (hwidth : width ≤ 9)
    (hn : (digits n).length ≤ width) (hrest : StopsAt isDigit rest) :
    fraction? ('.' :: padded width n ++ rest) = some (n * Nat.pow 10 (9 - width), rest) := by
  have hlength : (padded width n).length = width := length_padded hn
  have hds := takeWhile_run_take (all_isDigit_padded width n) hrest
    (hlength ▸ hwidth)
  have hdrop := dropWhile_run (all_isDigit_padded width n) hrest
  obtain ⟨d, ds, hpadded, -⟩ := exists_padded_eq_cons width n
  have hne : (padded width n).isEmpty = false := by rw [hpadded]; rfl
  simp only [fraction?, List.cons_append, hds, hdrop, hne, ofDigits_padded, hlength]
  rfl

/-- The fraction of a second is read back. -/
theorem fraction?_fractionText {nano : Nat} (hnano : nano < 1000000000) {rest : List Char}
    (hrest : StopsAt isDigit rest) (hpoint : ∀ more, rest ≠ '.' :: more) :
    fraction? (fractionText nano ++ rest) = some (nano, rest) := by
  unfold fractionText
  split
  next h =>
    subst h
    rw [List.nil_append]
    unfold fraction?
    split
    next more => exact absurd rfl (hpoint more)
    next => rfl
  next =>
    split
    next h =>
      have hmilli : nano / 1000000 < Nat.pow 10 (2 + 1) := by simp only [Nat.pow_eq]; omega
      rw [fraction?_padded (by decide) (length_digits_le hmilli) hrest]
      have : nano / 1000000 * Nat.pow 10 (9 - 3) = nano := by simp only [Nat.pow_eq]; omega
      rw [this]
    next =>
      split
      next h =>
        have hmicro : nano / 1000 < Nat.pow 10 (5 + 1) := by simp only [Nat.pow_eq]; omega
        rw [fraction?_padded (by decide) (length_digits_le hmicro) hrest]
        have : nano / 1000 * Nat.pow 10 (9 - 6) = nano := by simp only [Nat.pow_eq]; omega
        rw [this]
      next =>
        rw [fraction?_padded (by decide) (length_digits_le (k := 8) hnano) hrest]
        have : nano * Nat.pow 10 (9 - 9) = nano := by simp only [Nat.pow_eq]; omega
        rw [this]

/-- What is written of a fraction begins with a point, if it is not empty. -/
theorem stopsAt_fractionText (nano : Nat) {rest : List Char} (hrest : StopsAt isDigit rest) :
    StopsAt isDigit (fractionText nano ++ rest) := by
  unfold fractionText
  split
  · exact hrest
  · split
    · exact stopsAt_cons _ rfl
    · split <;> exact stopsAt_cons _ rfl

/-! ## Points in time -/

/-- The second of a point in time, read back from hour, minute and second. -/
theorem timeOfDay?_clock (t : Timestamp) :
    timeOfDay? (t.second / 3600) (t.second / 60 % 60) (t.second % 60 + t.nano / 1000000000)
      (t.nano % 1000000000) = some (t.second, t.nano) := by
  have hsecond := t.second_lt
  have hnano := t.nano_lt
  have hleap := t.leap_at_59
  unfold timeOfDay?
  rw [if_pos (by omega)]
  by_cases h : 1000000000 ≤ t.nano
  · rw [if_pos (by omega)]
    simp only [Option.some.injEq, Prod.mk.injEq]
    omega
  · rw [if_neg (by omega)]
    simp only [Option.some.injEq, Prod.mk.injEq]
    omega

theorem ofLocal?_utc (t : Timestamp) : ofLocal? t.date t.second t.nano 0 = some t := by
  have hsecond := t.second_lt
  simp only [ofLocal?, Int.zero_mul, Int.sub_zero]
  rw [if_neg (by omega), if_neg (by omega), Int.toNat_natCast, of?_self]

theorem bind_of_eq_some {α β : Type} {x : Option α} {a : α} {f : α → Option β} (h : x = some a) :
    (x >>= f) = f a := by
  rw [h]
  rfl

/-- A point in time is read back from what is written of it. -/
theorem parse?_text (t : Timestamp) : parse? t.text = some t := by
  have hday : t.date.day < 100 := by
    have hdays : daysInMonth t.date.year t.date.month ≤ 31 := by
      unfold daysInMonth
      repeat' split
      all_goals decide
    have hday := t.date.day_mem.2
    omega
  have hmonth : t.date.month < 100 := by
    have hmonth := t.date.month_mem.2
    omega
  have hsecond := t.second_lt
  have hnano := t.nano_lt
  have hZ : StopsAt isDigit ['Z'] := stopsAt_cons _ rfl
  have hfraction := stopsAt_fractionText (t.nano % 1000000000) hZ
  have htext : t.text = yearText t.date.year ++ '-' :: (padded 2 t.date.month ++
      '-' :: (padded 2 t.date.day ++ 'T' :: (padded 2 (t.second / 3600) ++
        ':' :: (padded 2 (t.second / 60 % 60) ++
          ':' :: (padded 2 (t.second % 60 + t.nano / 1000000000) ++
            (fractionText (t.nano % 1000000000) ++ ['Z'])))))) := by
    simp only [text, clockText, clock, List.append_assoc, List.cons_append]
  have hoffset : offset? (skipBlanks ['Z']) = some (0, []) := rfl
  have hdash : isBlank '-' = false := rfl
  have hcolon : isBlank ':' = false := rfl
  -- Each field is read off the front, and what comes after it goes on with the rest.
  rw [htext]
  refine (bind_of_eq_some (year?_yearText t.date.year_mem (stopsAt_cons _ rfl))).trans ?_
  refine (bind_of_eq_some (mark?_cons _ hdash)).trans ?_
  refine (bind_of_eq_some (field?_padded hmonth (stopsAt_cons _ rfl))).trans ?_
  refine (bind_of_eq_some (mark?_cons _ hdash)).trans ?_
  refine (bind_of_eq_some (field?_padded hday (stopsAt_cons _ rfl))).trans ?_
  refine (if_pos (.inl rfl)).trans ?_
  refine (bind_of_eq_some rfl).trans ?_
  refine (bind_of_eq_some (field?_padded (by omega) (stopsAt_cons _ rfl))).trans ?_
  refine (bind_of_eq_some (mark?_cons _ hcolon)).trans ?_
  refine (bind_of_eq_some (field?_padded (by omega) (stopsAt_cons _ rfl))).trans ?_
  refine (bind_of_eq_some (mark?_cons _ hcolon)).trans ?_
  refine (bind_of_eq_some (field?_padded (by omega) hfraction)).trans ?_
  refine (bind_of_eq_some (fraction?_fractionText (Nat.mod_lt _ (by decide)) hZ (by simp))).trans ?_
  refine (bind_of_eq_some hoffset).trans ?_
  refine (if_pos rfl).trans ?_
  refine (bind_of_eq_some (Date.of?_self _)).trans ?_
  refine (bind_of_eq_some (timeOfDay?_clock t)).trans ?_
  exact ofLocal?_utc t

end JobWatch.Timestamp

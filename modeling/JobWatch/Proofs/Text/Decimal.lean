import JobWatch.Text.Blank
import JobWatch.Text.Decimal

/-!
# What is written of numbers

A number is spelled by digits alone, and without a zero in front. Filled up with zeros it has the
width it is filled up to, and still reads as the number.
-/

namespace JobWatch.Text.Decimal

theorem isBlank_of_isDigit {c : Char} (h : isDigit c) : isBlank c = false := by
  have hlow : '0'.toNat ≤ c.toNat := by
    simp only [isDigit, Bool.and_eq_true, decide_eq_true_eq] at h
    exact h.1
  have hhigh : c.toNat ≤ '9'.toNat := by
    simp only [isDigit, Bool.and_eq_true, decide_eq_true_eq] at h
    exact h.2
  have h0 : '0'.toNat = 48 := rfl
  have h9 : '9'.toNat = 57 := rfl
  simp only [isBlank, Bool.or_eq_false_iff, Bool.and_eq_false_iff, decide_eq_false_iff_not,
    beq_eq_false_iff_ne]
  omega

/-! ## Digits -/

theorem exists_digits_eq_cons (n : Nat) :
    ∃ d ds, digits n = d :: ds ∧ isDigit d ∧ ds.all isDigit := by
  have hall := all_isDigit_digits n
  cases h : digits n with
  | nil => exact absurd h (digits_ne_nil n)
  | cons d ds =>
    rw [h, List.all_cons, Bool.and_eq_true] at hall
    exact ⟨d, ds, rfl, hall⟩

/-- The digits of a number do not begin with a zero, unless that is all there is. -/
theorem head?_digits_ne {n : Nat} (h : 0 < n) : (digits n).head? ≠ some '0' := by
  have hdigit : ∀ m < 10, 0 < m → digit m ≠ '0' := by decide
  rw [digits]
  split
  next hlt =>
    rw [List.head?_cons, ne_eq, Option.some.injEq]
    exact hdigit n hlt h
  next hge =>
    have hlater := head?_digits_ne (show 0 < n / 10 by omega)
    rw [List.head?_append]
    cases hfirst : (digits (n / 10)).head? with
    | none => exact absurd (List.head?_eq_none_iff.1 hfirst) (digits_ne_nil _)
    | some d =>
      rw [hfirst] at hlater
      exact hlater

/-- An integer is written as the digits of its size, behind a sign if it is negative. -/
theorem toList_ofInt (n : Int) :
    (ofInt n).toList = if n < 0 then '-' :: digits n.natAbs else digits n.natAbs := by
  cases n with
  | ofNat m => simp [ofInt, text]
  | negSucc m => simp [ofInt, Int.negSucc_lt_zero]

/-! ## Numbers that are filled up -/

variable (width n : Nat)

theorem all_isDigit_padded : (padded width n).all isDigit := by
  have hzeros : (List.replicate (width - (digits n).length) '0').all isDigit := by
    rw [List.all_eq_true]
    intro c hc
    rw [List.eq_of_mem_replicate hc]
    rfl
  rw [padded, List.all_append, hzeros, all_isDigit_digits n]
  rfl

/-- Zeros in front do not count. -/
theorem ofDigits_padded : ofDigits 0 (padded width n) = n := by
  have hzeros (k : Nat) : ofDigits 0 (List.replicate k '0') = 0 := by
    induction k with
    | zero => rfl
    | succ k ih =>
      rw [List.replicate_succ]
      exact ih
  rw [padded, ofDigits_append, hzeros, ofDigits_digits]

/-- A number below a power of ten has at most so many digits. -/
theorem length_digits_le {n k : Nat} (h : n < Nat.pow 10 (k + 1)) : (digits n).length ≤ k + 1 := by
  induction k generalizing n with
  | zero =>
    rw [digits, if_pos (by simpa using h)]
    exact Nat.le_refl 1
  | succ k ih =>
    rw [digits]
    split
    · exact Nat.le_add_left 1 _
    · have hdiv : n / 10 < Nat.pow 10 (k + 1) := by
        rw [Nat.div_lt_iff_lt_mul (by decide)]
        exact h
      rw [List.length_append]
      exact Nat.add_le_add_right (ih hdiv) 1

/-- A number that fits is filled up to the width. -/
theorem length_padded {width n : Nat} (h : (digits n).length ≤ width) :
    (padded width n).length = width := by
  rw [padded, List.length_append, List.length_replicate]
  omega

theorem exists_padded_eq_cons : ∃ d ds, padded width n = d :: ds ∧ isDigit d := by
  cases h : padded width n with
  | nil =>
    simp only [padded, List.append_eq_nil_iff] at h
    exact absurd h.2 (digits_ne_nil n)
  | cons d ds =>
    have hall := all_isDigit_padded width n
    rw [h, List.all_cons, Bool.and_eq_true] at hall
    exact ⟨d, ds, rfl, hall.1⟩

/-- No blanks are skipped before a number. -/
theorem skipBlanks_padded (rest : List Char) :
    skipBlanks (padded width n ++ rest) = padded width n ++ rest := by
  obtain ⟨d, ds, h, hd⟩ := exists_padded_eq_cons width n
  rw [h, List.cons_append, skipBlanks_cons _ (isBlank_of_isDigit hd)]

end JobWatch.Text.Decimal

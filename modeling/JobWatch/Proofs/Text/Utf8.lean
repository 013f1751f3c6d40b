import JobWatch.Text.Utf8

/-!
# What is written in UTF-8 is read back

The octets of a character take the decoder through as many steps as they are, and back between
characters: the first octet announces how many follow and bounds the next one, and the bounds are
those that keep out a longer form than is needed, the surrogates and what lies behind the last code
point.
-/

namespace JobWatch.Text.Utf8

/-- The octets of a character that takes one, two, three or four of them. -/
theorem encodeChar_cases (c : Char) :
    c.toNat < 0x80 ∧ encodeChar c = [c.toNat.toUInt8] ∨
    0x80 ≤ c.toNat ∧ c.toNat < 0x800 ∧
      encodeChar c = [(0xC0 + c.toNat / 0x40).toUInt8, (0x80 + c.toNat % 0x40).toUInt8] ∨
    0x800 ≤ c.toNat ∧ c.toNat < 0x10000 ∧ (c.toNat < 0xD800 ∨ 0xE000 ≤ c.toNat) ∧
      encodeChar c = [(0xE0 + c.toNat / 0x1000).toUInt8,
        (0x80 + c.toNat / 0x40 % 0x40).toUInt8, (0x80 + c.toNat % 0x40).toUInt8] ∨
    0x10000 ≤ c.toNat ∧ c.toNat < 0x110000 ∧
      encodeChar c = [(0xF0 + c.toNat / 0x40000).toUInt8,
        (0x80 + c.toNat / 0x1000 % 0x40).toUInt8, (0x80 + c.toNat / 0x40 % 0x40).toUInt8,
        (0x80 + c.toNat % 0x40).toUInt8] := by
  have hvalid : c.toNat < 0xD800 ∨ 0xDFFF < c.toNat ∧ c.toNat < 0x110000 := c.valid
  simp only [encodeChar]
  split
  next h => exact .inl ⟨h, rfl⟩
  next h =>
    split
    next h' => exact .inr (.inl ⟨by omega, h', rfl⟩)
    next h' =>
      split
      next h'' => exact .inr (.inr (.inl ⟨by omega, h'', by omega, rfl⟩))
      next h'' => exact .inr (.inr (.inr ⟨by omega, by omega, rfl⟩))

theorem toNat_toUInt8 {n : Nat} (h : n < 256) : n.toUInt8.toNat = n := by
  simp [Nat.toUInt8, h]

/-! ## One octet -/

section Octet

variable {k n : Nat} (rest : List UInt8)

/-- An octet of its own is a character. -/
theorem symbolsFrom_one (h : n < 0x80) :
    symbolsFrom none (n.toUInt8 :: rest) = some (Char.ofNat n) :: symbolsFrom none rest := by
  have hstart : start n.toUInt8 = .char (Char.ofNat n) := by
    simp only [start, toNat_toUInt8 (show n < 256 by omega), h, if_true]
  simp [symbolsFrom, step, begin, hstart]

/-- The first of two octets. -/
theorem symbolsFrom_two (hlow : 2 ≤ k) (hhigh : k < 0x20) :
    symbolsFrom none ((0xC0 + k).toUInt8 :: rest) =
      symbolsFrom (some ⟨1, 0x80, 0xBF, k⟩) rest := by
  have hstart : start (0xC0 + k).toUInt8 = .more ⟨1, 0x80, 0xBF, k⟩ := by
    simp only [start, toNat_toUInt8 (show 0xC0 + k < 256 by omega)]
    rw [if_neg (by omega), if_neg (by omega), if_pos (by omega), Nat.add_sub_cancel_left]
  simp only [symbolsFrom, step, begin, hstart, List.nil_append]

/-- The first of three octets. -/
theorem symbolsFrom_three (hhigh : k < 0x10) :
    symbolsFrom none ((0xE0 + k).toUInt8 :: rest) =
      symbolsFrom (some ⟨2, if k = 0 then 0xA0 else 0x80, if k = 0xD then 0x9F else 0xBF, k⟩)
        rest := by
  have hstart : start (0xE0 + k).toUInt8 =
      .more ⟨2, if k = 0 then 0xA0 else 0x80, if k = 0xD then 0x9F else 0xBF, k⟩ := by
    simp only [start, toNat_toUInt8 (show 0xE0 + k < 256 by omega)]
    rw [if_neg (by omega), if_neg (by omega), if_neg (by omega), if_pos (by omega),
      Nat.add_sub_cancel_left]
    simp only [show 0xE0 + k = 0xE0 ↔ k = 0 by omega, show 0xE0 + k = 0xED ↔ k = 0xD by omega]
  simp only [symbolsFrom, step, begin, hstart, List.nil_append]

/-- The first of four octets. -/
theorem symbolsFrom_four (hhigh : k < 5) :
    symbolsFrom none ((0xF0 + k).toUInt8 :: rest) =
      symbolsFrom (some ⟨3, if k = 0 then 0x90 else 0x80, if k = 4 then 0x8F else 0xBF, k⟩)
        rest := by
  have hstart : start (0xF0 + k).toUInt8 =
      .more ⟨3, if k = 0 then 0x90 else 0x80, if k = 4 then 0x8F else 0xBF, k⟩ := by
    simp only [start, toNat_toUInt8 (show 0xF0 + k < 256 by omega)]
    rw [if_neg (by omega), if_neg (by omega), if_neg (by omega), if_neg (by omega),
      if_pos (by omega), Nat.add_sub_cancel_left]
    simp only [show 0xF0 + k = 0xF0 ↔ k = 0 by omega, show 0xF0 + k = 0xF4 ↔ k = 4 by omega]
  simp only [symbolsFrom, step, begin, hstart, List.nil_append]

section Further

variable {low high : Nat} (bits : Nat) (hlow : low ≤ 0x80 + k) (hhigh : 0x80 + k ≤ high)
  (hk : k < 0x40)

include hlow hhigh hk

/-- A further octet, within the bounds of the character that has begun. -/
theorem symbolsFrom_next (owed : Nat) :
    symbolsFrom (some ⟨owed + 2, low, high, bits⟩) ((0x80 + k).toUInt8 :: rest) =
      symbolsFrom (some ⟨owed + 1, 0x80, 0xBF, bits * 0x40 + k⟩) rest := by
  have hnext : Partial.next ⟨owed + 2, low, high, bits⟩ (0x80 + k).toUInt8 =
      .more ⟨owed + 1, 0x80, 0xBF, bits * 0x40 + k⟩ := by
    simp only [Partial.next, toNat_toUInt8 (show 0x80 + k < 256 by omega), Bool.or_eq_true,
      decide_eq_true_eq]
    rw [if_neg (by omega), if_neg (by omega), Nat.add_sub_cancel_left]
    rfl
  simp only [symbolsFrom, step, hnext, List.nil_append]

/-- The last octet of a character. -/
theorem symbolsFrom_last :
    symbolsFrom (some ⟨1, low, high, bits⟩) ((0x80 + k).toUInt8 :: rest) =
      some (Char.ofNat (bits * 0x40 + k)) :: symbolsFrom none rest := by
  have hnext : Partial.next ⟨1, low, high, bits⟩ (0x80 + k).toUInt8 =
      .char (Char.ofNat (bits * 0x40 + k)) := by
    simp only [Partial.next, toNat_toUInt8 (show 0x80 + k < 256 by omega), Bool.or_eq_true,
      decide_eq_true_eq]
    rw [if_neg (by omega), if_pos (by omega), Nat.add_sub_cancel_left]
  simp only [symbolsFrom, step, hnext, List.singleton_append]

end Further

end Octet

/-! ## Characters and texts -/

/-- The octets of a character are read back, whatever comes after them. -/
theorem symbolsFrom_encodeChar (c : Char) (rest : List UInt8) :
    symbolsFrom none (encodeChar c ++ rest) = some c :: symbolsFrom none rest := by
  rcases encodeChar_cases c with ⟨h, heq⟩ | ⟨hlow, h, heq⟩ | ⟨hlow, h, hscalar, heq⟩ |
    ⟨hlow, h, heq⟩
  · rw [heq, List.singleton_append, symbolsFrom_one rest h, Char.ofNat_toNat]
  · have hbits : c.toNat / 0x40 * 0x40 + c.toNat % 0x40 = c.toNat := by omega
    simp only [heq, List.cons_append, List.nil_append]
    rw [symbolsFrom_two _ (by omega) (by omega),
      symbolsFrom_last _ _ (by omega) (by omega) (by omega), hbits, Char.ofNat_toNat]
  · have hbits : (c.toNat / 0x1000 * 0x40 + c.toNat / 0x40 % 0x40) * 0x40 + c.toNat % 0x40 =
        c.toNat := by omega
    simp only [heq, List.cons_append, List.nil_append]
    rw [symbolsFrom_three _ (by omega),
      symbolsFrom_next _ _ (by split <;> omega) (by split <;> omega) (by omega),
      symbolsFrom_last _ _ (by omega) (by omega) (by omega), hbits, Char.ofNat_toNat]
  · have hbits : ((c.toNat / 0x40000 * 0x40 + c.toNat / 0x1000 % 0x40) * 0x40 +
        c.toNat / 0x40 % 0x40) * 0x40 + c.toNat % 0x40 = c.toNat := by omega
    simp only [heq, List.cons_append, List.nil_append]
    rw [symbolsFrom_four _ (by omega),
      symbolsFrom_next _ _ (by split <;> omega) (by split <;> omega) (by omega),
      symbolsFrom_next _ _ (by omega) (by omega) (by omega),
      symbolsFrom_last _ _ (by omega) (by omega) (by omega), hbits, Char.ofNat_toNat]

/-- What is written in UTF-8 is read back. -/
@[simp] theorem symbols_encode (s : List Char) : symbols (encode s) = s.map some := by
  induction s with
  | nil => rfl
  | cons c s ih =>
    have hencode : encode (c :: s) = encodeChar c ++ encode s := rfl
    rw [hencode, symbols, symbolsFrom_encodeChar, List.map_cons]
    exact congrArg _ ih

end JobWatch.Text.Utf8

import JobWatch.Proofs.Text.Utf8
import JobWatch.Url.Percent
import Mathlib.Data.List.Infix

/-!
# What percent-encoding keeps

Encoding the characters of a path does not change the octets that a text stands for
(`percentDecode_percentEncode`). A text stands for its own octets exactly if it shows none of them
after a percent sign (`percentDecode_eq_encode_iff`); otherwise it stands for fewer.
-/

namespace JobWatch.Url

open Text

/-- The text begins with an octet after a percent sign. -/
def startsWithOctet : List Char → Bool
  | '%' :: a :: b :: _ => (Hex.value? a).isSome && (Hex.value? b).isSome
  | _ => false

/-- The text shows an octet after a percent sign. -/
def HasOctet (s : List Char) : Prop := ∃ rest, rest <:+ s ∧ startsWithOctet rest

section Octets

variable {c a b : Char} {s : List Char} {x y : Nat}

@[simp] theorem not_hasOctet_nil : ¬ HasOctet [] := by
  simp [HasOctet, startsWithOctet]

theorem hasOctet_cons : HasOctet (c :: s) ↔ startsWithOctet (c :: s) ∨ HasOctet s := by
  simp only [HasOctet, List.suffix_cons_iff, or_and_right, exists_or, exists_eq_left]

theorem startsWithOctet_eq_true (h : startsWithOctet s) :
    ∃ a b x y rest, s = '%' :: a :: b :: rest ∧ Hex.value? a = some x ∧ Hex.value? b = some y := by
  unfold startsWithOctet at h
  split at h
  · next a b rest =>
    obtain ⟨ha, hb⟩ := Bool.and_eq_true_iff.1 h
    obtain ⟨x, hx⟩ := Option.isSome_iff_exists.1 ha
    obtain ⟨y, hy⟩ := Option.isSome_iff_exists.1 hb
    exact ⟨a, b, x, y, rest, rfl, hx, hy⟩
  · contradiction

theorem startsWithOctet_of_value (ha : Hex.value? a = some x) (hb : Hex.value? b = some y) :
    startsWithOctet ('%' :: a :: b :: s) := by
  simp [startsWithOctet, ha, hb]

theorem percentDecode_octet (ha : Hex.value? a = some x) (hb : Hex.value? b = some y) :
    percentDecode ('%' :: a :: b :: s) = (x * 16 + y).toUInt8 :: percentDecode s := by
  rw [percentDecode, ha, hb]

/-- A character that begins no encoded octet stands for its own octets. -/
theorem percentDecode_cons (h : startsWithOctet (c :: s) = false) :
    percentDecode (c :: s) = Utf8.encodeChar c ++ percentDecode s := by
  rw [percentDecode.eq_def]
  split
  · next a b rest heq =>
    obtain ⟨rfl, rfl⟩ := List.cons_eq_cons.1 heq
    split
    · next ha hb => exact absurd (startsWithOctet_of_value ha hb) (ne_true_of_eq_false h)
    · rfl
  · next heq =>
    obtain ⟨rfl, rfl⟩ := List.cons_eq_cons.1 heq
    rfl
  · contradiction

/-- A text is taken apart from the front: an octet after a percent sign where there is one, and
otherwise a character. -/
theorem octet_induction {P : List Char → Prop} (nil : P [])
    (octet : ∀ a b x y s, Hex.value? a = some x → Hex.value? b = some y → P s →
      P ('%' :: a :: b :: s))
    (char : ∀ c s, startsWithOctet (c :: s) = false → P s → P (c :: s)) (s : List Char) : P s := by
  induction hn : s.length using Nat.strong_induction_on generalizing s with
  | _ n ih =>
    cases s with
    | nil => exact nil
    | cons c s =>
      cases h : startsWithOctet (c :: s) with
      | false => exact char c s h (ih _ (by simp [← hn]) s rfl)
      | true =>
        obtain ⟨a, b, x, y, rest, heq, ha, hb⟩ := startsWithOctet_eq_true h
        rw [heq]
        exact octet a b x y rest ha hb (ih _ (by simp [← hn, heq]; omega) rest rfl)

end Octets

/-! ## Octets in UTF-8 -/

section Utf8

variable {s t : List Char}

theorem length_encodeChar_pos (c : Char) : 0 < (Utf8.encodeChar c).length := by
  rcases Utf8.encodeChar_cases c with ⟨-, h⟩ | ⟨-, -, h⟩ | ⟨-, -, -, h⟩ | ⟨-, -, h⟩ <;> simp [h]

theorem length_encode_cons (c : Char) (s : List Char) :
    (Utf8.encode (c :: s)).length = (Utf8.encodeChar c).length + (Utf8.encode s).length := by
  simp [Utf8.encode]

/-- Different texts have different octets. -/
theorem encode_injective (h : Utf8.encode s = Utf8.encode t) : s = t := by
  have hsymbols : s.map some = t.map some := by simpa using congrArg Utf8.symbols h
  exact List.map_inj_right (fun _ _ ↦ Option.some.inj) |>.1 hsymbols

/-- A part of a text has fewer octets than the text, unless it is all of it. -/
theorem length_encode_le (h : s.Sublist t) : (Utf8.encode s).length ≤ (Utf8.encode t).length := by
  induction h with
  | slnil => exact Nat.le_refl _
  | cons c _ ih => exact ih.trans (by rw [length_encode_cons]; omega)
  | cons_cons c _ ih => rw [length_encode_cons, length_encode_cons]; omega

theorem eq_of_length_encode_le (h : s.Sublist t)
    (hlength : (Utf8.encode t).length ≤ (Utf8.encode s).length) : s = t := by
  induction h with
  | slnil => rfl
  | cons c h _ =>
    have hle := length_encode_le h
    have hpos := length_encodeChar_pos c
    rw [length_encode_cons] at hlength
    omega
  | cons_cons c _ ih =>
    rw [length_encode_cons, length_encode_cons] at hlength
    exact congrArg (c :: ·) (ih (by omega))

end Utf8

/-! ## Decoding -/

/-- A text stands for fewer octets than it has where it shows one after a percent sign. -/
theorem percentDecode_eq_or_lt (s : List Char) :
    ¬ HasOctet s ∧ percentDecode s = Utf8.encode s ∨
      HasOctet s ∧ (percentDecode s).length < (Utf8.encode s).length := by
  induction s using octet_induction with
  | nil => exact .inl ⟨not_hasOctet_nil, rfl⟩
  | octet a b x y s ha hb ih =>
    refine .inr ⟨hasOctet_cons.2 (.inl (startsWithOctet_of_value ha hb)), ?_⟩
    have hle : (percentDecode s).length ≤ (Utf8.encode s).length := by
      rcases ih with ⟨-, h⟩ | ⟨-, h⟩
      · rw [h]
      · exact h.le
    have hpos := length_encodeChar_pos
    rw [percentDecode_octet ha hb, List.length_cons, length_encode_cons, length_encode_cons,
      length_encode_cons]
    grind
  | char c s h ih =>
    rw [hasOctet_cons, h, percentDecode_cons h]
    rcases ih with ⟨hnot, ih⟩ | ⟨hoctet, ih⟩
    · exact .inl ⟨by simp [hnot], by rw [ih]; rfl⟩
    · refine .inr ⟨.inr hoctet, ?_⟩
      rw [List.length_append, length_encode_cons]
      omega

/-- A text stands for its own octets exactly if it shows none of them after a percent sign. -/
theorem percentDecode_eq_encode_iff {s : List Char} :
    percentDecode s = Utf8.encode s ↔ ¬ HasOctet s := by
  rcases percentDecode_eq_or_lt s with ⟨hnot, h⟩ | ⟨hoctet, h⟩
  · simp [hnot, h]
  · simp only [hoctet, not_true_eq_false, iff_false]
    exact fun heq ↦ h.ne (congrArg List.length heq)

/-- Decoding makes a text no longer. -/
theorem length_percentDecode_le (s : List Char) :
    (percentDecode s).length ≤ (Utf8.encode s).length := by
  rcases percentDecode_eq_or_lt s with ⟨-, h⟩ | ⟨-, h⟩
  · rw [h]
  · exact h.le

/-! ## Encoding -/

section Encode

variable {c a b : Char} {s : List Char} {x : Nat}

theorem percentEncode_cons_of_mem {inSet : Char → Bool} (h : inSet c) :
    percentEncode inSet (c :: s) =
      (Utf8.encodeChar c).flatMap percentOctet ++ percentEncode inSet s := by
  simp [percentEncode, h]

theorem percentEncode_cons_of_not_mem {inSet : Char → Bool} (h : inSet c = false) :
    percentEncode inSet (c :: s) = c :: percentEncode inSet s := by
  simp [percentEncode, h]

theorem percentDecode_percentOctet (b : UInt8) :
    percentDecode (percentOctet b ++ s) = b :: percentDecode s := by
  have hb := b.toNat_lt
  have hhigh := Hex.value?_upper (n := b.toNat / 16) (by omega)
  have hlow := Hex.value?_upper (n := b.toNat % 16) (by omega)
  have hsum : b.toNat / 16 * 16 + b.toNat % 16 = b.toNat := by omega
  simp only [percentOctet, List.cons_append, List.nil_append]
  rw [percentDecode_octet hhigh hlow, hsum]
  simp

/-- Encoded octets are decoded, whatever comes after them. -/
theorem percentDecode_percentOctets (bytes : List UInt8) :
    percentDecode (bytes.flatMap percentOctet ++ s) = bytes ++ percentDecode s := by
  induction bytes with
  | nil => rfl
  | cons b bytes ih =>
    rw [List.flatMap_cons, List.append_assoc, percentDecode_percentOctet, ih, List.cons_append]

theorem inPathSet_eq_false_of_value (h : Hex.value? a = some x) : inPathSet a = false := by
  have hset : ∀ n < 128, (Hex.value? (Char.ofNat n)).isSome → inPathSet (Char.ofNat n) = false := by
    decide +kernel
  have hascii : a.toNat < 128 := by
    have hle (c d : Char) : c ≤ d ↔ c.toNat ≤ d.toNat := Iff.rfl
    grind [Hex.value?]
  simpa [h] using hset a.toNat hascii

/-- Encoding brings no slash into a text. -/
theorem slash_not_mem_percentEncode {inSet : Char → Bool} (h : '/' ∉ s) :
    '/' ∉ percentEncode inSet s := by
  intro hmem
  obtain ⟨c, hc, hmem⟩ := List.mem_flatMap.1 hmem
  split at hmem
  · obtain ⟨b, -, hmem⟩ := List.mem_flatMap.1 hmem
    have hdigit : ∀ n < 16, '/' ≠ Hex.upper n := by decide
    have hb := b.toNat_lt
    simp [percentOctet, hdigit _ (show b.toNat / 16 < 16 by omega),
      hdigit _ (show b.toNat % 16 < 16 by omega)] at hmem
  · exact h (List.mem_singleton.1 hmem ▸ hc)

/-- A hexadecimal digit in what is encoded was there before. -/
theorem eq_cons_of_percentEncode {rest : List Char} (h : percentEncode inPathSet s = a :: rest)
    (ha : Hex.value? a = some x) : ∃ t, s = a :: t ∧ rest = percentEncode inPathSet t := by
  cases s with
  | nil => contradiction
  | cons c s =>
    cases hc : inPathSet c with
    | false =>
      rw [percentEncode_cons_of_not_mem hc] at h
      obtain ⟨rfl, rfl⟩ := List.cons_eq_cons.1 h
      exact ⟨s, rfl, rfl⟩
    | true =>
      obtain ⟨octet, octets, hoctets⟩ :=
        List.exists_cons_of_ne_nil (List.ne_nil_of_length_pos (length_encodeChar_pos c))
      rw [percentEncode_cons_of_mem hc, hoctets] at h
      have hpercent : '%' = a := (List.cons_eq_cons.1 h).1
      have hnone : Hex.value? '%' = none := by decide
      simp [← hpercent, hnone] at ha

/-- Encoding does not make an octet after a percent sign out of other characters. -/
theorem startsWithOctet_percentEncode (h : startsWithOctet (c :: s) = false) :
    startsWithOctet (c :: percentEncode inPathSet s) = false := by
  by_contra hoctet
  obtain ⟨a, b, x, y, rest, heq, ha, hb⟩ :=
    startsWithOctet_eq_true (Bool.not_eq_false _ ▸ hoctet)
  obtain ⟨rfl, hs⟩ := List.cons_eq_cons.1 heq
  obtain ⟨t, rfl, ht⟩ := eq_cons_of_percentEncode hs ha
  obtain ⟨t, rfl, -⟩ := eq_cons_of_percentEncode ht.symm hb
  exact absurd (startsWithOctet_of_value ha hb) (ne_true_of_eq_false h)

/-- Encoding a path does not change the octets that it stands for. -/
theorem percentDecode_percentEncode (s : List Char) :
    percentDecode (percentEncode inPathSet s) = percentDecode s := by
  induction s using octet_induction with
  | nil => rfl
  | octet a b x y s ha hb ih =>
    have hpercent : inPathSet '%' = false := by decide
    rw [percentEncode_cons_of_not_mem hpercent,
      percentEncode_cons_of_not_mem (inPathSet_eq_false_of_value ha),
      percentEncode_cons_of_not_mem (inPathSet_eq_false_of_value hb),
      percentDecode_octet ha hb, percentDecode_octet ha hb, ih]
  | char c s h ih =>
    cases hc : inPathSet c with
    | true =>
      rw [percentEncode_cons_of_mem hc, percentDecode_percentOctets, ih, percentDecode_cons h]
    | false =>
      rw [percentEncode_cons_of_not_mem hc,
        percentDecode_cons (startsWithOctet_percentEncode h), ih, percentDecode_cons h]

end Encode

end JobWatch.Url

import JobWatch.Proofs.Text.Run
import JobWatch.Text.CaseFold
import Mathlib.Computability.Language

/-!
# Phrases at the start of a text

A set of phrases is a `Language`: phrases that follow one another are a product, and a choice is a
sum. A text opens with a phrase (`Opens`) if it is a phrase and then a rest of which something more
is said. This takes a long phrase apart from the front (`opens_mul`), and it tells why a run of
characters may be taken whole: what comes after the run does not begin like it (`opens_run`).

The words of a phrase are compared up to simple case folding (`opens_anyCase`).
-/

namespace JobWatch.Text

/-- A text is a phrase of the language, and then a rest of the given kind. -/
def Opens (L : Language Char) (K : List Char → Prop) (s : List Char) : Prop :=
  ∃ m ∈ L, ∃ rest, s = m ++ rest ∧ K rest

def maybe (L : Language Char) : Language Char := 1 + L

def anyOf (cs : List Char) : Language Char := {m | ∃ c ∈ cs, m = [c]}

def run (p : Char → Bool) : Language Char := {m | m ≠ [] ∧ m.all p}

/-- The ways to write a lower-case letter of ASCII, up to simple case folding: the letter itself,
its upper case, and for two of the letters one more character. -/
def spellings (l : Char) : List Char :=
  l :: l.toUpper :: (if l = 's' then ['\u017F'] else if l = 'k' then ['\u212A'] else [])

/-- A word, given in lower case, in any case. -/
def anyCase (w : String) : Language Char := {m | List.Forall₂ (· ∈ spellings ·) m w.toList}

section Opens

variable {L M : Language Char} {K K' : List Char → Prop} {s : List Char}

/-- What is said of the rest may be weakened. -/
theorem Opens.mono (h : Opens L K s) (hK : ∀ rest, K rest → K' rest) : Opens L K' s := by
  obtain ⟨m, hm, rest, hs, hrest⟩ := h
  exact ⟨m, hm, rest, hs, hK rest hrest⟩

/-- A text of which no more is said begins with a phrase. -/
theorem opens_true : Opens L (fun _ ↦ True) s ↔ ∃ m ∈ L, m <+: s := by
  simp only [Opens, and_true, List.IsPrefix, eq_comm]

theorem opens_exists {ι : Type} {K : ι → List Char → Prop} :
    Opens L (fun rest ↦ ∃ i, K i rest) s ↔ ∃ i, Opens L (K i) s := by
  constructor
  · rintro ⟨m, hm, rest, hs, i, hrest⟩
    exact ⟨i, m, hm, rest, hs, hrest⟩
  · rintro ⟨i, m, hm, rest, hs, hrest⟩
    exact ⟨m, hm, rest, hs, i, hrest⟩

/-- A product is a phrase, and then another one. -/
theorem opens_mul : Opens (L * M) K s ↔ Opens L (Opens M K) s := by
  constructor
  · rintro ⟨_, hm, rest, rfl, hrest⟩
    obtain ⟨a, ha, b, hb, rfl⟩ := Language.mem_mul.1 hm
    exact ⟨a, ha, b ++ rest, by simp, b, hb, rest, rfl, hrest⟩
  · rintro ⟨a, ha, _, rfl, b, hb, rest, rfl, hrest⟩
    exact ⟨a ++ b, Language.append_mem_mul ha hb, rest, by simp, hrest⟩

theorem Opens.exists_mul {ι : Type} {N : ι → Language Char} (h : Opens (L * M) K s)
    (hM : ∀ rest, Opens M K rest → ∃ i, Opens (N i) K' rest) : ∃ i, Opens (L * N i) K' s := by
  obtain ⟨i, h⟩ := opens_exists.1 ((opens_mul.1 h).mono hM)
  exact ⟨i, opens_mul.2 h⟩

/-- A sum is one phrase or the other. -/
theorem opens_add : Opens (L + M) K s ↔ Opens L K s ∨ Opens M K s := by
  simp only [Opens, Language.mem_add, or_and_right, exists_or]

theorem opens_maybe : Opens (maybe L) K s ↔ K s ∨ Opens L K s := by
  rw [maybe, opens_add]
  simp [Opens, Language.mem_one]

theorem opens_anyOf {cs : List Char} :
    Opens (anyOf cs) K s ↔ ∃ c ∈ cs, ∃ rest, s = c :: rest ∧ K rest := by
  constructor
  · rintro ⟨_, ⟨c, hc, rfl⟩, rest, hs, hrest⟩
    exact ⟨c, hc, rest, hs, hrest⟩
  · rintro ⟨c, hc, rest, hs, hrest⟩
    exact ⟨[c], ⟨c, hc, rfl⟩, rest, hs, hrest⟩

/-! ## First characters -/

/-- Every phrase of the language has a first character, of the given kind. -/
def Begins (L : Language Char) (P : Char → Prop) : Prop := ∀ m ∈ L, ∃ c rest, m = c :: rest ∧ P c

section Begins

variable {P : Char → Prop} {p : Char → Bool}

/-- A text that opens with a phrase does not begin with another character than the phrase. -/
theorem Begins.stopsAt (hL : Begins L P) (hP : ∀ c, P c → p c = false) (h : Opens L K s) :
    StopsAt p s := by
  obtain ⟨m, hm, rest, rfl, -⟩ := h
  obtain ⟨c, m, rfl, hc⟩ := hL m hm
  exact stopsAt_cons _ (hP c hc)

theorem Begins.stopsAt_of_all {cs : List Char} (hL : Begins L (· ∈ cs)) (hcs : cs.all (!p ·))
    (h : Opens L K s) : StopsAt p s :=
  hL.stopsAt (fun _ ↦ eq_false_of_all hcs) h

theorem Begins.stopsAt_maybe (hL : Begins L P) (hP : ∀ c, P c → p c = false)
    (hK : K s → StopsAt p s) (h : Opens (maybe L) K s) : StopsAt p s := by
  rcases opens_maybe.1 h with h | h
  · exact hK h
  · exact hL.stopsAt hP h

theorem begins_anyOf (cs : List Char) : Begins (anyOf cs) (· ∈ cs) := by
  rintro _ ⟨c, hc, rfl⟩
  exact ⟨c, [], rfl, hc⟩

theorem begins_run (p : Char → Bool) : Begins (run p) (p ·) := by
  rintro m ⟨hne, hall⟩
  obtain ⟨c, m, rfl⟩ := List.exists_cons_of_ne_nil hne
  exact ⟨c, m, rfl, (List.all_eq_true.1 hall) c List.mem_cons_self⟩

theorem begins_anyCase {w : String} {l : Char} (hw : w.toList.head? = some l) :
    Begins (anyCase w) (· ∈ spellings l) := by
  obtain ⟨ls, hls⟩ := List.head?_eq_some_iff.1 hw
  intro m hm
  have hm : List.Forall₂ (· ∈ spellings ·) m (l :: ls) := hls ▸ hm
  obtain ⟨c, m, hc, -, rfl⟩ := List.forall₂_cons_right_iff.1 hm
  exact ⟨c, m, rfl, hc⟩

end Begins

/-! ## Runs -/

section Run

variable {p : Char → Bool} (hK : ∀ rest, K rest → StopsAt p rest)

include hK

/-- What follows the run does not begin like it, so the run is taken whole. -/
theorem opens_run : Opens (run p) K s ↔ s.takeWhile p ≠ [] ∧ K (s.dropWhile p) := by
  constructor
  · rintro ⟨m, ⟨hne, hall⟩, rest, rfl, hrest⟩
    rw [takeWhile_run hall (hK rest hrest), dropWhile_run hall (hK rest hrest)]
    exact ⟨hne, hrest⟩
  · rintro ⟨hne, hrest⟩
    exact ⟨s.takeWhile p, ⟨hne, List.all_takeWhile⟩, s.dropWhile p, by simp, hrest⟩

/-- A run that may be missing is taken whole if what follows does not begin like it. -/
theorem opens_maybe_run : Opens (maybe (run p)) K s ↔ K (s.dropWhile p) := by
  rw [opens_maybe, opens_run hK]
  constructor
  · rintro (hs | ⟨-, hs⟩)
    · have hdrop : s.dropWhile p = s := @dropWhile_run p [] s rfl (hK s hs)
      rwa [hdrop]
    · exact hs
  · intro hs
    by_cases hne : s.takeWhile p = []
    · have hdrop : s.dropWhile p = s := by
        simpa [hne] using List.takeWhile_append_dropWhile (p := p) (l := s)
      exact .inl (hdrop ▸ hs)
    · exact .inr ⟨hne, hs⟩

end Run

/-! ## Words -/

theorem val_toLower (c : Char) :
    c.toLower.val = if 'A'.val ≤ c.val ∧ c.val ≤ 'Z'.val then c.val + 32 else c.val := by
  unfold Char.toLower
  split <;> rfl

theorem val_toUpper (c : Char) :
    c.toUpper.val = if 'a'.val ≤ c.val ∧ c.val ≤ 'z'.val then c.val - 32 else c.val := by
  have hgap : 'A'.val - 'a'.val = -32 := by decide
  unfold Char.toUpper
  split
  · simp only [hgap, UInt32.sub_eq_add_neg]
  · rfl

/-- A character becomes a lower-case letter exactly if it is the letter or its upper case. -/
theorem toLower_eq_iff {c l : Char} (hl : l.isLower) : c.toLower = l ↔ c = l ∨ c = l.toUpper := by
  obtain ⟨hleast, hmost⟩ := Bool.and_eq_true_iff.1 hl
  have hlower : 'a'.val ≤ l.val ∧ l.val ≤ 'z'.val :=
    ⟨of_decide_eq_true hleast, of_decide_eq_true hmost⟩
  simp only [Char.ext_iff, val_toLower, val_toUpper, if_pos hlower]
  split <;> grind

/-- A character folds to a lower-case letter exactly if it is one of its spellings. -/
theorem foldCase_eq_iff {c l : Char} (hl : l.isLower) : foldCase c = l ↔ c ∈ spellings l := by
  have hs : '\u017F' ≠ l := by rintro rfl; exact absurd hl (by decide)
  have hk : '\u212A' ≠ l := by rintro rfl; exact absurd hl (by decide)
  have hmore : c ∈ (if l = 's' then ['\u017F'] else if l = 'k' then ['\u212A'] else []) ↔
      c = '\u017F' ∧ 's' = l ∨ c = '\u212A' ∧ 'k' = l := by
    grind
  rw [foldCase, spellings, List.mem_cons, List.mem_cons, hmore, ← or_assoc, ← toLower_eq_iff hl]
  by_cases hlong : c = '\u017F'
  · subst hlong
    simp [hs]
  · by_cases hkelvin : c = '\u212A'
    · subst hkelvin
      simp [hk]
    · simp [hlong, hkelvin]

/-- A word is read from a text that begins with spellings of its letters. -/
theorem word?_eq_some_iff {w rest : List Char} (hw : ∀ l ∈ w, l.isLower) :
    word? w s = some rest ↔ ∃ m, List.Forall₂ (· ∈ spellings ·) m w ∧ s = m ++ rest := by
  induction w generalizing s with
  | nil => simp [word?]
  | cons l w ih =>
    obtain ⟨hl, hw⟩ := List.forall_mem_cons.1 hw
    cases s with
    | nil => simp [word?, List.forall₂_cons_right_iff]
    | cons c s =>
      by_cases hc : c ∈ spellings l
      · rw [word?, if_pos ((foldCase_eq_iff hl).2 hc), ih hw]
        constructor
        · rintro ⟨m, hm, rfl⟩
          exact ⟨c :: m, .cons hc hm, rfl⟩
        · rintro ⟨_, hm, hs⟩
          obtain ⟨d, m, -, htail, rfl⟩ := List.forall₂_cons_right_iff.1 hm
          exact ⟨m, htail, (List.cons_eq_cons.1 hs).2⟩
      · rw [word?, if_neg fun h ↦ hc ((foldCase_eq_iff hl).1 h)]
        simp only [reduceCtorEq, false_iff, not_exists, not_and]
        rintro _ hm hs
        obtain ⟨d, m, hd, -, rfl⟩ := List.forall₂_cons_right_iff.1 hm
        exact hc ((List.cons_eq_cons.1 hs).1 ▸ hd)

/-- A text begins with a word in any case exactly if the word is read from it. -/
theorem opens_anyCase {w : String} (hw : w.toList.all Char.isLower) :
    Opens (anyCase w) K s ↔ ∃ rest, word? w.toList s = some rest ∧ K rest := by
  simp only [word?_eq_some_iff (List.all_eq_true.1 hw)]
  constructor
  · rintro ⟨m, hm, rest, hs, hrest⟩
    exact ⟨rest, ⟨m, hm, hs⟩, hrest⟩
  · rintro ⟨rest, ⟨m, hm, hs⟩, hrest⟩
    exact ⟨m, hm, rest, hs, hrest⟩

end Opens

end JobWatch.Text

import JobWatch.Logs.AutoFix
import JobWatch.Proofs.Text.Phrase

/-!
# The phrases of automatic repair

The phrases that a line is searched for are given as languages, and detection is shown to follow
them: the leftmost announcement of an attempt decides, or else any phrase after which a repair is
over (`detect_follows_grammar`).

A phrase is read from the front without a second try. This loses nothing because a part that may be
missing or repeated never begins like what follows it: no blank is a digit or begins a word, and no
two words that compete begin with the same letter. So each part is taken as far as it goes, and the
languages and the readers agree (`opens_attemptPhrase_iff`, `opens_clearPhrase_iff`).
-/

namespace JobWatch.AutoFix

open Text

/-! ## The grammar -/

def gap : Language Char := run isBlank

/-- A number in the digits of any script. -/
def numeral (ds : List Char) : Language Char := {m | m = ds ∧ m ∈ run isDecimalDigit}

/-- What stands between the number of an attempt and of how many there are. -/
def between : Language Char := anyOf ['/'] + anyCase "of"

/-- The number of an attempt, and of how many there are. -/
def countPhrase (x y : List Char) : Language Char :=
  maybe (anyOf ['#']) * numeral x * maybe gap * between * maybe gap * numeral y

/-- The phrases that announce an attempt, with the digits of its number and of how many there
are. -/
def attemptPhrase (x y : List Char) : Language Char :=
  anyCase "auto" * maybe (anyOf ['-', ' ']) * anyCase "fix" * maybe (anyCase "ing") * gap *
    anyCase "attempt" * gap * countPhrase x y

/-- The phrases after which a repair is over. -/
def clearPhrase : Language Char :=
  anyCase "running" * gap * anyCase "health" * gap * anyCase "check" * maybe (anyCase "s") +
  anyCase "health" * gap * anyCase "check" * maybe (anyCase "s") * gap *
    (anyCase "starting" + anyCase "running" + anyCase "started") +
  anyCase "starting" * gap * maybe (anyCase "the" * gap) * anyCase "dev" * gap * anyCase "server" +
  anyCase "dev" * gap * anyCase "server" * gap * anyCase "starting"

/-! ## Reading from the front -/

section Front

variable {L : Language Char} {K : List Char → Prop} {s : List Char}

/-- A text begins with a word, in any case, exactly if the reader of the word gets through. -/
theorem opens_word {w : String} (hw : w.toList.all Char.isLower) :
    Opens (anyCase w) K s ↔ ∃ rest, word w s = some rest ∧ K rest := opens_anyCase hw

theorem opens_oneOf {cs : List Char} :
    Opens (anyOf cs) K s ↔ ∃ rest, oneOf cs s = some rest ∧ K rest := by
  rw [opens_anyOf]
  cases s with
  | nil => simp [oneOf]
  | cons c s => by_cases hc : c ∈ cs <;> simp [oneOf, hc]

theorem opens_gap (hK : ∀ rest, K rest → StopsAt isBlank rest) :
    Opens gap K s ↔ ∃ rest, blanks s = some rest ∧ K rest := by
  rw [gap, opens_run hK]
  cases s with
  | nil => simp [blanks]
  | cons c s => by_cases hc : isBlank c <;> simp [blanks, skipBlanks, hc]

/-- A word that begins with none of the characters of a kind stops a run of them. -/
theorem stopsAt_word {w : String} {p : Char → Bool}
    (hw : w.toList.head?.any fun l ↦ (spellings l).all (!p ·)) (h : Opens (anyCase w) K s) :
    StopsAt p s := by
  obtain ⟨l, hl, hall⟩ := Option.any_eq_true _ _ |>.1 hw
  exact (begins_anyCase hl).stopsAt_of_all hall h

theorem opens_gap_word {w : String}
    (hw : w.toList.head?.any fun l ↦ (spellings l).all (!isBlank ·)) :
    Opens gap (Opens (anyCase w) K) s ↔
      ∃ rest, blanks s = some rest ∧ Opens (anyCase w) K rest :=
  opens_gap fun _ ↦ stopsAt_word hw

theorem opens_maybe_gap (hK : ∀ rest, K rest → StopsAt isBlank rest) :
    Opens (maybe gap) K s ↔ K (skipBlanks s) := opens_maybe_run hK

/-- The digits of a number are read whole if no digit follows them. -/
theorem opens_numeral {ds : List Char} (hK : ∀ rest, K rest → StopsAt isDecimalDigit rest) :
    Opens (numeral ds) K s ↔ ∃ rest, digits s = some (ds, rest) ∧ K rest := by
  have hdigits (rest : List Char) : digits s = some (ds, rest) ↔
      s.takeWhile isDecimalDigit = ds ∧ ds ≠ [] ∧ s.dropWhile isDecimalDigit = rest := by
    simp only [digits, List.isEmpty_iff]
    grind
  simp only [hdigits]
  constructor
  · rintro ⟨_, ⟨rfl, hne, hall⟩, rest, rfl, hrest⟩
    exact ⟨rest, ⟨takeWhile_run hall (hK rest hrest), hne, dropWhile_run hall (hK rest hrest)⟩,
      hrest⟩
  · rintro ⟨rest, ⟨rfl, hne, rfl⟩, hrest⟩
    exact ⟨_, ⟨rfl, hne, List.all_takeWhile⟩, _, by simp, hrest⟩

/-- A part that may be missing is there whenever the text begins with it, if what follows never
does. -/
theorem opens_optional {p : Reader} (hp : Opens L K s ↔ ∃ rest, p s = some rest ∧ K rest)
    (hK : K s → p s = none) : Opens (maybe L) K s ↔ K (optional p s) := by
  rw [opens_maybe, hp, optional]
  cases h : p s with
  | none => simp
  | some rest =>
    have hnot : ¬ K s := fun hs ↦ by simp [hK hs] at h
    simp [hnot]

theorem oneOf_eq_none {cs : List Char} (h : StopsAt (cs.contains ·) s) : oneOf cs s = none := by
  cases s with
  | nil => rfl
  | cons c s =>
    have hc : cs.contains c = false := h c rfl
    rw [oneOf, hc, if_neg Bool.false_ne_true]

theorem word_eq_none {w : String} {l : Char} (hw : w.toList.all Char.isLower)
    (hl : w.toList.head? = some l) (h : StopsAt ((spellings l).contains ·) s) :
    word w s = none := by
  obtain ⟨ls, hls⟩ := List.head?_eq_some_iff.1 hl
  rw [hls, List.all_cons, Bool.and_eq_true] at hw
  rw [word, hls]
  cases s with
  | nil => rfl
  | cons c s =>
    have hc : c ∉ spellings l := by simpa using h c rfl
    rw [word?, if_neg fun hfold ↦ hc ((foldCase_eq_iff hw.1).1 hfold)]

theorem contains_eq_false {cs : List Char} {p : Char → Bool} {c : Char} (hcs : cs.all (!p ·))
    (hc : p c) : cs.contains c = false := by
  by_contra hmem
  have hnot := eq_false_of_all hcs (c := c) (by simpa using hmem)
  exact Bool.false_ne_true (hnot.symm.trans hc)

theorem opens_maybe_word_gap {w : String} (hw : w.toList.all Char.isLower)
    (hblank : w.toList.head?.any fun l ↦ (spellings l).all (!isBlank ·)) :
    Opens (maybe (anyCase w)) (Opens gap K) s ↔ Opens gap K (optional (word w) s) := by
  obtain ⟨l, hl, hblank⟩ := Option.any_eq_true _ _ |>.1 hblank
  exact opens_optional (opens_word hw) fun h ↦ word_eq_none hw hl
    ((begins_run isBlank).stopsAt (fun _ ↦ contains_eq_false hblank) h)

end Front

theorem isBlank_of_isDecimalDigit {c : Char} (h : isDecimalDigit c) : isBlank c = false := by
  by_contra hblank
  have hcode : c.toNat ∈ [0x09, 0x0A, 0x0B, 0x0C, 0x0D, 0x20, 0x85, 0xA0, 0x1680, 0x2000, 0x2001,
      0x2002, 0x2003, 0x2004, 0x2005, 0x2006, 0x2007, 0x2008, 0x2009, 0x200A, 0x2028, 0x2029,
      0x202F, 0x205F, 0x3000] := by
    simp only [isBlank, Bool.not_eq_false, Bool.or_eq_true, Bool.and_eq_true, decide_eq_true_eq,
      beq_iff_eq] at hblank
    simp only [List.mem_cons, List.not_mem_nil, or_false]
    omega
  have hnone : ∀ n ∈ [0x09, 0x0A, 0x0B, 0x0C, 0x0D, 0x20, 0x85, 0xA0, 0x1680, 0x2000, 0x2001,
      0x2002, 0x2003, 0x2004, 0x2005, 0x2006, 0x2007, 0x2008, 0x2009, 0x200A, 0x2028, 0x2029,
      0x202F, 0x205F, 0x3000], decimalDigitRanges.contains n = false := by decide
  exact Bool.false_ne_true ((hnone _ hcode).symm.trans h)

/-! ## An attempt -/

section Attempt

variable {K : List Char → Prop} {x y s : List Char}

theorem begins_numeral (ds : List Char) : Begins (numeral ds) (isDecimalDigit ·) :=
  fun m hm ↦ begins_run isDecimalDigit m hm.2

theorem stopsAt_of_digits {ds rest : List Char} (h : digits s = some (ds, rest)) :
    StopsAt isDecimalDigit rest := by
  have hrest : s.dropWhile isDecimalDigit = rest := by
    simp only [digits] at h
    grind
  exact hrest ▸ stopsAt_dropWhile isDecimalDigit s

theorem begins_between : Begins between (· ∈ '/' :: spellings 'o') := by
  rintro m (hm | hm)
  · obtain ⟨c, rest, hs, hc⟩ := begins_anyOf ['/'] m hm
    exact ⟨c, rest, hs, List.mem_cons.2 (.inl (List.mem_singleton.1 hc))⟩
  · obtain ⟨c, rest, hs, hc⟩ := @begins_anyCase "of" 'o' (by decide) m hm
    exact ⟨c, rest, hs, List.mem_cons.2 (.inr hc)⟩

/-- What stands between the two numbers begins neither like white space nor like a digit. -/
theorem stopsAt_between (h : Opens between K s) :
    StopsAt isBlank s ∧ StopsAt isDecimalDigit s :=
  ⟨begins_between.stopsAt_of_all (by decide) h, begins_between.stopsAt_of_all (by decide) h⟩

theorem opens_between :
    Opens between K s ↔ ∃ rest, (oneOf ['/'] s <|> word "of" s) = some rest ∧ K rest := by
  rw [between, opens_add, opens_oneOf, opens_word (by decide)]
  cases hslash : oneOf ['/'] s with
  | none => simp
  | some rest =>
    -- no spelling of the word begins with the slash, so the two readers never both succeed
    have hof : word "of" s = none := by
      obtain ⟨c, s, rfl⟩ : ∃ c rest, s = c :: rest := by
        cases s with
        | nil => simp [oneOf] at hslash
        | cons c s => exact ⟨c, s, rfl⟩
      have hc : c = '/' := by
        by_contra hne
        simp [oneOf, hne] at hslash
      subst hc
      exact word_eq_none (l := 'o') (by decide) (by decide) (stopsAt_cons s (by decide))
    simp [hof]

/-- A text begins with two counts exactly if the reader gets through each of their parts, in order.
-/
theorem opens_countPhrase_iff : Opens (countPhrase x y) (StopsAt isDecimalDigit) s ↔
    ∃ r₁, digits (optional (oneOf ['#']) s) = some (x, r₁) ∧
      ∃ r₂, (oneOf ['/'] (skipBlanks r₁) <|> word "of" (skipBlanks r₁)) = some r₂ ∧
        ∃ r₃, digits (skipBlanks r₂) = some (y, r₃) := by
  have hmost (s : List Char) : Opens (maybe gap) (Opens (numeral y) (StopsAt isDecimalDigit)) s ↔
      ∃ rest, digits (skipBlanks s) = some (y, rest) := by
    rw [opens_maybe_gap fun _ ↦ (begins_numeral y).stopsAt fun _ ↦ isBlank_of_isDecimalDigit,
      opens_numeral fun _ h ↦ h]
    exact exists_congr fun rest ↦ and_iff_left_of_imp stopsAt_of_digits
  have hof (K : List Char → Prop) (s : List Char) :
      Opens (maybe gap) (Opens between K) s ↔
        ∃ rest, (oneOf ['/'] (skipBlanks s) <|> word "of" (skipBlanks s)) = some rest ∧ K rest := by
    rw [opens_maybe_gap fun _ h ↦ (stopsAt_between h).1, opens_between]
  have hnumber (K : List Char → Prop) (s : List Char) :
      Opens (numeral x) (Opens (maybe gap) (Opens between K)) s ↔
        ∃ rest, digits s = some (x, rest) ∧ Opens (maybe gap) (Opens between K) rest := by
    refine opens_numeral fun _ ↦ (begins_run isBlank).stopsAt_maybe (fun c hc ↦ ?_)
      fun h ↦ (stopsAt_between h).2
    by_contra hdigit
    rw [isBlank_of_isDecimalDigit (by simpa using hdigit)] at hc
    contradiction
  have hmark (K : List Char → Prop) (s : List Char) :
      Opens (maybe (anyOf ['#'])) (Opens (numeral x) K) s ↔
        Opens (numeral x) K (optional (oneOf ['#']) s) := by
    exact opens_optional opens_oneOf fun h ↦
      oneOf_eq_none ((begins_numeral x).stopsAt (fun _ ↦ contains_eq_false (by decide)) h)
  simp only [countPhrase, opens_mul, hmark, hnumber, hof, hmost]

theorem stopsAt_countPhrase (h : Opens (countPhrase x y) K s) : StopsAt isBlank s := by
  simp only [countPhrase, opens_mul] at h
  exact (begins_anyOf ['#']).stopsAt_maybe (by simp; decide)
    ((begins_numeral x).stopsAt fun _ ↦ isBlank_of_isDecimalDigit) h

/-- The announcement of an attempt is read from the front without a second try at any part of
it. -/
theorem opens_attemptPhrase_iff :
    Opens (attemptPhrase x y) (StopsAt isDecimalDigit) s ↔ attemptAt s = some (x, y) := by
  have hmark (K : List Char → Prop) (s : List Char) :
      Opens (maybe (anyOf ['-', ' '])) (Opens (anyCase "fix") K) s ↔
        Opens (anyCase "fix") K (optional (oneOf ['-', ' ']) s) :=
    opens_optional opens_oneOf fun h ↦ oneOf_eq_none (stopsAt_word (by decide) h)
  have hcount (s : List Char) :
      Opens gap (Opens (countPhrase x y) (StopsAt isDecimalDigit)) s ↔
        ∃ rest, blanks s = some rest ∧ Opens (countPhrase x y) (StopsAt isDecimalDigit) rest :=
    opens_gap fun _ ↦ stopsAt_countPhrase
  simp (disch := decide) only [attemptPhrase, opens_mul, opens_word, hmark, opens_maybe_word_gap,
    opens_gap_word, hcount, opens_countPhrase_iff]
  simp only [attemptAt, Option.bind_eq_bind, Option.bind_eq_some_iff, Prod.exists]
  constructor
  · rintro ⟨_, hauto, _, hfix, _, hgap, _, hattempt, _, hgap', _, hx, _, hof, _, hy⟩
    exact ⟨_, hauto, _, hfix, _, hgap, _, hattempt, _, hgap', _, _, hx, _, hof, _, _, hy, rfl⟩
  · rintro ⟨_, hauto, _, hfix, _, hgap, _, hattempt, _, hgap', _, _, hx, _, hof, _, _, hy, hxy⟩
    cases hxy
    exact ⟨_, hauto, _, hfix, _, hgap, _, hattempt, _, hgap', _, hx, _, hof, _, hy⟩

/-- Where the digits of the last number stop short of more digits, all of them can be taken. -/
theorem exists_opens_attemptPhrase (h : Opens (attemptPhrase x y) (fun _ ↦ True) s) :
    ∃ y', Opens (attemptPhrase x y') (StopsAt isDecimalDigit) s := by
  -- what comes before the last number stays as it is
  refine h.exists_mul fun rest h ↦ h.exists_mul fun rest h ↦ ?_
  obtain ⟨ds, ⟨-, hne, hall⟩, after, rfl, -⟩ := h
  refine ⟨ds ++ after.takeWhile isDecimalDigit, _, ⟨rfl, by simp [hne], ?_⟩,
    after.dropWhile isDecimalDigit, by simp, ?_⟩
  · rw [List.all_append, hall, List.all_takeWhile, Bool.and_self]
  · exact stopsAt_dropWhile _ after

end Attempt

/-! ## The end of a repair -/

section Clear

variable {K : List Char → Prop} {s : List Char}

theorem opens_the : Opens (maybe (anyCase "the" * gap)) (Opens (anyCase "dev") K) s ↔
    Opens (anyCase "dev") K (optional (fun s ↦ (word "the" s).bind blanks) s) := by
  refine opens_optional ?_ fun h ↦ ?_
  · simp (disch := decide) only [opens_mul, opens_word, opens_gap_word, Option.bind_eq_some_iff]
    constructor
    · rintro ⟨_, hthe, _, hgap, hdev⟩
      exact ⟨_, ⟨_, hthe, hgap⟩, hdev⟩
    · rintro ⟨_, ⟨_, hthe, hgap⟩, hdev⟩
      exact ⟨_, hthe, _, hgap, hdev⟩
  · have hthe : word "the" s = none :=
      word_eq_none (l := 't') (by decide) (by decide) (stopsAt_word (by decide) h)
    rw [hthe, Option.bind_none]

theorem opens_gap_the :
    Opens gap (Opens (maybe (anyCase "the" * gap)) (Opens (anyCase "dev") K)) s ↔
      ∃ rest, blanks s = some rest ∧
        Opens (maybe (anyCase "the" * gap)) (Opens (anyCase "dev") K) rest := by
  refine opens_gap fun rest h ↦ ?_
  rcases opens_maybe.1 h with h | h
  · exact stopsAt_word (by decide) h
  · exact stopsAt_word (by decide) (opens_mul.1 h)

theorem opens_gap_state :
    Opens gap (Opens (anyCase "starting" + anyCase "running" + anyCase "started") K) s ↔
      ∃ rest, blanks s = some rest ∧
        Opens (anyCase "starting" + anyCase "running" + anyCase "started") K rest := by
  refine opens_gap fun rest h ↦ ?_
  simp only [opens_add] at h
  rcases h with (h | h) | h
  · exact stopsAt_word (by decide) h
  · exact stopsAt_word (by decide) h
  · exact stopsAt_word (by decide) h

/-- A text begins with a phrase that ends a repair exactly if the reader says so. -/
theorem opens_clearPhrase_iff : Opens clearPhrase (fun _ ↦ True) s ↔ clearsAt s := by
  have hchecks (s : List Char) : Opens (maybe (anyCase "s")) (fun _ ↦ True) s ↔ True := by
    simp [opens_maybe]
  simp (disch := decide) only [clearPhrase, opens_add, opens_mul, opens_word, opens_gap_word,
    opens_maybe_word_gap, opens_the, opens_gap_the, opens_gap_state, hchecks]
  simp only [clearsAt, phrase, Bool.or_eq_true, Option.bind_assoc, Option.isSome_bind,
    Option.any_eq_true, Option.orElse_eq_orElse, Option.orElse_eq_or, Option.isSome_or,
    Option.isSome_iff_exists, and_true, or_assoc]

end Clear

/-! ## The first place -/

section First

variable {α : Type} {f : List Char → Option α} {s : List Char}

/-- A reader finds nothing exactly if it fails at every place of the text. -/
theorem firstSome_eq_none_iff : firstSome f s = none ↔ ∀ rest, rest <:+ s → f rest = none := by
  induction s with
  | nil => simp [firstSome]
  | cons c s ih => simp [firstSome, ih, List.suffix_cons_iff]

/-- What a reader finds first is what it reads at some place, and at no earlier place does it get
through. -/
theorem firstSome_eq_some_iff {a : α} : firstSome f s = some a ↔
    ∃ before rest, s = before ++ rest ∧ f rest = some a ∧
      ∀ earlier later, s = earlier ++ later → earlier.length < before.length → f later = none := by
  constructor
  · intro h
    induction s with
    | nil => exact ⟨[], [], rfl, h, by simp⟩
    | cons c s ih =>
      cases hc : f (c :: s) with
      | some b =>
        have hb : b = a := by simpa [firstSome, hc] using h
        exact ⟨[], c :: s, rfl, hb ▸ hc, by simp⟩
      | none =>
        obtain ⟨before, rest, rfl, hrest, hfirst⟩ := ih (by simpa [firstSome, hc] using h)
        refine ⟨c :: before, rest, rfl, hrest, fun earlier later hs hlength ↦ ?_⟩
        cases earlier with
        | nil => exact List.nil_append later ▸ hs ▸ hc
        | cons d earlier =>
          exact hfirst earlier later (List.cons_eq_cons.1 hs).2 (Nat.lt_of_succ_lt_succ hlength)
  · rintro ⟨before, rest, rfl, hrest, hfirst⟩
    induction before with
    | nil => cases rest <;> simp_all [firstSome]
    | cons c before ih =>
      have hc : f (c :: (before ++ rest)) = none := hfirst [] _ rfl (by simp)
      have htail := ih fun earlier later hs hlength ↦
        hfirst (c :: earlier) later (congrArg (c :: ·) hs) (Nat.succ_lt_succ hlength)
      simpa [firstSome, hc] using htail

end First

/-! ## Lines -/

def announcement : Language Char := {m | ∃ x y, m ∈ attemptPhrase x y}

/-- A part of the text is a phrase of the language. -/
def Occurs (L : Language Char) (s : List Char) : Prop := ∃ m ∈ L, m <:+: s

/-- The numbers of the leftmost announcement in a text, with all the digits that the last of them
has. -/
def Announces (s x y : List Char) : Prop :=
  ∃ before rest, s = before ++ rest ∧ Opens (attemptPhrase x y) (StopsAt isDecimalDigit) rest ∧
    ∀ earlier later, s = earlier ++ later → earlier.length < before.length →
      ∀ m ∈ announcement, ¬ m <+: later

/-- A number that is written in ASCII and has at most 32 bits. -/
def IsSmall (ds : List Char) : Prop :=
  (∀ c ∈ ds, c.toNat < 128) ∧ Decimal.ofDigits 0 ds ≤ 2 ^ 32 - 1

section Lines

variable {L : Language Char} {s x y ds : List Char}

theorem occurs_iff : Occurs L s ↔ ∃ rest, rest <:+ s ∧ Opens L (fun _ ↦ True) rest := by
  simp only [Occurs, List.infix_iff_prefix_suffix, opens_true]
  grind

/-- The reader of announcements fails exactly where none begins. -/
theorem attemptAt_eq_none_iff : attemptAt s = none ↔ ∀ m ∈ announcement, ¬ m <+: s := by
  rw [← not_iff_not, ← ne_eq, Option.ne_none_iff_exists', not_forall]
  constructor
  · rintro ⟨⟨x, y⟩, h⟩
    obtain ⟨m, hm, hs⟩ := opens_true.1 ((opens_attemptPhrase_iff.2 h).mono fun _ _ ↦ trivial)
    exact ⟨m, fun hnone ↦ hnone ⟨x, y, hm⟩ hs⟩
  · rintro ⟨m, hm⟩
    obtain ⟨⟨x, y, hm⟩, hs⟩ : m ∈ announcement ∧ m <+: s := by simpa using hm
    obtain ⟨y', h⟩ := exists_opens_attemptPhrase (opens_true.2 ⟨m, hm, hs⟩)
    exact ⟨(x, y'), opens_attemptPhrase_iff.1 h⟩

/-- The leftmost announcement of a text is what the reader finds first. -/
theorem announces_iff : Announces s x y ↔ firstSome attemptAt s = some (x, y) := by
  simp only [Announces, opens_attemptPhrase_iff, ← attemptAt_eq_none_iff, firstSome_eq_some_iff]

theorem firstSome_attemptAt_eq_none_iff :
    firstSome attemptAt s = none ↔ ¬ Occurs announcement s := by
  simp only [firstSome_eq_none_iff, attemptAt_eq_none_iff, occurs_iff, opens_true]
  grind

theorem occurs_announcement_iff : Occurs announcement s ↔ ∃ x y, Announces s x y := by
  simp only [announces_iff]
  rw [← not_iff_not, ← firstSome_attemptAt_eq_none_iff, ← Prod.exists',
    Option.eq_none_iff_forall_ne_some, not_exists]

/-- A phrase that ends a repair occurs in a text exactly if the reader finds one. -/
theorem occurs_clearPhrase_iff : Occurs clearPhrase s ↔
    (firstSome (fun s ↦ if clearsAt s then some () else none) s).isSome := by
  rw [Option.isSome_iff_ne_none, ne_eq, firstSome_eq_none_iff, occurs_iff]
  simp [opens_clearPhrase_iff]

theorem numerals_of_mem {m : List Char} (hm : m ∈ attemptPhrase x y) :
    x ∈ run isDecimalDigit ∧ y ∈ run isDecimalDigit := by
  obtain ⟨_, -, _, hcount, rfl⟩ := Language.mem_mul.1 hm
  obtain ⟨_, hbetween, _, ⟨rfl, hy⟩, rfl⟩ := Language.mem_mul.1 hcount
  obtain ⟨_, hbetween, -⟩ := Language.mem_mul.1 hbetween
  obtain ⟨_, hgap, -⟩ := Language.mem_mul.1 hbetween
  obtain ⟨_, hmark, -⟩ := Language.mem_mul.1 hgap
  obtain ⟨_, -, _, ⟨rfl, hx⟩, -⟩ := Language.mem_mul.1 hmark
  exact ⟨hx, hy⟩

/-- Of the digits of all scripts, those of ASCII are the ones below 128. -/
theorem isDigit_iff_of_isDecimalDigit {c : Char} (h : isDecimalDigit c) :
    Decimal.isDigit c ↔ c.toNat < 128 := by
  have hranges : ∀ r ∈ decimalDigitRanges, r.1 < 128 → '0'.toNat = r.1 ∧ '9'.toNat = r.2 := by
    decide
  have hdigit : Decimal.isDigit c ↔ '0'.toNat ≤ c.toNat ∧ c.toNat ≤ '9'.toNat := by
    rw [Decimal.isDigit, Bool.and_eq_true, decide_eq_true_eq, decide_eq_true_eq]
    exact Iff.rfl
  obtain ⟨r, hr, hfirst, hlast⟩ := Ranges.contains_iff.1 h
  rw [hdigit]
  constructor
  · rintro ⟨-, hc⟩
    exact hc.trans_lt (by decide)
  · intro hc
    obtain ⟨hzero, hnine⟩ := hranges r hr (hfirst.trans_lt hc)
    exact ⟨hzero ▸ hfirst, hnine ▸ hlast⟩

/-- A number is taken over exactly if it is small, and then its value is. -/
theorem small?_eq_some_iff {n : Nat} (hds : ds ∈ run isDecimalDigit) :
    small? ds = some n ↔ IsSmall ds ∧ n = Decimal.ofDigits 0 ds := by
  obtain ⟨hne, hall⟩ := hds
  have hascii : ds.all Decimal.isDigit ↔ ∀ c ∈ ds, c.toNat < 128 := by
    rw [List.all_eq_true]
    exact forall₂_congr fun c hc ↦
      isDigit_iff_of_isDecimalDigit (List.all_eq_true.1 hall c hc)
  have hsize (n : Nat) : n < 4294967296 ↔ n ≤ 2 ^ 32 - 1 := by omega
  simp only [small?, Option.filter_eq_some_iff, Decimal.toNat?, IsSmall, ← hascii]
  grind

end Lines

/-- The first announcement of an attempt decides what a line says, also where its numbers are out of
range and the line says nothing. -/
theorem detect_follows_grammar (text : String) :
    (Occurs announcement text.toList → ∃ x y, Announces text.toList x y ∧
      (∀ x' y', Announces text.toList x' y' → x' = x ∧ y' = y) ∧
      (IsSmall x ∧ IsSmall y → detect text =
        some (.attempt (Decimal.ofDigits 0 x) (Decimal.ofDigits 0 y))) ∧
      (¬ (IsSmall x ∧ IsSmall y) → detect text = none)) ∧
    (¬ Occurs announcement text.toList →
      (detect text = some .cleared ↔ Occurs clearPhrase text.toList) ∧
      (detect text = none ↔ ¬ Occurs clearPhrase text.toList)) := by
  constructor
  · intro hoccurs
    obtain ⟨x, y, hxy⟩ := occurs_announcement_iff.1 hoccurs
    have hfirst := announces_iff.1 hxy
    obtain ⟨_, _, -, ⟨m, hm, -⟩, -⟩ := hxy
    obtain ⟨hx, hy⟩ := numerals_of_mem hm
    have hdetect : detect text =
        (small? x).bind fun a ↦ (small? y).bind fun b ↦ some (.attempt a b) := by
      rw [detect, hfirst]
      rfl
    refine ⟨x, y, announces_iff.2 hfirst, fun x' y' h ↦ ?_, fun hsmall ↦ ?_, fun hsmall ↦ ?_⟩
    · simpa [announces_iff.1 h] using hfirst
    · rw [hdetect, (small?_eq_some_iff hx).2 ⟨hsmall.1, rfl⟩,
        (small?_eq_some_iff hy).2 ⟨hsmall.2, rfl⟩]
      rfl
    · rw [hdetect, Option.eq_none_iff_forall_ne_some]
      intro sign h
      obtain ⟨a, ha, b, hb, -⟩ : ∃ a, small? x = some a ∧ ∃ b, small? y = some b ∧ _ := by
        simpa only [Option.bind_eq_some_iff] using h
      exact hsmall ⟨((small?_eq_some_iff hx).1 ha).1, ((small?_eq_some_iff hy).1 hb).1⟩
  · intro hoccurs
    have hfirst : firstSome attemptAt text.toList = none :=
      firstSome_attemptAt_eq_none_iff.2 hoccurs
    simp only [detect, hfirst, occurs_clearPhrase_iff]
    split <;> simp_all

/-- A number that is too long silences a line, whatever comes after it. -/
theorem overlong_attempt_silences :
    detect "Autofix attempt 5000000000/1, autofix attempt 1/2" = none ∧
      detect "Autofix attempt #2 of 3" = some (.attempt 2 3) ∧
      detect "health checks started" = some .cleared := by
  refine ⟨?_, ?_, ?_⟩
  · have hfirst : Announces "Autofix attempt 5000000000/1, autofix attempt 1/2".toList
        "5000000000".toList ['1'] := announces_iff.2 (by decide +kernel)
    obtain ⟨x, y, -, hunique, -, hnone⟩ :=
      (detect_follows_grammar _).1 (occurs_announcement_iff.2 ⟨_, _, hfirst⟩)
    obtain ⟨rfl, rfl⟩ := hunique _ _ hfirst
    exact hnone fun h ↦ absurd h.1.2 (by decide +kernel)
  · have hfirst : Announces "Autofix attempt #2 of 3".toList ['2'] ['3'] :=
      announces_iff.2 (by decide +kernel)
    obtain ⟨x, y, -, hunique, hsome, -⟩ :=
      (detect_follows_grammar _).1 (occurs_announcement_iff.2 ⟨_, _, hfirst⟩)
    obtain ⟨rfl, rfl⟩ := hunique _ _ hfirst
    exact hsome ⟨⟨List.forall_mem_singleton.2 (by decide), by decide +kernel⟩,
      ⟨List.forall_mem_singleton.2 (by decide), by decide +kernel⟩⟩
  · have hnone : ¬ Occurs announcement "health checks started".toList :=
      firstSome_attemptAt_eq_none_iff.1 (by decide +kernel)
    exact ((detect_follows_grammar _).2 hnone).1.2 (occurs_clearPhrase_iff.2 (by decide +kernel))

end JobWatch.AutoFix

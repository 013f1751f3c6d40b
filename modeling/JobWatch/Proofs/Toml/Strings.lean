import JobWatch.Proofs.Text.Run
import JobWatch.Toml.Printer
import JobWatch.Toml.Token

/-!
# Strings are read back

Whatever a string says, the form that is chosen for it is read as one token that holds it
(`scanToken_quoted`). Reading goes over the inside of a string several times: to find its end, to
see that it is in order, to join its lines and to take its escapes away. Each pass is followed
through the escapes and through the characters that stand as they are.

A string over several lines may hold quotes, up to two in a row, also right before the closing ones.
`Interior` says which texts can be told from their closing quotes then.
-/

namespace JobWatch.Toml

open Text

/-! ## Escapes -/

def isVisible (c : Char) : Bool := ' ' < c && c != '\x7f'

theorem isPrintable_of_isVisible {c : Char} (h : isVisible c) : isPrintable c := by
  simp only [isVisible, Bool.and_eq_true, decide_eq_true_eq] at h
  have hle : ' ' ≤ c := Char.not_lt.1 (Char.lt_asymm h.1)
  simp [isPrintable, hle, h.2]

/-- A character that needs no code is printable or ends a line. -/
theorem isPrintable_of_not_needsCode {c : Char} (h : needsCode c = false) :
    c = '\n' ∨ isPrintable c := by
  simp only [needsCode, Bool.or_eq_false_iff, Bool.and_eq_false_iff, bne_eq_false_iff_eq,
    beq_eq_false_iff_ne, decide_eq_false_iff_not, Char.not_lt] at h
  obtain ⟨(hle | htab) | hline, hdel⟩ := h
  · exact .inr (by simp [isPrintable, hle, hdel])
  · exact .inr (by simp [isPrintable, htab])
  · exact .inl hline

/-- What is escaped has a small number. -/
theorem toNat_lt_of_needsEscape {lines : Bool} {c : Char} (h : needsEscape lines c) :
    c.toNat < 256 := by
  simp only [needsEscape, needsCode, Bool.or_eq_true, Bool.and_eq_true, decide_eq_true_eq,
    beq_iff_eq] at h
  rcases h with (((⟨⟨hlt, -⟩, -⟩ | rfl) | rfl) | rfl) | ⟨rfl, -⟩
  · have hlt : c.toNat < 32 := hlt
    omega
  all_goals decide

theorem isVisible_upper {n : Nat} (h : n < 16) :
    isVisible (Hex.upper n) ∧ Hex.upper n ≠ '"' ∧ Hex.upper n ≠ '\\' :=
  (by decide : ∀ m < 16,
    isVisible (Hex.upper m) ∧ Hex.upper m ≠ '"' ∧ Hex.upper m ≠ '\\') n h

/-- An escape is a backslash and a visible character, with digits after them in the long form. -/
theorem escapeChar_eq {c : Char} (h : c.toNat < 256) :
    ∃ e ds, escapeChar c = '\\' :: e :: ds ∧ isVisible e ∧
      ∀ d ∈ ds, isVisible d ∧ d ≠ '"' ∧ d ≠ '\\' := by
  have hhigh := isVisible_upper (show c.toNat / 16 < 16 by omega)
  have hlow := isVisible_upper (show c.toNat % 16 < 16 by omega)
  unfold escapeChar
  split
  case h_8 =>
    refine ⟨'u', _, rfl, by decide, ?_⟩
    simp only [List.forall_mem_cons]
    exact ⟨by decide, by decide, hhigh, hlow, nofun⟩
  all_goals exact ⟨_, [], rfl, by decide, nofun⟩

/-- Taking an escape away gives the character, whatever follows. -/
theorem unescape_escapeChar {c : Char} (h : c.toNat < 256) {s text : List Char}
    (hs : unescape s = some text) : unescape (escapeChar c ++ s) = some (c :: text) := by
  have hhigh := Hex.value?_upper (show c.toNat / 16 < 16 by omega)
  have hlow := Hex.value?_upper (show c.toNat % 16 < 16 by omega)
  have hzero : Hex.value? '0' = some 0 := rfl
  have hdigits : c.toNat / 16 * 16 + c.toNat % 16 = c.toNat := by omega
  have hvalid : c.toNat.isValidChar := c.valid
  unfold escapeChar
  split
  case h_8 =>
    simp [unescape.eq_3, numbered?, Hex.ofDigits?, hzero, hhigh, hlow, hdigits, hvalid, hs,
      Char.ofNat_toNat]
  all_goals simp [unescape, simpleEscape?, hs]

/-- A character that is no backslash stays what it is. -/
theorem unescape_cons {c : Char} (h : c ≠ '\\') {s text : List Char}
    (hs : unescape s = some text) : unescape (c :: s) = some (c :: text) := by
  rw [unescape.eq_6 c s (fun _ _ _ hc ↦ absurd hc h) (fun _ _ _ _ _ hc ↦ absurd hc h)
    (fun _ _ _ _ _ _ _ _ _ hc ↦ absurd hc h) (fun _ _ hc ↦ absurd hc h), if_neg h, hs]
  rfl

/-- What stands as it is in a basic string is no backslash. -/
theorem ne_backslash_of_not_needsEscape {lines : Bool} {c : Char}
    (h : needsEscape lines c = false) : c ≠ '\\' := by
  rintro rfl
  cases lines <;> cases h

/-- A raw text spells a text: each of its characters stands there as it is, or is escaped. -/
inductive Spells (lines : Bool) : List Char → List Char → Prop
  | nil : Spells lines [] []
  | plain {c : Char} {raw s : List Char} (hc : needsEscape lines c = false)
      (h : Spells lines raw s) : Spells lines (c :: raw) (c :: s)
  | escape {c : Char} {raw s : List Char} (hc : c.toNat < 256) (h : Spells lines raw s) :
      Spells lines (escapeChar c ++ raw) (c :: s)

/-- The inside of a basic string spells the string, however many quotes may come in a row. -/
theorem spells_escapeFrom (lines : Bool) (limit run : Nat) (s : List Char) :
    Spells lines (escapeFrom lines limit run s) s := by
  fun_induction escapeFrom lines limit run s with
  | case1 run => exact .nil
  | case2 run s hlimit ih => exact .escape (by decide) ih
  | case3 run s hlimit ih => exact .plain (by cases lines <;> rfl) ih
  | case4 run c s hquote hescape ih => exact .escape (toNat_lt_of_needsEscape hescape) ih
  | case5 run c s hquote hescape ih => exact .plain (eq_false_of_ne_true hescape) ih

namespace Spells

variable {lines : Bool} {raw s : List Char}

/-- Taking the escapes away gives the text. -/
theorem unescape_eq (h : Spells lines raw s) : unescape raw = some s := by
  induction h with
  | nil => rfl
  | plain hc h ih => exact unescape_cons (ne_backslash_of_not_needsEscape hc) ih
  | escape hc h ih => exact unescape_escapeChar hc ih

/-- A raw character is visible, or stands there as it is. -/
theorem isVisible_or (h : Spells lines raw s) :
    ∀ d ∈ raw, isVisible d ∨ (d ∈ s ∧ needsEscape lines d = false) := by
  induction h with
  | nil => exact nofun
  | plain hc h ih =>
    intro d hd
    rcases List.mem_cons.1 hd with rfl | hd
    · exact .inr ⟨List.mem_cons_self, hc⟩
    · exact (ih d hd).imp_right (And.imp_left (List.mem_cons_of_mem _))
  | escape hc h ih =>
    intro d hd
    obtain ⟨e, ds, heq, he, hds⟩ := escapeChar_eq hc
    rw [heq, List.cons_append, List.cons_append, List.mem_cons, List.mem_cons,
      List.mem_append] at hd
    rcases hd with rfl | rfl | hd | hd
    · exact .inl rfl
    · exact .inl he
    · exact .inl (hds d hd).1
    · exact (ih d hd).imp_right (And.imp_left (List.mem_cons_of_mem _))

end Spells

/-! ## Strings in one line -/

theorem basicExtent_cons {c : Char} {s raw rest : List Char} (hquote : c ≠ '"') (hescape : c ≠ '\\')
    (h : basicExtent s = some (raw, rest)) : basicExtent (c :: s) = some (c :: raw, rest) := by
  rw [basicExtent.eq_4 c s (fun hc ↦ hquote hc) (fun _ _ hc ↦ absurd hc hescape), h]
  rfl

theorem basicExtent_append {ds s raw rest : List Char} (hds : ∀ d ∈ ds, d ≠ '"' ∧ d ≠ '\\')
    (h : basicExtent s = some (raw, rest)) : basicExtent (ds ++ s) = some (ds ++ raw, rest) := by
  induction ds with
  | nil => exact h
  | cons d ds ih =>
    obtain ⟨hd, hds⟩ := List.forall_mem_cons.1 hds
    exact basicExtent_cons hd.1 hd.2 (ih hds)

/-- An escape does not end a string, even that of a quote. -/
theorem basicExtent_escapeChar {c : Char} (hc : c.toNat < 256) {s raw rest : List Char}
    (h : basicExtent s = some (raw, rest)) :
    basicExtent (escapeChar c ++ s) = some (escapeChar c ++ raw, rest) := by
  obtain ⟨e, ds, heq, -, hds⟩ := escapeChar_eq hc
  have htail := basicExtent_append (fun d hd ↦ (hds d hd).2) h
  rw [heq, List.cons_append, List.cons_append, basicExtent.eq_3, htail]
  rfl

/-- A string without bare quotes ends at its closing quote. -/
theorem basicExtent_escapeFrom (run : Nat) (s rest : List Char) :
    basicExtent (escapeFrom false 0 run s ++ '"' :: rest) =
      some (escapeFrom false 0 run s, rest) := by
  fun_induction escapeFrom false 0 run s with
  | case1 run => rfl
  | case2 run s hlimit ih =>
    rw [List.append_assoc]
    exact basicExtent_escapeChar (by decide) ih
  | case3 run s hlimit ih => exact absurd (Nat.zero_le run) hlimit
  | case4 run c s hquote hescape ih =>
    rw [List.append_assoc]
    exact basicExtent_escapeChar (toNat_lt_of_needsEscape hescape) ih
  | case5 run c s hquote hescape ih =>
    have hplain := ne_backslash_of_not_needsEscape (eq_false_of_ne_true hescape)
    exact basicExtent_cons hquote hplain ih

/-- A literal string without a quote ends at its closing quote. -/
theorem literalExtent_of_not_mem {s : List Char} (hs : '\'' ∉ s) (rest : List Char) :
    literalExtent (s ++ '\'' :: rest) = some (s, rest) := by
  induction s with
  | nil => rfl
  | cons c s ih =>
    rw [List.mem_cons, not_or] at hs
    rw [List.cons_append, literalExtent.eq_3 c _ (fun hc ↦ hs.1 hc.symm), ih hs.2]
    rfl

/-! ## Strings over several lines -/

/-- A text may stand inside a string over several lines where `run` quotes come right before it: no
more than two bare quotes come in a row. Where escapes count, the character after a backslash is
never a bare one. -/
inductive Interior (quote : Char) (escapes : Bool) : Nat → List Char → Prop
  | nil {run : Nat} (h : run ≤ 2) : Interior quote escapes run []
  | quote {run : Nat} {s : List Char} (h : Interior quote escapes (run + 1) s) :
      Interior quote escapes run (quote :: s)
  | char {run : Nat} {c : Char} {s : List Char} (hquote : c ≠ quote)
      (hescape : escapes → c ≠ '\\') (hrun : run ≤ 2) (h : Interior quote escapes 0 s) :
      Interior quote escapes run (c :: s)
  | escape {run : Nat} {e : Char} {s : List Char} (hescapes : escapes) (hrun : run ≤ 2)
      (h : Interior quote escapes 0 s) : Interior quote escapes run ('\\' :: e :: s)

/-- So few quotes before something else do not close a string. -/
theorem closing?_eq_none {quote c : Char} (hc : c ≠ quote) {run : Nat} (hrun : run ≤ 2)
    (s : List Char) : closing? quote (List.replicate run quote ++ c :: s) = none := by
  have hlen : (List.replicate run quote ++ c :: s).takeWhile (· == quote) =
      List.replicate run quote :=
    takeWhile_run (by simp) (stopsAt_cons s (by simpa using hc))
  have hlt : run < 3 := by omega
  simp [closing?, hlen, hlt]

/-- The quotes before the closing ones belong to the string. -/
theorem closing?_replicate {quote : Char} {run : Nat} (hrun : run ≤ 2) {rest : List Char}
    (hrest : StopsAt (· == quote) rest) :
    closing? quote (List.replicate run quote ++ quote :: quote :: quote :: rest) =
      some (List.replicate run quote, rest) := by
  have hall : List.replicate run quote ++ quote :: quote :: quote :: rest =
      List.replicate (run + 3) quote ++ rest := by
    rw [← List.replicate_append_replicate, List.append_assoc]
    rfl
  have hlen : (List.replicate (run + 3) quote ++ rest).takeWhile (· == quote) =
      List.replicate (run + 3) quote :=
    takeWhile_run (by simp) hrest
  have hown : min run 2 = run := by omega
  simp [closing?, hall, hlen, hown]

/-- A string ends where its closing quotes are found. -/
theorem linesExtent_of_closing {quote : Char} {escapes : Bool} {s : List Char}
    {found : List Char × List Char} (h : closing? quote s = some found) :
    linesExtent quote escapes s = some found := by
  match s with
  | [] => simp [closing?] at h
  | [c] =>
    by_cases hc : c == quote <;> simp [closing?, hc] at h
  | c :: d :: s => rw [linesExtent.eq_3, h]

/-- Where the string does not end, the next character belongs to it. -/
theorem linesExtent_cons {quote : Char} {escapes : Bool} {c : Char} (hescape : escapes → c ≠ '\\')
    {s raw rest : List Char} (hclosing : closing? quote (c :: s) = none)
    (h : linesExtent quote escapes s = some (raw, rest)) :
    linesExtent quote escapes (c :: s) = some (c :: raw, rest) := by
  cases s with
  | nil => simp [linesExtent] at h
  | cons d s =>
    have hno : ¬(escapes && c == '\\') = true := by
      simpa using hescape
    rw [linesExtent.eq_3, hclosing]
    simp only [hno, h]
    rfl

/-- Few quotes before something else belong to the string. -/
theorem linesExtent_quotes {quote : Char} {escapes : Bool} (hquote : quote ≠ '\\') {c : Char}
    (hc : c ≠ quote) {s raw rest : List Char}
    (h : linesExtent quote escapes (c :: s) = some (raw, rest)) {run : Nat} (hrun : run ≤ 2) :
    linesExtent quote escapes (List.replicate run quote ++ c :: s) =
      some (List.replicate run quote ++ raw, rest) := by
  induction run with
  | zero => exact h
  | succ run ih =>
    exact linesExtent_cons (fun _ ↦ hquote) (closing?_eq_none hc hrun s) (ih (by omega))

/-- A string over several lines ends at its closing quotes. -/
theorem linesExtent_of_interior {quote : Char} {escapes : Bool} (hquote : quote ≠ '\\') {run : Nat}
    {s : List Char} (hs : Interior quote escapes run s) {rest : List Char}
    (hrest : StopsAt (· == quote) rest) :
    linesExtent quote escapes (List.replicate run quote ++ (s ++ quote :: quote :: quote :: rest)) =
      some (List.replicate run quote ++ s, rest) := by
  induction hs with
  | @nil run hrun =>
    rw [List.append_nil]
    exact linesExtent_of_closing (closing?_replicate hrun hrest)
  | @quote run s h ih =>
    have hmove (t : List Char) : List.replicate run quote ++ quote :: t =
        List.replicate (run + 1) quote ++ t := by
      rw [List.replicate_succ', List.append_assoc, List.singleton_append]
    rw [List.cons_append, hmove, hmove]
    exact ih
  | @char run c s hc hescape hrun h ih =>
    refine linesExtent_quotes hquote hc (linesExtent_cons hescape ?_ ih) hrun
    exact closing?_eq_none hc (Nat.zero_le 2) _
  | @escape run e s hescapes hrun h ih =>
    refine linesExtent_quotes hquote hquote.symm ?_ hrun
    have hno : closing? quote ('\\' :: e :: (s ++ quote :: quote :: quote :: rest)) = none :=
      closing?_eq_none hquote.symm (Nat.zero_le 2) _
    subst hescapes
    simp only [List.replicate_zero, List.nil_append] at ih
    simp [linesExtent.eq_3, hno, ih]

/-- The inside of a basic string over several lines. -/
theorem interior_escapeFrom (run : Nat) (hrun : run ≤ 2) (s : List Char) :
    Interior '"' true run (escapeFrom true 2 run s) := by
  have hescaped {run : Nat} (hrun : run ≤ 2) {c : Char} (hc : c.toNat < 256) {s : List Char}
      (h : Interior '"' true 0 s) : Interior '"' true run (escapeChar c ++ s) := by
    obtain ⟨e, ds, heq, -, hds⟩ := escapeChar_eq hc
    rw [heq]
    refine .escape rfl hrun ?_
    clear heq
    induction ds with
    | nil => exact h
    | cons d ds ih =>
      obtain ⟨hd, hds⟩ := List.forall_mem_cons.1 hds
      exact .char hd.2.1 (fun _ ↦ hd.2.2) (Nat.zero_le 2) (ih hds)
  fun_induction escapeFrom true 2 run s with
  | case1 run => exact .nil hrun
  | case2 run s hlimit ih => exact hescaped hrun (by decide) (ih (Nat.zero_le 2))
  | case3 run s hlimit ih => exact .quote (ih (by omega))
  | case4 run c s hquote hescape ih =>
    exact hescaped hrun (toNat_lt_of_needsEscape hescape) (ih (Nat.zero_le 2))
  | case5 run c s hquote hescape ih =>
    have hplain := ne_backslash_of_not_needsEscape (eq_false_of_ne_true hescape)
    exact .char hquote (fun _ ↦ hplain) hrun (ih (Nat.zero_le 2))

theorem le_longestRun (q : Char) (run : Nat) (s : List Char) : run ≤ longestRun q run s := by
  fun_induction longestRun q run s <;> omega

/-- A text with no long runs of quotes may stand inside a literal string over several lines. -/
theorem interior_of_longestRun {quote : Char} {run : Nat} {s : List Char}
    (h : longestRun quote run s ≤ 2) : Interior quote false run s := by
  fun_induction longestRun quote run s with
  | case1 run => exact .nil h
  | case2 run s ih => exact .quote (ih h)
  | case3 run c s hc ih =>
    have hrun : run ≤ 2 := by omega
    have hs : longestRun quote 0 s ≤ 2 := by omega
    exact .char hc nofun hrun (ih hs)

/-- A text without runs of quotes has no quotes. -/
theorem not_mem_of_longestRun {q : Char} {s : List Char} (h : longestRun q 0 s = 0) : q ∉ s := by
  induction s with
  | nil => exact List.not_mem_nil
  | cons c s ih =>
    rw [longestRun] at h
    split at h
    · have hpos := le_longestRun q (0 + 1) s
      omega
    next hc =>
      rw [List.mem_cons, not_or]
      exact ⟨fun heq ↦ hc heq.symm, ih (by omega)⟩

/-- Lines of printable characters are in order. -/
theorem printableLines_of_forall {s : List Char} (h : ∀ c ∈ s, c = '\n' ∨ isPrintable c) :
    printableLines s := by
  induction s with
  | nil => rfl
  | cons c s ih =>
    obtain ⟨hc, hs⟩ := List.forall_mem_cons.1 h
    have hreturn : c ≠ '\x0d' := by
      rintro rfl
      exact hc.elim (by decide) (by decide)
    rw [printableLines.eq_3 c s hreturn, ih hs, Bool.and_true]
    rcases hc with rfl | hc
    · rfl
    · rw [hc, Bool.or_true]

theorem joinLines_cons {c : Char} (hc : c ≠ '\\') {s text : List Char}
    (h : joinLines .outside s = some text) : joinLines .outside (c :: s) = some (c :: text) := by
  simp [joinLines, Joining.next, hc, h]

theorem joinLines_escapeChar {c : Char} (hc : c.toNat < 256) {s text : List Char}
    (h : joinLines .outside s = some text) :
    joinLines .outside (escapeChar c ++ s) = some (escapeChar c ++ text) := by
  obtain ⟨e, ds, heq, he, hds⟩ := escapeChar_eq hc
  have htail : joinLines .outside (ds ++ s) = some (ds ++ text) := by
    clear heq
    induction ds with
    | nil => exact h
    | cons d ds ih =>
      obtain ⟨hd, hds⟩ := List.forall_mem_cons.1 hds
      exact joinLines_cons hd.2.2 (ih hds)
  have hline : e ≠ '\n' := by rintro rfl; exact absurd he (by decide)
  have hreturn : e ≠ '\x0d' := by rintro rfl; exact absurd he (by decide)
  have hspace : e ≠ ' ' := by rintro rfl; exact absurd he (by decide)
  have htab : e ≠ '\t' := by rintro rfl; exact absurd he (by decide)
  simp [heq, joinLines, Joining.next, isSpace, hline, hreturn, hspace, htab, htail]

/-- No raw line ends in a backslash, so that none are joined. -/
theorem Spells.joinLines_eq {lines : Bool} {raw s : List Char} (h : Spells lines raw s) :
    joinLines .outside raw = some raw := by
  induction h with
  | nil => rfl
  | plain hc h ih => exact joinLines_cons (ne_backslash_of_not_needsEscape hc) ih
  | escape hc h ih => exact joinLines_escapeChar hc ih

/-! ## Written strings -/

/-- Whether a string in a form may span lines. -/
def Quoting.isMultiline : Quoting → Bool
  | .basic | .literal => false
  | .basicLines | .literalLines => true

theorem stringToken_eq {multiline : Bool} {read : List Char → Option (List Char)}
    {raw text : List Char} (rest : List Char)
    (hraw : (if multiline then printableLines raw else raw.all isPrintable) = true)
    (hread : read raw = some text) :
    stringToken multiline read (some (raw, rest)) = some (.string multiline text, rest) := by
  simp only [stringToken, Option.bind_eq_bind, Option.bind_some, if_pos hraw, hread]
  rfl

/-- One quote at the start of a line's last string is not two. -/
theorem ne_two_quotes {quote : Char} (hquote : quote ≠ '\n') {s : List Char}
    (hs : ∀ c ∈ s.head?, c ≠ quote) (rest r : List Char) :
    s ++ quote :: '\n' :: rest ≠ quote :: quote :: r := by
  intro heq
  cases s with
  | nil => exact hquote (List.cons.inj (List.cons.inj heq).2).1.symm
  | cons c s => exact hs c rfl (List.cons.inj heq).1

/-- A string without bare quotes does not begin with a quote. -/
theorem head?_escapeFrom (run : Nat) (s : List Char) :
    ∀ c ∈ (escapeFrom false 0 run s).head?, c ≠ '"' := by
  have hescaped {c : Char} (hc : c.toNat < 256) (s : List Char) :
      ∀ d ∈ (escapeChar c ++ s).head?, d ≠ '"' := by
    obtain ⟨e, ds, heq, -⟩ := escapeChar_eq hc
    rw [heq]
    rintro d ⟨⟩
    decide
  fun_cases escapeFrom false 0 run s with
  | case1 => nofun
  | case2 s hlimit => exact hescaped (by decide) _
  | case3 s hlimit => exact absurd (Nat.zero_le run) hlimit
  | case4 c s hquote hescape => exact hescaped (toNat_lt_of_needsEscape hescape) _
  | case5 c s hquote hescape =>
    rintro d ⟨⟩
    exact hquote

/-- What stands as it is in a basic string needs no code. -/
theorem not_needsCode_of_not_needsEscape {lines : Bool} {c : Char}
    (h : needsEscape lines c = false) : needsCode c = false := by
  simp only [needsEscape, Bool.or_eq_false_iff] at h
  exact h.1.1.1

section Forms

variable (s rest : List Char)

/-- A basic string on one line is read back. -/
theorem scanString_basic :
    scanString '"' (escapeFrom false 0 0 s ++ '"' :: '\n' :: rest) =
      some (.string false s, '\n' :: rest) := by
  have hspells := spells_escapeFrom false 0 0 s
  have hone := ne_two_quotes (by decide) (head?_escapeFrom 0 s) rest
  rw [scanString.eq_2 _ hone, basicExtent_escapeFrom]
  refine stringToken_eq _ (List.all_eq_true.2 fun c hc ↦ ?_) hspells.unescape_eq
  rcases hspells.isVisible_or c hc with hc | ⟨-, hc⟩
  · exact isPrintable_of_isVisible hc
  · refine (isPrintable_of_not_needsCode (not_needsCode_of_not_needsEscape hc)).resolve_left ?_
    rintro rfl
    exact absurd hc (by decide)

/-- A literal string on one line is read back. -/
theorem scanString_literal {s : List Char} (hcode : ∀ c ∈ s, needsCode c = false)
    (hquote : '\'' ∉ s) (hline : '\n' ∉ s) :
    scanString '\'' (s ++ '\'' :: '\n' :: rest) = some (.string false s, '\n' :: rest) := by
  have hfirst : ∀ c ∈ s.head?, c ≠ '\'' := by
    rintro c hc rfl
    exact hquote (List.mem_of_mem_head? hc)
  have hone := ne_two_quotes (by decide) hfirst rest
  rw [scanString.eq_4 _ _ (by decide) hone (fun _ hc ↦ absurd hc (by decide)),
    literalExtent_of_not_mem hquote]
  refine stringToken_eq _ (List.all_eq_true.2 fun c hc ↦ ?_) rfl
  exact (isPrintable_of_not_needsCode (hcode c hc)).resolve_left fun heq ↦ hline (heq ▸ hc)

end Forms

/-! ### Forms over several lines -/

/-- The new line that a string over several lines starts with. -/
def opening (s : List Char) : List Char := if s.contains '\n' then ['\n'] else []

section Lines

variable {s raw : List Char} (rest : List Char)

/-- An inside is read up to its closing quotes, with the new line that comes before it. -/
theorem linesExtent_opening {quote : Char} {escapes : Bool} (hquote : quote ≠ '\\')
    (hline : quote ≠ '\n') (hraw : Interior quote escapes 0 raw) :
    linesExtent quote escapes (opening s ++ raw ++ quote :: quote :: quote :: '\n' :: rest) =
      some (opening s ++ raw, '\n' :: rest) := by
  have hopening : Interior quote escapes 0 (opening s ++ raw) := by
    unfold opening
    split
    · exact .char hline.symm (fun _ ↦ by decide) (Nat.zero_le 2) hraw
    · exact hraw
  exact linesExtent_of_interior hquote hopening (stopsAt_cons rest (by simpa using hline.symm))

/-- The inside of a string has no other ends of lines than the string has, and is printable but for
them. -/
def IsShown (s raw : List Char) : Prop := ∀ c ∈ raw, (c = '\n' ∧ '\n' ∈ s) ∨ isPrintable c

theorem printableLines_opening (h : IsShown s raw) : printableLines (opening s ++ raw) := by
  refine printableLines_of_forall fun c hc ↦ ?_
  rcases List.mem_append.1 hc with hc | hc
  · unfold opening at hc
    split at hc
    · exact .inl (List.mem_singleton.1 hc)
    · exact absurd hc List.not_mem_nil
  · exact (h c hc).imp_left And.left

/-- The new line before an inside is all that is dropped from it. -/
theorem dropFirstNewline_opening (h : IsShown s raw) :
    dropFirstNewline (opening s ++ raw) = raw := by
  unfold opening
  split
  · rfl
  next hline =>
    have hline : '\n' ∉ s := by simpa using hline
    cases raw with
    | nil => rfl
    | cons c raw =>
      have hc : isPrintable c := (h c List.mem_cons_self).resolve_left fun hc ↦ hline hc.2
      refine dropFirstNewline.eq_3 _ ?_ ?_
      · rintro rest heq
        cases heq
        exact absurd hc (by decide)
      · rintro rest heq
        cases heq
        exact absurd hc (by decide)

/-- The inside of a basic string with escapes has no other ends of lines than the string. -/
theorem isShown_escapeFrom (s : List Char) : IsShown s (escapeFrom true 2 0 s) := by
  intro c hc
  rcases (spells_escapeFrom true 2 0 s).isVisible_or c hc with hc | ⟨hmem, hc⟩
  · exact .inr (isPrintable_of_isVisible hc)
  · refine (isPrintable_of_not_needsCode (not_needsCode_of_not_needsEscape hc)).imp_left ?_
    rintro rfl
    exact ⟨rfl, hmem⟩

/-- A basic string over several lines is read back. -/
theorem scanString_basicLines (s : List Char) :
    scanString '"' ('"' :: '"' :: (opening s ++ escapeFrom true 2 0 s ++
        '"' :: '"' :: '"' :: '\n' :: rest)) =
      some (.string true s, '\n' :: rest) := by
  have hspells := spells_escapeFrom true 2 0 s
  have hshown := isShown_escapeFrom s
  rw [scanString.eq_1, linesExtent_opening rest (by decide) (by decide)
    (interior_escapeFrom 0 (Nat.zero_le 2) s)]
  refine stringToken_eq _ (printableLines_opening hshown) ?_
  rw [dropFirstNewline_opening hshown, hspells.joinLines_eq, Option.bind_some,
    hspells.unescape_eq]

/-- A literal string over several lines is read back. -/
theorem scanString_literalLines (hcode : ∀ c ∈ s, needsCode c = false)
    (hruns : longestRun '\'' 0 s ≤ 2) :
    scanString '\'' ('\'' :: '\'' :: (opening s ++ s ++ '\'' :: '\'' :: '\'' :: '\n' :: rest)) =
      some (.string true s, '\n' :: rest) := by
  have hshown : IsShown s s := by
    intro c hc
    refine (isPrintable_of_not_needsCode (hcode c hc)).imp_left ?_
    rintro rfl
    exact ⟨rfl, hc⟩
  rw [scanString.eq_3 _ _ (by decide), linesExtent_opening rest (by decide) (by decide)
    (interior_of_longestRun hruns)]
  refine stringToken_eq _ (printableLines_opening hshown) ?_
  rw [Function.comp_apply, dropFirstNewline_opening hshown]

end Lines

/-! ### The form that is chosen -/

theorem Quoting.of_eq_literal {s : List Char} (h : Quoting.of s = .literal) :
    (∀ c ∈ s, needsCode c = false) ∧ '\'' ∉ s ∧ '\n' ∉ s := by
  simp only [Quoting.of] at h
  split at h
  · cases h
  split at h
  next hform =>
    simp only [Bool.and_eq_true, Bool.not_eq_true', decide_eq_true_eq] at hform
    obtain ⟨⟨hcode, hruns⟩, hline⟩ := hform
    exact ⟨by simpa using hcode, not_mem_of_longestRun hruns, by simpa using hline⟩
  all_goals (repeat' split at h) <;> cases h

theorem Quoting.of_eq_literalLines {s : List Char} (h : Quoting.of s = .literalLines) :
    (∀ c ∈ s, needsCode c = false) ∧ longestRun '\'' 0 s ≤ 2 := by
  simp only [Quoting.of] at h
  split at h
  · cases h
  split at h
  · cases h
  split at h
  · cases h
  split at h
  next hform =>
    simp only [Bool.and_eq_true, Bool.not_eq_true', decide_eq_true_eq] at hform
    exact ⟨by simpa using hform.1, hform.2⟩
  all_goals split at h <;> cases h

/-- Whatever a string says, what is written of it is read as one token that holds it. -/
theorem scanToken_quoted (s rest : List Char) :
    ∃ c cs, quoted s = c :: cs ∧ isSpace c = false ∧ scanToken c (cs ++ '\n' :: rest) =
      some (.string (Quoting.of s).isMultiline s, '\n' :: rest) := by
  unfold quoted
  generalize hform : Quoting.of s = form
  cases form with
  | basic =>
    refine ⟨'"', escapeFrom false 0 0 s ++ ['"'], rfl, rfl, ?_⟩
    rw [List.append_assoc]
    exact scanString_basic s rest
  | literal =>
    obtain ⟨hcode, hquote, hline⟩ := Quoting.of_eq_literal hform
    refine ⟨'\'', s ++ ['\''], rfl, rfl, ?_⟩
    rw [List.append_assoc]
    exact scanString_literal rest hcode hquote hline
  | basicLines =>
    refine ⟨'"', '"' :: '"' :: (opening s ++ escapeFrom true 2 0 s ++ ['"', '"', '"']), rfl, rfl,
      ?_⟩
    rw [List.cons_append, List.cons_append, List.append_assoc]
    exact scanString_basicLines rest s
  | literalLines =>
    obtain ⟨hcode, hruns⟩ := Quoting.of_eq_literalLines hform
    refine ⟨'\'', '\'' :: '\'' :: (opening s ++ s ++ ['\'', '\'', '\'']), rfl, rfl, ?_⟩
    rw [List.cons_append, List.cons_append, List.append_assoc]
    exact scanString_literalLines rest hcode hruns

/-- Of three quotes in a row the last is escaped, even right before the closing ones. -/
example : String.ofList (quoted "'''\n\"\"\"".toList) = "\"\"\"\n'''\n\"\"\\\"\"\"\"" := by
  decide +kernel

end JobWatch.Toml

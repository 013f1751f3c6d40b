import JobWatch.Proofs.Text.Decimal
import JobWatch.Proofs.Text.Run
import JobWatch.Proofs.Toml.Strings
import JobWatch.Toml.Parser

/-!
# Documents are read back

A document of tables with plain values is read as these tables (`parse?_document`). `Lexes` reads
tokens off the front of a text with all that follows them in view, because what follows decides
where a word or a string ends. The reader then goes through the tokens line by line: a header opens
a table at the end of the document, and a member goes to the end of the table that is open.
-/

namespace JobWatch.Toml

open Text

/-! ## Words -/

theorem isWordChar_of_isKeyChar {c : Char} (h : Reader.isKeyChar c) : isWordChar c := by
  have hne (d : Char) (hd : Reader.isKeyChar d = false) : c ≠ d := by
    rintro rfl
    exact absurd h (by simp [hd])
  simp (disch := decide) [isWordChar, isSpace, hne]

theorem not_isSpace_of_isKeyChar {c : Char} (h : Reader.isKeyChar c) : isSpace c = false := by
  cases hspace : isSpace c with
  | false => rfl
  | true => exact absurd (isWordChar_of_isKeyChar h) (by simp [isWordChar, hspace])

theorem isKeyChar_of_isDigit {c : Char} (h : Decimal.isDigit c) : Reader.isKeyChar c := by
  simp only [Decimal.isDigit] at h
  simp only [Reader.isKeyChar, h, Bool.or_true, Bool.true_or]

theorem isKeyChar_digits (n : Nat) : (Decimal.digits n).all Reader.isKeyChar := by
  rw [List.all_eq_true]
  intro c hc
  exact isKeyChar_of_isDigit (List.all_eq_true.1 (Decimal.all_isDigit_digits n) c hc)

/-- A word goes up to what is no part of it. -/
theorem scanToken_word {c : Char} {w : List Char} (hw : (c :: w).all Reader.isKeyChar)
    {rest : List Char} (hrest : StopsAt isWordChar rest) :
    scanToken c (w ++ rest) = some (.word (c :: w), rest) := by
  rw [List.all_cons, Bool.and_eq_true] at hw
  have hc : isWordChar c := isWordChar_of_isKeyChar hw.1
  have hall : w.all isWordChar := List.all_eq_true.2 fun d hd ↦
    isWordChar_of_isKeyChar (List.all_eq_true.1 hw.2 d hd)
  unfold scanToken
  split
  all_goals try exact absurd hc (by decide)
  rw [not_isSpace_of_isKeyChar hw.1, if_neg Bool.false_ne_true, takeWhile_run hall hrest,
    dropWhile_run hall hrest]

/-! ## Integers -/

theorem digitsOf_of_all {ds : List Char} (hne : ds ≠ []) (hds : ds.all Decimal.isDigit) :
    digitsOf Decimal.isDigit ds = some ds := by
  induction ds with
  | nil => exact absurd rfl hne
  | cons d ds ih =>
    rw [List.all_cons, Bool.and_eq_true] at hds
    cases ds with
    | nil => simp [digitsOf, hds.1]
    | cons e ds =>
      have he : e ≠ '_' := by
        rintro rfl
        rw [List.all_cons, Bool.and_eq_true] at hds
        exact absurd hds.2.1 (by decide)
      have hplain : ∀ s, e :: ds ≠ '_' :: s := fun s h ↦ he (List.cons.inj h).1
      rw [digitsOf.eq_4 _ _ _ (List.cons_ne_nil e ds) hplain, if_pos hds.1,
        ih (List.cons_ne_nil e ds) hds.2]
      rfl

/-- The digits of a number are read back; none begins with a zero that should not be there. -/
theorem decimal?_digits (n : Nat) : decimal? (Decimal.digits n) = some n := by
  have hzero : (1 < (Decimal.digits n).length && (Decimal.digits n).head? == some '0') = false := by
    by_cases hn : n < 10
    · rw [Decimal.digits, if_pos hn]
      rfl
    · have hhead := Decimal.head?_digits_ne (show 0 < n by omega)
      rw [Bool.and_eq_false_iff]
      exact .inr (by simpa using hhead)
  have hdigits := digitsOf_of_all (Decimal.digits_ne_nil n) (Decimal.all_isDigit_digits n)
  simp only [decimal?, hdigits, gt_iff_lt]
  rw [if_neg (by simp [hzero]), Decimal.ofDigits_digits]

/-- Without a base, an integer is its sign and its digits. -/
theorem integer?_of_decimal {s : List Char} {negative : Bool} {ds : List Char} {n : Nat}
    (hbase : ∀ c rest, s = '0' :: c :: rest → Decimal.isDigit c)
    (hsign : splitSign s = (negative, ds)) (hds : decimal? ds = some n) :
    integer? s = some (if negative then -(n : Int) else n) := by
  unfold integer?
  split
  next => exact absurd (hbase _ _ rfl) (by decide)
  next => exact absurd (hbase _ _ rfl) (by decide)
  next => exact absurd (hbase _ _ rfl) (by decide)
  next =>
    simp only [hsign, hds]
    rfl

/-- A written integer is read back. -/
theorem integer?_ofInt (n : Int) : integer? (Decimal.ofInt n).toList = some n := by
  have hdecimal := decimal?_digits n.natAbs
  rw [Decimal.toList_ofInt]
  split
  next hneg =>
    have hbase : ∀ c rest, '-' :: Decimal.digits n.natAbs = '0' :: c :: rest →
        Decimal.isDigit c := fun _ _ h ↦ absurd (List.cons.inj h).1 (by decide)
    rw [integer?_of_decimal hbase rfl hdecimal, if_pos rfl, Option.some.injEq]
    omega
  next hpos =>
    obtain ⟨c, w, heq, hc, -⟩ := Decimal.exists_digits_eq_cons n.natAbs
    have hbase : ∀ d rest, Decimal.digits n.natAbs = '0' :: d :: rest → Decimal.isDigit d := by
      intro d rest h
      have hall := Decimal.all_isDigit_digits n.natAbs
      rw [h, List.all_cons, List.all_cons, Bool.and_eq_true, Bool.and_eq_true] at hall
      exact hall.2.1
    have hsign : splitSign (Decimal.digits n.natAbs) = (false, Decimal.digits n.natAbs) := by
      rw [heq]
      refine splitSign.eq_3 _ ?_ ?_
      · rintro rest ⟨⟩
        exact absurd hc (by decide)
      · rintro rest ⟨⟩
        exact absurd hc (by decide)
    rw [integer?_of_decimal hbase hsign hdecimal, if_neg Bool.false_ne_true, Option.some.injEq]
    omega

/-- A written integer reads as an integer, not as a float or a time. -/
theorem scalar?_ofInt (n : Int) : scalar? (Decimal.ofInt n).toList = some (.integer n) := by
  have hhead : ∃ c w, (Decimal.ofInt n).toList = c :: w ∧ (c = '-' ∨ Decimal.isDigit c) := by
    rw [Decimal.toList_ofInt]
    split
    · exact ⟨_, _, rfl, .inl rfl⟩
    · obtain ⟨c, w, heq, hc, -⟩ := Decimal.exists_digits_eq_cons n.natAbs
      exact ⟨c, w, heq, .inr hc⟩
  obtain ⟨c, w, heq, hc⟩ := hhead
  have htrue : (Decimal.ofInt n).toList ≠ "true".toList := by
    rw [heq]
    intro h
    cases h
    exact absurd hc (by decide)
  have hfalse : (Decimal.ofInt n).toList ≠ "false".toList := by
    rw [heq]
    intro h
    cases h
    exact absurd hc (by decide)
  rw [scalar?, if_neg htrue, if_neg hfalse, integer?_ofInt]
/-! ## Values -/

def Literal.token : Literal → Token
  | .string s => .string (Quoting.of s.toList).isMultiline s.toList
  | .integer n => .word (Decimal.ofInt n).toList
  | .boolean b => .word (if b then "true".toList else "false".toList)

theorem Literal.value_injective {l l' : Literal} (h : l.value = l'.value) : l = l' := by
  cases l <;> cases l' <;> cases h <;> rfl

/-- What is written of an integer is a word. -/
theorem exists_ofInt_eq_cons (n : Int) : ∃ c w, (Decimal.ofInt n).toList = c :: w ∧
    isSpace c = false ∧ (c :: w).all Reader.isKeyChar := by
  have hdigits := isKeyChar_digits n.natAbs
  obtain ⟨c, w, heq, hc, -⟩ := Decimal.exists_digits_eq_cons n.natAbs
  rw [Decimal.toList_ofInt]
  split
  · refine ⟨_, _, rfl, rfl, ?_⟩
    rw [List.all_cons, hdigits]
    rfl
  · exact ⟨c, w, heq, not_isSpace_of_isKeyChar (isKeyChar_of_isDigit hc), heq ▸ hdigits⟩

/-- What is written of a value begins with a character that is no blank, from which its token is
read at the end of a line. -/
theorem Literal.scanToken_text (l : Literal) (rest : List Char) :
    ∃ c cs, l.text = c :: cs ∧ isSpace c = false ∧
      scanToken c (cs ++ '\n' :: rest) = some (l.token, '\n' :: rest) := by
  have hline : StopsAt isWordChar ('\n' :: rest) := stopsAt_cons rest rfl
  cases l with
  | string s => exact scanToken_quoted s.toList rest
  | integer n =>
    obtain ⟨c, w, htext, hspace, hw⟩ := exists_ofInt_eq_cons n
    refine ⟨c, w, htext, hspace, ?_⟩
    rw [scanToken_word hw hline, token, htext]
  | boolean b =>
    cases b with
    | false => exact ⟨_, _, rfl, rfl, scanToken_word (by decide) hline⟩
    | true => exact ⟨_, _, rfl, rfl, scanToken_word (by decide) hline⟩

/-! ## Tokens -/

/-- A text begins with these tokens, and goes on with the rest. -/
inductive Lexes : List Char → List Token → List Char → Prop
  | done {rest : List Char} : Lexes rest [] rest
  | token {c : Char} {piece s : List Char} {t : Token} {ts : List Token} {rest : List Char}
      (h : scanToken c (piece ++ s) = some (t, s)) (hs : Lexes s ts rest) :
      Lexes (c :: (piece ++ s)) (t :: ts) rest

/-- Texts that lex one after the other lex together. -/
theorem Lexes.append {s r rest : List Char} {ts us : List Token} (hs : Lexes s ts r)
    (hr : Lexes r us rest) : Lexes s (ts ++ us) rest := by
  induction hs with
  | done => exact hr
  | token h _ ih => exact .token h (ih hr)

/-- The tokens of a whole text are found. -/
theorem Lexes.tokensWithin_eq {s : List Char} {ts : List Token} (h : Lexes s ts []) {fuel : Nat}
    (hfuel : s.length ≤ fuel) : tokensWithin fuel s = some ts := by
  generalize hrest : ([] : List Char) = rest at h
  induction h generalizing fuel with
  | done =>
    subst hrest
    cases fuel <;> rfl
  | token h _ ih =>
    rw [List.length_cons, List.length_append] at hfuel
    cases fuel with
    | zero => omega
    | succ fuel =>
      have hlater := ih (Nat.le_trans (Nat.le_add_left _ _) (Nat.le_of_succ_le_succ hfuel)) hrest
      simp only [tokensWithin, h, Option.bind_some, hlater, Option.map_some]

section Pieces

variable {rest : List Char}

/-- A token of one character. -/
theorem Lexes.mark {c : Char} {s : List Char} {t : Token} {ts : List Token}
    (h : scanToken c s = some (t, s)) (hs : Lexes s ts rest) : Lexes (c :: s) (t :: ts) rest := by
  rw [← List.nil_append s] at h ⊢
  exact .token h hs

theorem lexes_word {w : List Char} (hne : w ≠ []) (hw : w.all Reader.isKeyChar)
    (hrest : StopsAt isWordChar rest) : Lexes (w ++ rest) [.word w] rest := by
  cases w with
  | nil => exact absurd rfl hne
  | cons c w => exact .token (scanToken_word hw hrest) .done

theorem scanToken_blank (hrest : StopsAt isSpace rest) :
    scanToken ' ' rest = some (.blank [' '], rest) := by
  have htake : rest.takeWhile isSpace = [] := @takeWhile_run isSpace [] rest rfl hrest
  have hdrop : rest.dropWhile isSpace = rest := @dropWhile_run isSpace [] rest rfl hrest
  change some (Token.blank (' ' :: rest.takeWhile isSpace), rest.dropWhile isSpace) = _
  rw [htake, hdrop]

end Pieces

def memberTokens (m : String × Literal) : List Token :=
  [.word m.1.toList, .blank [' '], .equals, .blank [' '], m.2.token, .newline]

def sectionTokens (t : String × List (String × Literal)) : List Token :=
  .openBracket :: .word t.1.toList :: .closeBracket :: .newline :: t.2.flatMap memberTokens

def documentTokens (ts : List (String × List (String × Literal))) : List Token :=
  [.newline].intercalate (ts.map sectionTokens)

/-- A name needs no quotes as a key. -/
def IsBare (name : String) : Prop := name.toList ≠ [] ∧ name.toList.all Reader.isKeyChar

instance (name : String) : Decidable (IsBare name) :=
  inferInstanceAs (Decidable (name.toList ≠ [] ∧ name.toList.all Reader.isKeyChar))

/-- The line of a member lexes to its tokens, whatever comes after it. -/
theorem lexes_memberLine {m : String × Literal} (hm : IsBare m.1) (rest : List Char) :
    Lexes (memberLine m ++ rest) (memberTokens m) rest := by
  obtain ⟨c, cs, htext, hspace, hvalue⟩ := m.2.scanToken_text rest
  have hpair : Lexes (' ' :: '=' :: ' ' :: c :: (cs ++ '\n' :: rest))
      [.blank [' '], .equals, .blank [' '], m.2.token, .newline] rest := by
    refine .mark (scanToken_blank (stopsAt_cons _ rfl)) (.mark rfl ?_)
    refine .mark (scanToken_blank (stopsAt_cons _ hspace)) (.token hvalue ?_)
    exact .mark rfl .done
  have hline := (lexes_word hm.1 hm.2 (stopsAt_cons _ rfl)).append hpair
  simpa [memberLine, memberTokens, htext] using hline

theorem lexes_memberLines {ms : List (String × Literal)} (hms : ∀ m ∈ ms, IsBare m.1)
    (rest : List Char) : Lexes (ms.flatMap memberLine ++ rest) (ms.flatMap memberTokens) rest := by
  induction ms with
  | nil => exact .done
  | cons m ms ih =>
    obtain ⟨hm, hms⟩ := List.forall_mem_cons.1 hms
    rw [List.flatMap_cons, List.flatMap_cons, List.append_assoc]
    exact (lexes_memberLine hm _).append (ih hms)

/-- A table can be written: its names need no quotes, and it has each once. -/
structure IsWritable (t : String × List (String × Literal)) : Prop where
  bare : IsBare t.1
  members_bare : ∀ m ∈ t.2, IsBare m.1
  members_nodup : (t.2.map (·.1)).Nodup

theorem lexes_section {t : String × List (String × Literal)} (ht : IsWritable t)
    (rest : List Char) : Lexes (section' t ++ rest) (sectionTokens t) rest := by
  have hhead : Lexes ('[' :: (t.1.toList ++ ']' :: '\n' :: (t.2.flatMap memberLine ++ rest)))
      (.openBracket :: [.word t.1.toList] ++ [.closeBracket, .newline])
      (t.2.flatMap memberLine ++ rest) := by
    refine .mark rfl ((lexes_word ht.bare.1 ht.bare.2 (stopsAt_cons _ rfl)).append ?_)
    exact .mark rfl (.mark rfl .done)
  have hall := hhead.append (lexes_memberLines ht.members_bare rest)
  simpa [section', sectionTokens] using hall

/-- A written document lexes to its tokens. -/
theorem lexes_document {ts : List (String × List (String × Literal))}
    (hts : ∀ t ∈ ts, IsWritable t) : Lexes (document ts) (documentTokens ts) [] := by
  unfold document documentTokens
  match ts with
  | [] => exact .done
  | [t] =>
    have ht := lexes_section (hts t List.mem_cons_self) []
    rw [List.append_nil] at ht
    simpa [List.intercalate] using ht
  | t :: t' :: ts =>
    obtain ⟨ht, hts⟩ := List.forall_mem_cons.1 hts
    have hrest := lexes_document hts
    unfold document documentTokens at hrest
    have hall := (lexes_section ht _).append (.mark (c := '\n') rfl hrest)
    simpa [List.intercalate] using hall

/-! ## Lines -/

theorem not_mem_of_nodup_append {a : String} {l l' : List String} (h : (l ++ a :: l').Nodup) :
    a ∉ l :=
  fun hmem ↦ (List.nodup_append.1 h).2.2 a hmem a List.mem_cons_self rfl

namespace Members

variable {ms : Members} {k : String} (v : Value)

theorem find?_eq_none (hk : k ∉ ms.map (·.1)) : find? ms k = none := by
  rw [find?, List.lookup_eq_none_iff]
  intro m hm
  have hne : k ≠ m.1 := fun h ↦ hk (h ▸ List.mem_map_of_mem hm)
  simpa using hne

theorem find?_concat (hk : k ∉ ms.map (·.1)) : find? (ms ++ [(k, v)]) k = some v := by
  have hnone := find?_eq_none hk
  rw [find?] at hnone ⊢
  rw [List.lookup_append, hnone, Option.none_or, List.lookup_cons_self]

theorem replace_concat (hk : k ∉ ms.map (·.1)) (w : Value) :
    replace (ms ++ [(k, v)]) k w = ms ++ [(k, w)] := by
  have hsame : ms.map (fun m ↦ if m.1 == k then (k, w) else m) = ms := by
    conv => rhs; rw [← List.map_id ms]
    refine List.map_congr_left fun m hm ↦ ?_
    have hne : m.1 ≠ k := fun h ↦ hk (h ▸ List.mem_map_of_mem hm)
    rw [if_neg (by simpa using hne)]
    rfl
  rw [replace, List.map_append, hsame]
  simp

end Members

/-- The members that are read of those that are written. -/
def written (ms : List (String × Literal)) : Members := ms.map fun m ↦ (m.1, m.2.value)

/-- A document where the table at its end is open. -/
def openAt (root : Members) (name : String) (ms : Members) : Reader :=
  ⟨root ++ [(name, .table .header ms)], [name], .line⟩

theorem keyPart?_word {name : String} (h : IsBare name) :
    Reader.keyPart? (.word name.toList) = some name := by
  rw [Reader.keyPart?, if_pos h.2, String.ofList_toList]

/-- A value at the end of a line is given to the key of the line. -/
theorem foldlM_valueTokens (l : Literal) (r : Reader) (key : List String) :
    [l.token, .newline].foldlM Reader.step { r with place := .value [.pair key] } =
      r.assign key l.value .line := by
  have hword {w : List Char} {v : Value} (h : scalar? w = some v) :
      [.word w, .newline].foldlM Reader.step { r with place := .value [.pair key] } =
        r.assign key v .line := by
    simp [Reader.step, Reader.startValue, Reader.at', Reader.afterScalar, h, Reader.afterValue,
      Reader.assign]
  cases l with
  | string s =>
    simp [Literal.token, Literal.value, Reader.step, Reader.startValue, Reader.at',
      Reader.afterValue, Reader.assign]
  | integer n => exact hword (scalar?_ofInt n)
  | boolean b =>
    cases b with
    | false => exact hword rfl
    | true => exact hword rfl

section Reading

variable {root : Members} {name : String} (hname : name ∉ root.map (·.1))

include hname

/-- A key that is new goes to the end of the open table. -/
theorem assign_openAt {ms : Members} {key : String} (hnew : key ∉ ms.map (·.1)) (v : Value) :
    (openAt root name ms).assign [key] v .line = some (openAt root name (ms ++ [(key, v)])) := by
  have hnone := Members.find?_eq_none hnew
  simp [Reader.assign, openAt, Members.descend, Members.find?_concat _ hname, Members.assign, hnone,
    Members.replace_concat _ hname]

/-- A member goes to the end of the table that is open. -/
theorem foldlM_memberTokens {ms : Members} {m : String × Literal} (hm : IsBare m.1)
    (hnew : m.1 ∉ ms.map (·.1)) :
    (memberTokens m).foldlM Reader.step (openAt root name ms) =
      some (openAt root name (ms ++ [(m.1, m.2.value)])) := by
  have hkey : [.word m.1.toList, .blank [' '], .equals, .blank [' ']].foldlM Reader.step
      (openAt root name ms) = some { openAt root name ms with place := .value [.pair [m.1]] } := by
    simp [openAt, Reader.step, Reader.startPart, keyPart?_word hm, Reader.at', Reader.afterPart]
  have htokens : memberTokens m =
      [.word m.1.toList, .blank [' '], .equals, .blank [' ']] ++ [m.2.token, .newline] := rfl
  rw [htokens, List.foldlM_append, hkey, Option.bind_eq_bind, Option.bind_some,
    foldlM_valueTokens, assign_openAt hname hnew]

/-- Members with new names go to the end of the table that is open, one after another. -/
theorem foldlM_memberLines {ms : Members} {ls : List (String × Literal)}
    (hls : ∀ m ∈ ls, IsBare m.1) (hnodup : (ms.map (·.1) ++ ls.map (·.1)).Nodup) :
    (ls.flatMap memberTokens).foldlM Reader.step (openAt root name ms) =
      some (openAt root name (ms ++ written ls)) := by
  induction ls generalizing ms with
  | nil => simp [written]
  | cons m ls ih =>
    obtain ⟨hm, hls⟩ := List.forall_mem_cons.1 hls
    have hnew := not_mem_of_nodup_append hnodup
    have hmoved : ((ms ++ [(m.1, m.2.value)]).map (·.1) ++ ls.map (·.1)).Nodup := by
      simpa using hnodup
    rw [List.flatMap_cons, List.foldlM_append, foldlM_memberTokens hname hm hnew,
      Option.bind_eq_bind, Option.bind_some, ih hls hmoved, written, written, List.map_cons,
      List.append_assoc, List.singleton_append]

end Reading

/-- A header opens a table at the end of the document, and the members of the table are read into
it. -/
theorem foldlM_sectionTokens {root : Members} {t : String × List (String × Literal)}
    (ht : IsWritable t) (hnew : t.1 ∉ root.map (·.1)) (table : List String) :
    (sectionTokens t).foldlM Reader.step ⟨root, table, .line⟩ =
      some (openAt root t.1 (written t.2)) := by
  have hheader : [.openBracket, .word t.1.toList, .closeBracket, .newline].foldlM Reader.step
      ⟨root, table, .line⟩ = some (openAt root t.1 []) := by
    simp [openAt, Reader.step, Reader.startPart, keyPart?_word ht.bare, Reader.at',
      Reader.afterPart, Reader.openTable, Members.descend, Members.openTable,
      Members.find?_eq_none hnew]
  have htokens : sectionTokens t =
      [.openBracket, .word t.1.toList, .closeBracket, .newline] ++ t.2.flatMap memberTokens := rfl
  have hlines := @foldlM_memberLines root t.1 hnew [] t.2 ht.members_bare ht.members_nodup
  rw [htokens, List.foldlM_append, hheader, Option.bind_eq_bind, Option.bind_some, hlines,
    List.nil_append]

/-! ## Documents -/

/-- The tables that are read of those that are written. -/
def writtenTables (ts : List (String × List (String × Literal))) : Members :=
  ts.map fun t ↦ (t.1, .table .header (written t.2))

/-- The tables of a document go to the end of what has been read before. -/
theorem foldlM_documentTokens (ts : List (String × List (String × Literal)))
    (hts : ∀ t ∈ ts, IsWritable t) (root : Members)
    (hnodup : (root.map (·.1) ++ ts.map (·.1)).Nodup) (table : List String) :
    ∃ table', (documentTokens ts).foldlM Reader.step ⟨root, table, .line⟩ =
      some ⟨root ++ writtenTables ts, table', .line⟩ := by
  match ts with
  | [] => exact ⟨table, by simp [documentTokens, writtenTables]⟩
  | [t] =>
    have hnew := not_mem_of_nodup_append hnodup
    have hread := foldlM_sectionTokens (hts t List.mem_cons_self) hnew table
    exact ⟨[t.1], by
      simpa [documentTokens, List.intercalate, writtenTables, openAt] using hread⟩
  | t :: t' :: ts =>
    obtain ⟨ht, hts⟩ := List.forall_mem_cons.1 hts
    have hnew := not_mem_of_nodup_append hnodup
    have hread := foldlM_sectionTokens ht hnew table
    have hmoved : ((root ++ [(t.1, Value.table .header (written t.2))]).map (·.1) ++
        (t' :: ts).map (·.1)).Nodup := by
      simpa using hnodup
    obtain ⟨table', hlater⟩ := foldlM_documentTokens (t' :: ts) hts _ hmoved [t.1]
    have htokens : documentTokens (t :: t' :: ts) =
        sectionTokens t ++ ([.newline] ++ documentTokens (t' :: ts)) := by
      simp [documentTokens, List.intercalate]
    have hblank : [Token.newline].foldlM Reader.step (openAt root t.1 (written t.2)) =
        some (openAt root t.1 (written t.2)) := rfl
    refine ⟨table', ?_⟩
    rw [htokens, List.foldlM_append, hread, Option.bind_eq_bind, Option.bind_some,
      List.foldlM_append, hblank, Option.bind_eq_bind, Option.bind_some, openAt, hlater]
    simp [writtenTables]

/-- A written document does not begin with a byte order mark. -/
theorem document_ne_mark (ts : List (String × List (String × Literal))) (rest : List Char) :
    document ts ≠ '\uFEFF' :: rest := by
  match ts with
  | [] => nofun
  | [t] | t :: _ :: ts =>
    intro h
    simp [document, section', List.intercalate] at h

/-- A document of tables is read as these tables. -/
theorem parse?_document {ts : List (String × List (String × Literal))}
    (hts : ∀ t ∈ ts, IsWritable t) (hnodup : (ts.map (·.1)).Nodup) :
    parse? (String.ofList (document ts)) = some (writtenTables ts) := by
  have htokens : tokens? (document ts) = some (documentTokens ts) := by
    rw [tokens?.eq_2 _ (document_ne_mark ts)]
    exact (lexes_document hts).tokensWithin_eq (Nat.le_refl _)
  obtain ⟨table, hread⟩ := foldlM_documentTokens ts hts [] hnodup []
  rw [List.nil_append] at hread
  simp [parse?, htokens, Reader.start, hread, Reader.done?]

end JobWatch.Toml

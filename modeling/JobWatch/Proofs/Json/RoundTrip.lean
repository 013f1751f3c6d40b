import JobWatch.Json.Parser
import JobWatch.Json.Printer
import JobWatch.Proofs.Text.Utf8

/-!
# What is written of a JSON value is read back

The way back goes through the same three layers as the way out. Octets give the characters that
were written. Characters give the tokens: a token is read off the front of what follows, whatever
that is (`scanToken_text`), except for a number, which would go on with a digit after it; numbers
are left out here. Tokens give the value: what is open around a value does not matter to it, so
each value takes the cursor from where a value starts to where it is complete (`foldlM_tokens`).
-/

namespace JobWatch.Json

open Text

/-! ## String literals -/

/-- A part of a literal spells a character, whatever parts come after it. -/
def Piece.Spells (p : Piece) (c : Char) : Prop :=
  ∀ ps, pieceText? (p :: ps) = (pieceText? ps).map (c :: ·)

theorem Piece.spells_char (c : Char) : (Piece.char c).Spells c := fun _ ↦ rfl

/-- A unit below the surrogates spells its character; it never goes with the unit after it. -/
theorem Piece.spells_unit {c : Char} (h : c.toNat < 0xD800) : (Piece.unit c.toNat).Spells c := by
  intro ps
  cases ps with
  | nil =>
    simp only [pieceText?, Char.ofNat_toNat]
    rw [if_neg (by omega)]
  | cons p ps =>
    cases p with
    | char d | stray =>
      simp only [pieceText?, Char.ofNat_toNat]
      rw [if_neg (by omega)]
    | unit m =>
      simp only [pieceText?.eq_4, Char.ofNat_toNat]
      rw [if_neg (by omega), if_neg (by omega)]

/-- Four hexadecimal digits of a small code point are read back. -/
theorem hex4?_lower {n : Nat} (h : n < 256) :
    hex4? (some '0') (some '0') (some (Hex.lower (n / 16))) (some (Hex.lower (n % 16))) =
      some n := by
  have hhigh := Hex.value?_lower (show n / 16 < 16 by omega)
  have hlow := Hex.value?_lower (show n % 16 < 16 by omega)
  have hzero : Hex.value? '0' = some 0 := rfl
  have hdigits : (n / 16) * 16 + n % 16 = n := by omega
  simp [hex4?, Hex.ofDigits?, hzero, hhigh, hlow, hdigits]

/-- What is written for a character in a literal is one part of it. -/
theorem scanString_escapeChar (c : Char) :
    ∃ p : Piece, p.Spells c ∧ ∀ rest, scanString ((escapeChar c).map some ++ rest) =
      (scanString rest).map fun (ps, r) ↦ (p :: ps, r) := by
  unfold escapeChar
  split
  · exact ⟨_, Piece.spells_char _, fun rest ↦ rfl⟩
  · exact ⟨_, Piece.spells_char _, fun rest ↦ rfl⟩
  · exact ⟨_, Piece.spells_char _, fun rest ↦ rfl⟩
  · exact ⟨_, Piece.spells_char _, fun rest ↦ rfl⟩
  · exact ⟨_, Piece.spells_char _, fun rest ↦ rfl⟩
  · exact ⟨_, Piece.spells_char _, fun rest ↦ rfl⟩
  · exact ⟨_, Piece.spells_char _, fun rest ↦ rfl⟩
  next hquote hbackslash _ _ _ _ _ =>
    split
    next h =>
      have hlt : c.toNat < 32 := h
      refine ⟨_, Piece.spells_unit (show c.toNat < 0xD800 by omega), fun rest ↦ ?_⟩
      simp only [List.map_cons, List.map_nil, List.cons_append, List.nil_append, scanString.eq_2,
        hex4?_lower (show c.toNat < 256 by omega)]
    next h =>
      refine ⟨_, Piece.spells_char c, fun rest ↦ ?_⟩
      simp only [List.map_cons, List.map_nil, List.cons_append, List.nil_append]
      rw [scanString.eq_4 _ _ hquote (fun _ _ _ _ _ _ ↦ hbackslash) (fun _ _ _ ↦ hbackslash),
        if_neg (fun hc ↦ hc.elim hbackslash h)]

/-- The parts of a literal up to its closing quote spell what was written. -/
theorem scanString_escaped (s : List Char) (rest : List Symbol) :
    ∃ ps, pieceText? ps = some s ∧
      scanString ((s.flatMap escapeChar ++ ['"']).map some ++ rest) = some (ps, rest) := by
  induction s with
  | nil => exact ⟨[], rfl, rfl⟩
  | cons c s ih =>
    obtain ⟨ps, hps, hscan⟩ := ih
    obtain ⟨p, hp, hc⟩ := scanString_escapeChar c
    refine ⟨p :: ps, ?_, ?_⟩
    · rw [hp ps, hps]
      rfl
    · rw [List.flatMap_cons, List.append_assoc, List.map_append, List.append_assoc, hc, hscan]
      rfl

/-! ## Tokens -/

/-- A token is no number. -/
def Token.IsWord (t : Token) : Prop := ∀ n, t ≠ .number n

/-- What is written of a token begins with a character, from which the token is read back, whatever
follows. -/
theorem scanToken_text {t : Token} (ht : t.IsWord) :
    ∃ c cs, t.text = c :: cs ∧ isSpace c = false ∧
      ∀ rest, scanToken c (cs.map some ++ rest) = some (t, rest) := by
  cases t with
  | openArray | closeArray | openObject | closeObject | comma | colon | null =>
    exact ⟨_, _, rfl, rfl, fun rest ↦ rfl⟩
  | bool b => cases b <;> exact ⟨_, _, rfl, rfl, fun rest ↦ rfl⟩
  | number n => exact absurd rfl (ht n)
  | string text =>
    cases text with
    | none => exact ⟨_, _, rfl, rfl, fun rest ↦ rfl⟩
    | some s =>
      refine ⟨'"', s.toList.flatMap escapeChar ++ ['"'], rfl, rfl, fun rest ↦ ?_⟩
      obtain ⟨ps, hps, hscan⟩ := scanString_escaped s.toList rest
      simp only [scanToken, hscan, Option.map_some, hps, String.ofList_toList]

/-- Tokens are read back from what is written of them. -/
theorem tokensWithin_text {ts : List Token} (hts : ∀ t ∈ ts, t.IsWord) {fuel : Nat}
    (hfuel : (ts.flatMap Token.text).length ≤ fuel) :
    tokensWithin fuel ((ts.flatMap Token.text).map some) = some ts := by
  induction ts generalizing fuel with
  | nil => cases fuel <;> rfl
  | cons t ts ih =>
    obtain ⟨c, cs, htext, hspace, hscan⟩ := scanToken_text (hts t List.mem_cons_self)
    rw [List.flatMap_cons, htext] at hfuel ⊢
    cases fuel with
    | zero => simp at hfuel
    | succ fuel =>
      have hrest : (ts.flatMap Token.text).length ≤ fuel := by
        simp only [List.cons_append, List.length_cons, List.length_append] at hfuel
        omega
      have ih := ih (fun t' ht' ↦ hts t' (List.mem_cons_of_mem _ ht')) hrest
      simp only [List.cons_append, List.map_cons, List.map_append, tokensWithin, hspace, hscan,
        Option.bind_some, ih, Option.map_some, Bool.false_eq_true, if_false]

/-! ## Values -/

/-- What is written of a value begins with a token that ends no array. -/
theorem exists_tokens_eq_cons (v : Json) :
    ∃ t ts, v.tokens = t :: ts ∧ t ≠ .closeArray := by
  cases v with
  | null | bool b | number n | string s => exact ⟨_, _, rfl, nofun⟩
  | array vs => cases vs <;> exact ⟨_, _, rfl, nofun⟩
  | object ms => cases ms <;> exact ⟨_, _, rfl, nofun⟩

/-- The first item of an array is read as any value is. -/
theorem foldlM_firstItem (v : Json) (open_ : List Frame) (rest : List Token) :
    (v.tokens ++ rest).foldlM Cursor.step (.firstItem open_) =
      (v.tokens ++ rest).foldlM Cursor.step (.value (.array [] :: open_)) := by
  obtain ⟨t, ts, htokens, ht⟩ := exists_tokens_eq_cons v
  have hstep : Cursor.step (.firstItem open_) t = Cursor.step (.value (.array [] :: open_)) t := by
    cases t <;> first | rfl | exact absurd rfl ht
  rw [htokens, List.cons_append, List.foldlM_cons, List.foldlM_cons, hstep]

mutual

/-- The tokens of a value complete it, whatever is open around it. -/
theorem foldlM_tokens (v : Json) (open_ : List Frame) (rest : List Token) :
    (v.tokens ++ rest).foldlM Cursor.step (.value open_) =
      rest.foldlM Cursor.step (.complete v open_) := by
  match v with
  | .null | .bool b | .number n | .string s => simp [tokens, Cursor.step, Cursor.startValue]
  | .array [] => simp [tokens, Cursor.step, Cursor.startValue]
  | .array (v :: vs) =>
    have hv := foldlM_tokens v (.array [] :: open_) (itemTokens vs ++ .closeArray :: rest)
    have hvs := foldlM_itemTokens vs v [] open_ rest
    have hopen : Cursor.step (.value open_) .openArray = some (.firstItem open_) := rfl
    simp only [tokens, List.cons_append, List.append_assoc, List.nil_append, List.foldlM_cons,
      hopen, Option.bind_eq_bind, Option.bind_some]
    rw [foldlM_firstItem, hv, hvs, List.reverse_nil, List.nil_append]
  | .object [] => simp [tokens, Cursor.step, Cursor.startValue]
  | .object ((k, v) :: ms) =>
    have hv := foldlM_tokens v (.object [] k :: open_) (memberTokens ms ++ .closeObject :: rest)
    have hms := foldlM_memberTokens ms k v [] open_ rest
    have hopen : Cursor.step (.value open_) .openObject = some (.firstName open_) := rfl
    have hname : Cursor.step (.firstName open_) (.string k) = some (.colon [] k open_) := rfl
    have hcolon : Cursor.step (.colon [] k open_) .colon = some (.value (.object [] k :: open_)) :=
      rfl
    simp only [tokens, List.cons_append, List.append_assoc, List.nil_append, List.foldlM_cons,
      hopen, hname, hcolon, Option.bind_eq_bind, Option.bind_some]
    rw [hv, hms, List.reverse_nil, List.nil_append]

/-- The items of an array after one of them complete it. -/
theorem foldlM_itemTokens (vs : List Json) (v : Json) (xs : List Json) (open_ : List Frame)
    (rest : List Token) :
    (itemTokens vs ++ .closeArray :: rest).foldlM Cursor.step (.complete v (.array xs :: open_)) =
      rest.foldlM Cursor.step (.complete (.array (xs.reverse ++ v :: vs)) open_) := by
  match vs with
  | [] => simp [itemTokens, Cursor.step]
  | w :: ws =>
    have hw := foldlM_tokens w (.array (v :: xs) :: open_) (itemTokens ws ++ .closeArray :: rest)
    have hws := foldlM_itemTokens ws w (v :: xs) open_ rest
    have hcomma : Cursor.step (.complete v (.array xs :: open_)) .comma =
        some (.value (.array (v :: xs) :: open_)) := rfl
    simp only [itemTokens, List.cons_append, List.append_assoc, List.foldlM_cons, hcomma,
      Option.bind_eq_bind, Option.bind_some]
    rw [hw, hws, List.reverse_cons, List.append_assoc, List.singleton_append]

/-- The members of an object after one of them complete it. -/
theorem foldlM_memberTokens (ms : List (Option String × Json)) (k : Option String) (v : Json)
    (xs : List (Option String × Json)) (open_ : List Frame) (rest : List Token) :
    (memberTokens ms ++ .closeObject :: rest).foldlM Cursor.step
        (.complete v (.object xs k :: open_)) =
      rest.foldlM Cursor.step (.complete (.object (xs.reverse ++ (k, v) :: ms)) open_) := by
  match ms with
  | [] => simp [memberTokens, Cursor.step]
  | (k', w) :: ws =>
    have hw := foldlM_tokens w (.object ((k, v) :: xs) k' :: open_)
      (memberTokens ws ++ .closeObject :: rest)
    have hws := foldlM_memberTokens ws k' w ((k, v) :: xs) open_ rest
    have hcomma : Cursor.step (.complete v (.object xs k :: open_)) .comma =
        some (.name ((k, v) :: xs) open_) := rfl
    have hname : Cursor.step (.name ((k, v) :: xs) open_) (.string k') =
        some (.colon ((k, v) :: xs) k' open_) := rfl
    have hcolon : Cursor.step (.colon ((k, v) :: xs) k' open_) .colon =
        some (.value (.object ((k, v) :: xs) k' :: open_)) := rfl
    simp only [memberTokens, List.cons_append, List.append_assoc, List.foldlM_cons, hcomma, hname,
      hcolon, Option.bind_eq_bind, Option.bind_some]
    rw [hw, hws, List.reverse_cons, List.append_assoc, List.singleton_append]

end

/-- A value is read back from its tokens. -/
theorem ofTokens?_tokens (v : Json) : ofTokens? v.tokens = some v := by
  have hfold := foldlM_tokens v [] []
  rw [List.append_nil] at hfold
  rw [ofTokens?, hfold]
  rfl

/-- No part of a value is a number. -/
def IsWordy (v : Json) : Prop := ∀ t ∈ v.tokens, t.IsWord

/-- A value without numbers is read back from the octets that are written of it. -/
theorem ofOctets?_render {v : Json} (hv : v.IsWordy) :
    ofOctets? (Utf8.encode v.render.toList) = some v := by
  have htokens : tokens? ((v.tokens.flatMap Token.text).map some) = some v.tokens :=
    tokensWithin_text hv (by simp)
  simp only [ofOctets?, ofSymbols?, render, String.toList_ofList, Utf8.symbols_encode, htokens,
    Option.bind_some, ofTokens?_tokens]

/-! ## Values without numbers -/

theorem isWordy_null : IsWordy .null := by simp [IsWordy, tokens, Token.IsWord]

theorem isWordy_bool (b : Bool) : IsWordy (.bool b) := by simp [IsWordy, tokens, Token.IsWord]

theorem isWordy_text (s : String) : (text s).IsWordy := by
  simp [IsWordy, text, tokens, Token.IsWord]

theorem isWord_itemTokens {vs : List Json} (h : ∀ v ∈ vs, v.IsWordy) :
    ∀ t ∈ itemTokens vs, t.IsWord := by
  induction vs with
  | nil => simp [itemTokens]
  | cons v vs ih =>
    obtain ⟨hv, hvs⟩ := List.forall_mem_cons.1 h
    intro t ht
    simp only [itemTokens, List.cons_append, List.mem_cons, List.mem_append] at ht
    rcases ht with rfl | ht | ht
    · exact nofun
    · exact hv t ht
    · exact ih hvs t ht

theorem isWordy_array {vs : List Json} (h : ∀ v ∈ vs, v.IsWordy) : IsWordy (.array vs) := by
  cases vs with
  | nil => simp [IsWordy, tokens, Token.IsWord]
  | cons v vs =>
    obtain ⟨hv, hvs⟩ := List.forall_mem_cons.1 h
    intro t ht
    simp only [tokens, List.cons_append, List.mem_cons, List.mem_append, List.not_mem_nil,
      or_false] at ht
    rcases ht with rfl | (ht | ht) | rfl
    · exact nofun
    · exact hv t ht
    · exact isWord_itemTokens hvs t ht
    · exact nofun

theorem isWord_memberTokens {ms : List (Option String × Json)} (h : ∀ m ∈ ms, m.2.IsWordy) :
    ∀ t ∈ memberTokens ms, t.IsWord := by
  induction ms with
  | nil => simp [memberTokens]
  | cons m ms ih =>
    obtain ⟨hm, hms⟩ := List.forall_mem_cons.1 h
    intro t ht
    simp only [memberTokens, List.cons_append, List.mem_cons, List.mem_append] at ht
    rcases ht with rfl | rfl | rfl | ht | ht
    · exact nofun
    · exact nofun
    · exact nofun
    · exact hm t ht
    · exact ih hms t ht

theorem isWordy_object {ms : List (Option String × Json)} (h : ∀ m ∈ ms, m.2.IsWordy) :
    IsWordy (.object ms) := by
  cases ms with
  | nil => simp [IsWordy, tokens, Token.IsWord]
  | cons m ms =>
    obtain ⟨hm, hms⟩ := List.forall_mem_cons.1 h
    intro t ht
    simp only [tokens, List.cons_append, List.mem_cons, List.mem_append, List.not_mem_nil,
      or_false] at ht
    rcases ht with rfl | rfl | rfl | (ht | ht) | rfl
    · exact nofun
    · exact nofun
    · exact nofun
    · exact hm t ht
    · exact isWord_memberTokens hms t ht
    · exact nofun

/-- An object whose members hold no number holds none. -/
theorem isWordy_ofMembers {ms : List (String × Json)} (h : ∀ m ∈ ms, m.2.IsWordy) :
    (ofMembers ms).IsWordy := by
  refine isWordy_object fun m hm ↦ ?_
  obtain ⟨m', hm', rfl⟩ := List.mem_map.1 hm
  exact h m' hm'

end JobWatch.Json

import JobWatch.Proofs.Toml.RoundTrip
import JobWatch.Settings.Schema
import Mathlib.Data.List.Nodup

/-!
# Lawful schemas

A record of settings is read back from what is written of it because its schema is lawful
(`Setting.Lawful`): what a setting reads it writes, without a change to the others, and the settings
together say all that there is to a record. The keys of a table may then come in any order.

What a setting writes has to lie between the bounds that it reads within (`Setting.Admits`). It does
in a fresh record, and reading keeps it so, whether a table or an array is read.
-/

namespace JobWatch

open Toml

namespace Setting

variable {α : Type}

/-- What a record has for the setting can be read, into any record. -/
def Admits (f : Setting α) (a : α) : Prop :=
  ∀ l, f.write a = some l → ∀ b, ∃ b', f.read b l.value = .ok b'

theorem Admits.congr {f : Setting α} {a b : α} (h : f.Admits a) (hwrite : f.write b = f.write a) :
    f.Admits b := by
  intro l hl
  exact h l (hwrite ▸ hl)

/-! ## Kinds of settings -/

/-- Reading sets a part of the record to what the value says, and that is what is written of it. -/
def ReadsBy {β : Type} (f : Setting α) (set : α → β → α) : Prop :=
  ∀ b v b', f.read b v = .ok b' → ∃ (l : Literal) (x : β), v = l.value ∧
    ∀ c, f.read c v = .ok (set c x) ∧ f.write (set c x) = some l

theorem ReadsBy.eq_set {β : Type} {f : Setting α} {set : α → β → α} (h : f.ReadsBy set) {b b' : α}
    {v : Value} (hread : f.read b v = .ok b') : ∃ x, b' = set b x := by
  obtain ⟨l, x, -, hset⟩ := h b v b' hread
  exact ⟨x, Except.ok.inj (hread.symm.trans (hset b).1)⟩

/-- What is read is written, and could have been read into any record. -/
theorem ReadsBy.read_back {β : Type} {f : Setting α} {set : α → β → α} (h : f.ReadsBy set) {b b' : α}
    {v : Value} (hread : f.read b v = .ok b') :
    f.Admits b' ∧ ∃ l : Literal, f.write b' = some l ∧ v = l.value := by
  obtain ⟨l, x, rfl, hset⟩ := h b v b' hread
  have hb' : b' = set b x := Except.ok.inj (hread.symm.trans (hset b).1)
  have hwrite : f.write b' = some l := hb' ▸ (hset b).2
  refine ⟨?_, l, hwrite, rfl⟩
  intro l' hl' c
  obtain rfl : l = l' := Option.some.inj (hwrite.symm.trans hl')
  exact ⟨set c x, (hset c).1⟩

section Kinds

variable (name : String)

theorem readsBy_text {get : α → String} {set : α → String → α} (h : ∀ a s, get (set a s) = s) :
    (text name get set).ReadsBy set := by
  rintro b v b' hread
  cases v with
  | string s => exact ⟨.string s, s, rfl, fun c ↦ ⟨rfl, by simp [text, h]⟩⟩
  | _ => cases hread

theorem readsBy_optionalText {get : α → Option String} {set : α → String → α}
    (h : ∀ a s, get (set a s) = some s) : (optionalText name get set).ReadsBy set := by
  rintro b v b' hread
  cases v with
  | string s => exact ⟨.string s, s, rfl, fun c ↦ ⟨rfl, by simp [optionalText, h]⟩⟩
  | _ => cases hread

theorem readsBy_switch {get : α → Bool} {set : α → Bool → α} (h : ∀ a x, get (set a x) = x) :
    (switch name get set).ReadsBy set := by
  rintro b v b' hread
  cases v with
  | boolean x => exact ⟨.boolean x, x, rfl, fun c ↦ ⟨rfl, by simp [switch, h]⟩⟩
  | _ => cases hread

theorem readsBy_number {least most : Int} {get : α → Int} {set : α → Int → α}
    (h : ∀ a n, least ≤ n → get (set a n) = n) : (number name least most get set).ReadsBy set := by
  rintro b v b' hread
  cases v with
  | integer n =>
    by_cases hn : least ≤ n ∧ n ≤ most
    · exact ⟨.integer n, n, rfl, fun c ↦ ⟨if_pos hn, by simp [number, h c n hn.1]⟩⟩
    · simp [number, hn] at hread
  | _ => cases hread

theorem readsBy_count {most : Int} {get : α → Nat} {set : α → Nat → α}
    (h : ∀ a n, get (set a n) = n) :
    (count name most get set).ReadsBy fun a (n : Int) ↦ set a n.toNat :=
  readsBy_number name fun a n hn ↦ by rw [h, Int.toNat_of_nonneg hn]

end Kinds

/-! ## Schemas -/

/-- Of the settings of a record some are written, each under its name. -/
theorem names_writeRecord_sublist (fields : List (Setting α)) (a : α) :
    ((writeRecord fields a).map (·.1)).Sublist (fields.map (·.name)) := by
  induction fields with
  | nil => exact .slnil
  | cons f fields ih =>
    rw [writeRecord] at ih
    cases hwrite : f.write a with
    | none =>
      rw [writeRecord, List.filterMap_cons_none (by rw [hwrite]; rfl)]
      exact ih.cons f.name
    | some l =>
      rw [writeRecord, List.filterMap_cons_some (by rw [hwrite]; rfl)]
      exact ih.cons_cons f.name

/-- The settings of a record are apart from one another and make up the record. In a fresh record
each can be read, and what may be missing is. -/
structure Lawful (fields : List (Setting α)) (fresh : α) : Prop where
  nodup : (fields.map (·.name)).Nodup
  apart : ∀ f ∈ fields, ∃ (β : Type) (set : α → β → α), f.ReadsBy set ∧
    ∀ g ∈ fields, g.name ≠ f.name → ∀ a x, g.write (set a x) = g.write a
  determined : ∀ a b, (∀ f ∈ fields, f.write a = f.write b) → a = b
  admits_fresh : ∀ f ∈ fields, f.Admits fresh
  write_fresh : ∀ f ∈ fields, ∀ a, f.write a = none → f.write fresh = none

namespace Lawful

variable {fields : List (Setting α)} {fresh : α} (hlaw : Lawful fields fresh)

include hlaw

theorem find?_name {f : Setting α} (hf : f ∈ fields) :
    fields.find? (·.name == f.name) = some f := by
  cases hfound : fields.find? (·.name == f.name) with
  | none => exact absurd (List.find?_eq_none.1 hfound f hf) (by simp)
  | some g =>
    have hname : g.name = f.name := by simpa using List.find?_some hfound
    have hg := List.mem_of_find?_eq_some hfound
    rw [List.inj_on_of_nodup_map hlaw.nodup hg hf hname]

/-- Reading one setting leaves the others as they were. -/
theorem write_of_read {f g : Setting α} (hf : f ∈ fields) (hg : g ∈ fields) (hne : g.name ≠ f.name)
    {a a' : α} {v : Value} (hread : f.read a v = .ok a') : g.write a' = g.write a := by
  obtain ⟨β, set, hset, hothers⟩ := hlaw.apart f hf
  obtain ⟨x, rfl⟩ := hset.eq_set hread
  exact hothers g hg hne a x

/-- What a field has read, it writes so that it is read back. -/
theorem read_back {f : Setting α} (hf : f ∈ fields) {a a' : α} {v : Value}
    (hread : f.read a v = .ok a') :
    f.Admits a' ∧ ∃ l : Literal, f.write a' = some l ∧ v = l.value := by
  obtain ⟨β, set, hset, -⟩ := hlaw.apart f hf
  exact hset.read_back hread

/-- Members that say what a record has are read, in any order. -/
theorem readMembers_written {a : α} (ha : ∀ f ∈ fields, f.Admits a) (ms : Members)
    (hms : ∀ m ∈ ms, ∃ f ∈ fields, ∃ l, f.write a = some l ∧ (f.name, l.value) = m) (b : α) :
    ∃ b', readMembers fields b ms = .ok b' ∧
      ∀ f ∈ fields, f.write b' = if f.name ∈ ms.map (·.1) then f.write a else f.write b := by
  induction ms generalizing b with
  | nil => exact ⟨b, rfl, fun f hf ↦ by simp⟩
  | cons m ms ih =>
    obtain ⟨⟨f, hf, l, hwrite, rfl⟩, hlater⟩ := List.forall_mem_cons.1 hms
    obtain ⟨b₁, hread⟩ := ha f hf l hwrite b
    obtain ⟨b', hlater, hb'⟩ := ih hlater b₁
    have hset : f.write b₁ = f.write a := by
      obtain ⟨-, l', hl', hvalue⟩ := hlaw.read_back hf hread
      rw [hl', hwrite, Literal.value_injective hvalue]
    refine ⟨b', ?_, ?_⟩
    · rw [readMembers, hlaw.find?_name hf]
      simp only [hread]
      exact hlater
    · intro g hg
      rw [hb' g hg, List.map_cons]
      by_cases heq : g.name = f.name
      · obtain rfl := List.inj_on_of_nodup_map hlaw.nodup hg hf heq
        simp [hset]
      · have hkept := hlaw.write_of_read hf hg heq hread
        simp only [hkept, List.mem_cons, heq, false_or]

/-- A record is read back from what is written of it. -/
theorem readRecord_writeRecord {a : α} (ha : ∀ f ∈ fields, f.Admits a) :
    readRecord fields fresh (.table .header (written (writeRecord fields a))) = .ok a := by
  have hmem (m : String × Value) : m ∈ (written (writeRecord fields a)).sorted ↔
      ∃ f ∈ fields, ∃ l, f.write a = some l ∧ (f.name, l.value) = m := by
    simp only [Members.sorted, List.mem_mergeSort, written, writeRecord, List.mem_map,
      List.mem_filterMap, Option.map_eq_some_iff]
    constructor
    · rintro ⟨_, ⟨f, hf, l, hl, rfl⟩, rfl⟩
      exact ⟨f, hf, l, hl, rfl⟩
    · rintro ⟨f, hf, l, hl, rfl⟩
      exact ⟨_, ⟨f, hf, l, hl, rfl⟩, rfl⟩
  obtain ⟨b, hread, hb⟩ := hlaw.readMembers_written ha _ (fun m ↦ (hmem m).1) fresh
  have hba : b = a := by
    refine hlaw.determined b a fun f hf ↦ ?_
    rw [hb f hf]
    split
    next => rfl
    next hnot =>
      cases hwrite : f.write a with
      | none => exact hlaw.write_fresh f hf a hwrite
      | some l =>
        exact absurd (List.mem_map_of_mem ((hmem _).2 ⟨f, hf, l, hwrite, rfl⟩)) hnot
  rw [readRecord, hread, hba]

theorem isWritable (a : α) {name : String} (hname : IsBare name)
    (hfields : ∀ f ∈ fields, IsBare f.name) : IsWritable (name, writeRecord fields a) := by
  have hsublist := names_writeRecord_sublist fields a
  refine ⟨hname, ?_, hsublist.nodup hlaw.nodup⟩
  intro m hm
  have hmem := hsublist.subset (List.mem_map_of_mem hm)
  obtain ⟨f, hf, hfm⟩ := List.mem_map.1 hmem
  exact hfm ▸ hfields f hf

/-- Reading a record keeps what it has readable. -/
theorem admits_read {f : Setting α} (hf : f ∈ fields) {a a' : α} {v : Value}
    (hread : f.read a v = .ok a') (ha : ∀ g ∈ fields, g.Admits a) : ∀ g ∈ fields, g.Admits a' := by
  intro g hg
  by_cases heq : g.name = f.name
  · obtain rfl := List.inj_on_of_nodup_map hlaw.nodup hg hf heq
    exact (hlaw.read_back hf hread).1
  · exact (ha g hg).congr (hlaw.write_of_read hf hg heq hread)

end Lawful

/-! ## What reading keeps -/

section Keeps

variable {fields : List (Setting α)} {P : α → Prop}

/-- What holds before the members of a table are read holds after it, if each of them keeps it. -/
theorem readMembers_keeps {ms : Members}
    (hP : ∀ f ∈ fields, ∀ v, (f.name, v) ∈ ms → ∀ a a', P a → f.read a v = .ok a' → P a')
    {a a' : α} (ha : P a) (hread : readMembers fields a ms = .ok a') : P a' := by
  fun_induction readMembers fields a ms with
  | case1 a => exact Except.ok.inj hread ▸ ha
  | case2 a k v ms hfound => cases hread
  | case3 a k v ms f hfound a₁ hstep ih =>
    have hname : f.name = k := by simpa using List.find?_some hfound
    have ha₁ : P a₁ :=
      hP f (List.mem_of_find?_eq_some hfound) v (hname ▸ List.mem_cons_self) a a₁ ha hstep
    exact ih (fun g hg w hw ↦ hP g hg w (List.mem_cons_of_mem _ hw)) ha₁ hread
  | case4 a k v ms f hfound e hstep => cases hread

/-- What holds before the items of an array are read holds after it, if it is kept by the settings
that have a place in the array. -/
theorem readItems_keeps {fs : List (Setting α)} {vs : List Value}
    (hP : ∀ f ∈ fs.take vs.length, ∀ v a a', P a → f.read a v = .ok a' → P a')
    {a a' : α} (ha : P a) (hread : readItems a fs vs = .ok a') : P a' := by
  fun_induction readItems a fs vs with
  | case1 a f fs v vs a₁ hstep ih =>
    simp only [List.length_cons, List.take_succ_cons, List.forall_mem_cons] at hP
    exact ih hP.2 (hP.1 v a a₁ ha hstep) hread
  | case2 a f fs v vs e hstep => cases hread
  | case3 a fs vs => exact Except.ok.inj hread ▸ ha

theorem readRecord_keeps (hP : ∀ f ∈ fields, ∀ v a a', P a → f.read a v = .ok a' → P a')
    {v : Value} {a a' : α} (ha : P a) (hread : readRecord fields a v = .ok a') : P a' := by
  unfold readRecord at hread
  split at hread
  · exact readMembers_keeps (fun f hf v _ ↦ hP f hf v) ha hread
  · exact readItems_keeps (fun f hf ↦ hP f (List.mem_of_mem_take hf)) ha hread
  · exact readItems_keeps (fun f hf ↦ hP f (List.mem_of_mem_take hf)) ha hread
  · cases hread
  · cases hread

end Keeps

/-- All that a record has after it was read could have been read. -/
theorem Lawful.admits_of_readRecord {fields : List (Setting α)} {fresh : α}
    (hlaw : Lawful fields fresh) {v : Value} {a : α} (hread : readRecord fields fresh v = .ok a) :
    ∀ f ∈ fields, f.Admits a :=
  readRecord_keeps (P := fun a ↦ ∀ f ∈ fields, f.Admits a)
    (fun _ hf _ _ _ ha h ↦ hlaw.admits_read hf h ha) hlaw.admits_fresh hread

theorem admits_text (name : String) (get : α → String) (set : α → String → α) (a : α) :
    (text name get set).Admits a := by
  rintro l ⟨⟩ b
  exact ⟨set b (get a), rfl⟩

theorem admits_optionalText (name : String) (get : α → Option String) (set : α → String → α)
    (a : α) : (optionalText name get set).Admits a := by
  intro l hl b
  obtain ⟨s, -, rfl⟩ := Option.map_eq_some_iff.1 hl
  exact ⟨set b s, rfl⟩

theorem admits_switch (name : String) (get : α → Bool) (set : α → Bool → α) (a : α) :
    (switch name get set).Admits a := by
  rintro l ⟨⟩ b
  exact ⟨set b (get a), rfl⟩

theorem admits_number (name : String) {least most : Int} {get : α → Int} (set : α → Int → α) {a : α}
    (h : least ≤ get a ∧ get a ≤ most) : (number name least most get set).Admits a := by
  rintro l ⟨⟩ b
  exact ⟨set b (get a), if_pos h⟩

theorem admits_count (name : String) {most : Int} {get : α → Nat} (set : α → Nat → α) {a : α}
    (h : get a ≤ most) : (count name most get set).Admits a :=
  admits_number name _ ⟨Int.natCast_nonneg _, h⟩

theorem map_string_inj {s t : Option String} (h : s.map Literal.string = t.map Literal.string) :
    s = t :=
  (Option.map_inj_right fun _ _ ↦ Literal.string.inj).1 h

end Setting

/-! ## The schemas -/

theorem ApiSettings.lawful_schema : Setting.Lawful schema .standard where
  nodup := by decide
  apart := by
    simp only [schema, List.forall_mem_cons]
    refine ⟨⟨_, _, Setting.readsBy_text _ ?_, ?_⟩, ⟨_, _, Setting.readsBy_optionalText _ ?_, ?_⟩,
      ⟨_, _, Setting.readsBy_count _ ?_, ?_⟩, nofun⟩
    all_goals simp [Setting.text, Setting.optionalText, Setting.count, Setting.number]
  determined := by
    rintro ⟨url, token, timeout⟩ ⟨url', token', timeout'⟩ h
    have h : url = url' ∧ token.map Literal.string = token'.map Literal.string ∧
        timeout = timeout' := by
      simpa [schema, Setting.text, Setting.optionalText, Setting.count, Setting.number,
        Int.natCast_inj] using h
    obtain ⟨rfl, htoken, rfl⟩ := h
    rw [Setting.map_string_inj htoken]
  admits_fresh := by
    simp only [schema, List.forall_mem_cons]
    exact ⟨Setting.admits_text _ _ _ _, Setting.admits_optionalText _ _ _ _,
      Setting.admits_count _ _ (by decide), nofun⟩
  write_fresh := by
    simp [schema, Setting.text, Setting.optionalText, Setting.count, Setting.number, standard]

theorem TimingSettings.lawful_schema : Setting.Lawful schema .standard where
  nodup := by decide
  apart := by
    simp only [schema, List.forall_mem_cons]
    refine ⟨⟨_, _, Setting.readsBy_count _ ?_, ?_⟩, ⟨_, _, Setting.readsBy_count _ ?_, ?_⟩,
      ⟨_, _, Setting.readsBy_count _ ?_, ?_⟩, ⟨_, _, Setting.readsBy_count _ ?_, ?_⟩,
      ⟨_, _, Setting.readsBy_number _ ?_, ?_⟩, ⟨_, _, Setting.readsBy_count _ ?_, ?_⟩,
      ⟨_, _, Setting.readsBy_count _ ?_, ?_⟩, ⟨_, _, Setting.readsBy_count _ ?_, ?_⟩, nofun⟩
    all_goals simp [Setting.count, Setting.number]
  determined := by
    rintro ⟨_, _, _, _, _, _, _, _⟩ ⟨_, _, _, _, _, _, _, _⟩ h
    simpa [schema, Setting.count, Setting.number, Int.natCast_inj] using h
  admits_fresh := by
    simp only [schema, List.forall_mem_cons]
    exact ⟨Setting.admits_count _ _ (by decide), Setting.admits_count _ _ (by decide),
      Setting.admits_count _ _ (by decide), Setting.admits_count _ _ (by decide),
      Setting.admits_number _ _ (by decide), Setting.admits_count _ _ (by decide),
      Setting.admits_count _ _ (by decide), Setting.admits_count _ _ (by decide), nofun⟩
  write_fresh := by simp [schema, Setting.count, Setting.number]

theorem LoggingSettings.lawful_schema : Setting.Lawful schema .standard where
  nodup := by decide
  apart := by
    simp only [schema, List.forall_mem_cons]
    refine ⟨⟨_, _, Setting.readsBy_text _ ?_, ?_⟩, ⟨_, _, Setting.readsBy_switch _ ?_, ?_⟩,
      ⟨_, _, Setting.readsBy_optionalText _ ?_, ?_⟩, nofun⟩
    all_goals simp [Setting.text, Setting.switch, Setting.optionalText]
  determined := by
    rintro ⟨level, json, file⟩ ⟨level', json', file'⟩ h
    have h : level = level' ∧ json = json' ∧
        file.map Literal.string = file'.map Literal.string := by
      simpa [schema, Setting.text, Setting.switch, Setting.optionalText] using h
    obtain ⟨rfl, rfl, hfile⟩ := h
    rw [Setting.map_string_inj hfile]
  admits_fresh := by
    simp only [schema, List.forall_mem_cons]
    exact ⟨Setting.admits_text _ _ _ _, Setting.admits_switch _ _ _ _,
      Setting.admits_optionalText _ _ _ _, nofun⟩
  write_fresh := by
    simp [schema, Setting.text, Setting.switch, Setting.optionalText, standard]

end JobWatch

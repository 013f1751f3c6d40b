import JobWatch.Text.Layout
import Mathlib.Data.List.Basic
import Mathlib.Data.List.Induction

/-!
# The cheapest lines

A layout cuts the words into lines, and no other cut costs less (`layout_optimal`): for each place
where the last line may begin, the layout that is kept costs no more than any cut that has that
place, and one more word leaves it so.

The cheapest layout need not fit. One column beyond the width costs 2500, and to break the line
costs a thousand and the square of what is then left empty, so that on wide lines an overlong line
may be the cheaper one. By how much it may be too long is bounded by what it saves
(`overflow_of_mem_layout`).
-/

namespace JobWatch.Text

/-! ## What lines cost -/

/-- The columns of some words, with the spaces after each. -/
def fullColumns : List Word → Nat
  | [] => 0
  | w :: ws => w.columns + w.blanks + fullColumns ws

/-- The spaces after the last word. -/
def endBlanks (l : List Word) : Nat := l.getLast?.elim 0 (·.blanks)

/-- The columns of a line, without the spaces at its end. -/
def lineColumns (l : List Word) : Nat := fullColumns l - endBlanks l

@[simp] theorem fullColumns_nil : fullColumns [] = 0 := rfl

@[simp] theorem fullColumns_append (a b : List Word) :
    fullColumns (a ++ b) = fullColumns a + fullColumns b := by
  induction a with
  | nil => exact (Nat.zero_add _).symm
  | cons w a ih =>
    rw [List.cons_append, fullColumns, ih, fullColumns]
    exact (Nat.add_assoc ..).symm

@[simp] theorem fullColumns_singleton (w : Word) : fullColumns [w] = w.columns + w.blanks := rfl

@[simp] theorem lineColumns_singleton (w : Word) : lineColumns [w] = w.columns := by
  simp [lineColumns, endBlanks]

theorem endBlanks_le_fullColumns (l : List Word) : endBlanks l ≤ fullColumns l := by
  induction l using List.reverseRecOn with
  | nil => exact Nat.le_refl 0
  | append_singleton l w =>
    rw [endBlanks, List.getLast?_concat, fullColumns_append, fullColumns_singleton]
    change w.blanks ≤ _
    omega

theorem lineColumns_le_fullColumns (l : List Word) : lineColumns l ≤ fullColumns l :=
  Nat.sub_le ..

/-- The spaces at the end of a part count as soon as words follow it. -/
theorem lineColumns_append (a : List Word) {b : List Word} (hb : b ≠ []) :
    lineColumns (a ++ b) = fullColumns a + lineColumns b := by
  have hend : endBlanks (a ++ b) = endBlanks b := by
    rw [endBlanks, List.getLast?_append_of_ne_nil _ hb, endBlanks]
  rw [lineColumns, hend, fullColumns_append, lineColumns,
    Nat.add_sub_assoc (endBlanks_le_fullColumns b)]

section Cost

variable (p : Penalties) (target : Nat)

def lineCost (atEnd : Bool) (l : List Word) : Nat :=
  p.line +
    if target < lineColumns l then (lineColumns l - target) * p.overflow
    else if !atEnd then (target - lineColumns l) * (target - lineColumns l)
    else if l.length = 1 && lineColumns l * p.shortFraction < target then p.shortLast
    else 0

/-- What lines cost that more lines follow. -/
def openCost : List (List Word) → Nat
  | [] => 0
  | l :: ls => lineCost p target false l + openCost ls

def layoutCost : List (List Word) → Nat
  | [] => 0
  | l :: ls => lineCost p target ls.isEmpty l + layoutCost ls

theorem openCost_concat (ls : List (List Word)) (l : List Word) :
    openCost p target (ls ++ [l]) = openCost p target ls + lineCost p target false l := by
  induction ls with
  | nil => exact Nat.add_comm ..
  | cons m ls ih => rw [List.cons_append, openCost, ih, openCost, Nat.add_assoc]

/-- The cost of a layout is that of the lines before a place, all of them open, and of those after
it. -/
theorem layoutCost_append (before : List (List Word)) {after : List (List Word)}
    (hafter : after ≠ []) :
    layoutCost p target (before ++ after) =
      openCost p target before + layoutCost p target after := by
  induction before with
  | nil => simp [openCost]
  | cons l ls ih =>
    have hmore : (ls ++ after).isEmpty = false := by simp [hafter]
    rw [List.cons_append, layoutCost, hmore, ih, ← Nat.add_assoc]
    rfl

theorem layoutCost_concat (ls : List (List Word)) (l : List Word) :
    layoutCost p target (ls ++ [l]) = openCost p target ls + lineCost p target true l :=
  layoutCost_append p target ls (List.cons_ne_nil l [])

end Cost

/-- Lines that some words are put on, each with a word at least. -/
structure CutOf (words : List Word) (ls : List (List Word)) : Prop where
  flatten_eq : ls.flatten = words
  ne_nil : ∀ l ∈ ls, l ≠ []

namespace CutOf

variable {words : List Word} {ls : List (List Word)}

/-- Some words have a last line. -/
theorem exists_last (h : CutOf words ls) {w : Word} (hw : w ∈ words) :
    ∃ before l, ls = before ++ [l] ∧ l ≠ [] := by
  induction ls using List.reverseRecOn with
  | nil => exact absurd (h.flatten_eq ▸ hw) List.not_mem_nil
  | append_singleton before l => exact ⟨before, l, rfl, h.ne_nil l (by simp)⟩

theorem append {before : List Word} {l : List Word} (h : CutOf before ls) (hl : l ≠ []) :
    CutOf (before ++ l) (ls ++ [l]) where
  flatten_eq := by rw [List.flatten_concat, h.flatten_eq]
  ne_nil := fun m hm ↦ by
    rcases List.mem_append.1 hm with hm | hm
    · exact h.ne_nil m hm
    · exact List.mem_singleton.1 hm ▸ hl

end CutOf

/-! ## The layouts that are kept -/

namespace Layout

variable {p : Penalties} {target : Nat}

/-- The cheaper of two layouts is one of them and costs no more than either. -/
theorem cost_cheaper (a b : Layout) :
    (cheaper a b = a ∨ cheaper a b = b) ∧ (cheaper a b).cost ≤ a.cost ∧
      (cheaper a b).cost ≤ b.cost := by
  unfold cheaper
  split
  next h => exact ⟨.inr rfl, Nat.le_of_lt h, Nat.le_refl _⟩
  next h => exact ⟨.inl rfl, Nat.le_refl _, Nat.le_of_not_lt h⟩

/-- The cheapest of some layouts is one of them and costs no more than any. -/
theorem foldl_cheaper (l : Layout) (ls : List Layout) :
    ls.foldl cheaper l ∈ l :: ls ∧ ∀ m ∈ l :: ls, (ls.foldl cheaper l).cost ≤ m.cost := by
  induction ls generalizing l with
  | nil => simp
  | cons m ls ih =>
    obtain ⟨hmem, hle⟩ := ih (cheaper l m)
    obtain ⟨heither, hl, hm⟩ := cost_cheaper l m
    have hbest := hle _ List.mem_cons_self
    refine ⟨?_, fun n hn ↦ ?_⟩
    · rw [List.foldl_cons]
      rcases List.mem_cons.1 hmem with h | h
      · rw [h]
        rcases heither with h' | h' <;> rw [h'] <;> simp
      · exact List.mem_cons_of_mem _ (List.mem_cons_of_mem _ h)
    · rw [List.foldl_cons]
      rcases List.mem_cons.1 hn with rfl | hn
      · exact Nat.le_trans hbest hl
      · rcases List.mem_cons.1 hn with rfl | hn
        · exact Nat.le_trans hbest hm
        · exact hle n (List.mem_cons_of_mem _ hn)

/-- Of some layouts there is a cheapest one. -/
theorem exists_cheapest {ls : List Layout} (h : ls ≠ []) :
    ∃ best ∈ ls, cheapest ls = some best ∧ ∀ l ∈ ls, best.cost ≤ l.cost := by
  cases ls with
  | nil => exact absurd rfl h
  | cons l ls =>
    obtain ⟨hmem, hle⟩ := foldl_cheaper l ls
    exact ⟨_, hmem, rfl, hle⟩

theorem reverse_closed_close (atEnd : Bool) (o : Layout) :
    (o.close p target atEnd).closed.reverse = o.closed.reverse ++ [o.line.reverse] :=
  List.reverse_cons

variable (p target) in
/-- A layout stands for the words taken in: for the lines that are complete and the open one. -/
structure StandsFor (words : List Word) (o : Layout) : Prop where
  flatten_eq : o.closed.reverse.flatten ++ o.line.reverse = words
  ne_nil : ∀ l ∈ o.closed.reverse, l ≠ []
  cost_eq : o.cost = openCost p target o.closed.reverse
  columns_eq : o.columns = fullColumns o.line.reverse

namespace StandsFor

variable {words : List Word} {o : Layout} (h : o.StandsFor p target words)

include h

theorem add (w : Word) : (o.add w).StandsFor p target (words ++ [w]) where
  flatten_eq := by
    rw [← h.flatten_eq]
    simp [Layout.add]
  ne_nil := h.ne_nil
  cost_eq := h.cost_eq
  columns_eq := by
    have hcolumns := h.columns_eq
    simp only [Layout.add, List.reverse_cons, fullColumns_append, fullColumns_singleton, hcolumns]
    omega

theorem used_eq : o.used = lineColumns o.line.reverse := by
  rw [used, h.columns_eq, lineColumns, endBlanks, List.getLast?_reverse]

/-- The cost that a layout caches is that of the lines it stands for. -/
theorem costClosed_eq (atEnd : Bool) :
    o.costClosed p target atEnd =
      openCost p target o.closed.reverse + lineCost p target atEnd o.line.reverse := by
  simp only [costClosed, lineCost, h.used_eq, h.cost_eq, List.length_reverse, Nat.add_assoc]

theorem cut_of_ne_nil (hline : o.line ≠ []) (atEnd : Bool) :
    CutOf words (o.close p target atEnd).closed.reverse := by
  rw [reverse_closed_close, ← h.flatten_eq]
  exact CutOf.append ⟨rfl, h.ne_nil⟩ (by simpa using hline)

theorem close (hline : o.line ≠ []) : (o.close p target false).StandsFor p target words where
  flatten_eq := by
    rw [← (h.cut_of_ne_nil hline false).flatten_eq]
    exact List.append_nil _
  ne_nil := (h.cut_of_ne_nil hline false).ne_nil
  cost_eq := by
    rw [reverse_closed_close, openCost_concat]
    exact h.costClosed_eq false
  columns_eq := rfl

end StandsFor

variable (p target) in
/-- The layouts that are kept stand for the words taken in, and each cut of these words, with its
last line open, is matched by one that costs no more. -/
structure Keeps (words : List Word) (opens : List Layout) : Prop where
  standsFor : ∀ o ∈ opens, o.StandsFor p target words
  covers : ∀ ls line, ls.flatten ++ line = words → (∀ l ∈ ls, l ≠ []) →
    ∃ o ∈ opens, o.line.reverse = line ∧ o.cost ≤ openCost p target ls

/-- Before any word, the table holds the empty layout. -/
theorem keeps_start : Keeps p target [] [empty] where
  standsFor := fun o ho ↦ by
    rw [List.mem_singleton.1 ho]
    exact ⟨rfl, fun l hl ↦ absurd hl List.not_mem_nil, rfl, rfl⟩
  covers := fun ls line hwords _ ↦
    ⟨empty, List.mem_singleton_self _, (List.append_eq_nil_iff.1 hwords).2.symm, Nat.zero_le _⟩

section Step

variable {words : List Word} {opens : List Layout} (h : Keeps p target words opens) (w : Word)

include h

theorem Keeps.ne_nil : opens ≠ [] := by
  obtain ⟨o, ho, -⟩ := h.covers [] words rfl fun l hl ↦ absurd hl List.not_mem_nil
  exact List.ne_nil_of_mem ho

/-- With one more word on the open line, the layouts match each cut whose last line holds it. -/
theorem Keeps.covers_add {ls : List (List Word)} {line : List Word}
    (hwords : ls.flatten ++ line = words ++ [w]) (hls : ∀ l ∈ ls, l ≠ []) (hline : line ≠ []) :
    ∃ o ∈ opens, (o.add w).line.reverse = line ∧ o.cost ≤ openCost p target ls := by
  obtain ⟨line, v, rfl⟩ := line.eq_nil_or_concat.resolve_left hline
  rw [List.concat_eq_append, ← List.append_assoc] at hwords
  obtain ⟨hbefore, hv⟩ := List.append_inj' hwords rfl
  obtain ⟨o, ho, hopen, hcost⟩ := h.covers ls line hbefore hls
  refine ⟨o, ho, ?_, hcost⟩
  rw [add, List.reverse_cons, hopen, List.concat_eq_append, hv]

/-- The cheapest way to end the open line after one more word: it stands for a cut, and no cut costs
less. -/
theorem Keeps.exists_best (atEnd : Bool) :
    ∃ o ∈ opens, cheapest ((opens.map (·.add w)).map (close p target atEnd)) =
        some ((o.add w).close p target atEnd) ∧
      ∀ ls line, ls.flatten ++ line = words ++ [w] → (∀ l ∈ ls, l ≠ []) → line ≠ [] →
        (o.add w).costClosed p target atEnd ≤
          openCost p target ls + lineCost p target atEnd line := by
  have hne : (opens.map (·.add w)).map (close p target atEnd) ≠ [] := by simpa using h.ne_nil
  obtain ⟨best, hbest, hcheapest, hleast⟩ := exists_cheapest hne
  rw [List.map_map] at hbest
  obtain ⟨o, ho, rfl⟩ := List.mem_map.1 hbest
  refine ⟨o, ho, hcheapest, fun ls line hwords hls hline ↦ ?_⟩
  obtain ⟨o', ho', hopen, hcost⟩ := h.covers_add w hwords hls hline
  have hstands := (h.standsFor o' ho').add w
  have hle := hleast _ (List.mem_map_of_mem (List.mem_map_of_mem ho'))
  calc (o.add w).costClosed p target atEnd
    _ ≤ (o'.add w).costClosed p target atEnd := hle
    _ = openCost p target o'.closed.reverse + lineCost p target atEnd line := by
      rw [hstands.costClosed_eq, hopen]
      rfl
    _ ≤ openCost p target ls + lineCost p target atEnd line :=
      Nat.add_le_add_right ((h.standsFor o' ho').cost_eq ▸ hcost) _

/-- One more word, and the cheapest way to begin a new line after it. -/
theorem Keeps.step {best : Layout}
    (hbest : cheapest ((opens.map (·.add w)).map (close p target false)) = some best) :
    Keeps p target (words ++ [w]) (opens.map (·.add w) ++ [best]) := by
  obtain ⟨o, ho, hcheapest, hleast⟩ := h.exists_best w false
  obtain rfl := Option.some.inj (hbest.symm.trans hcheapest)
  have hclosed := ((h.standsFor o ho).add w).close (List.cons_ne_nil w o.line)
  refine ⟨fun o' ho' ↦ ?_, fun ls line hwords hls ↦ ?_⟩
  · rcases List.mem_append.1 ho' with ho' | ho'
    · obtain ⟨o'', ho'', rfl⟩ := List.mem_map.1 ho'
      exact (h.standsFor o'' ho'').add w
    · rw [List.mem_singleton.1 ho']
      exact hclosed
  · by_cases hline : line = []
    · -- The last line has just begun: what is kept for it is the cheapest cut of all.
      subst hline
      rw [List.append_nil] at hwords
      obtain ⟨before, last, rfl, hlast⟩ :=
        CutOf.exists_last ⟨hwords, hls⟩ (List.mem_append_right words (List.mem_singleton_self w))
      refine ⟨_, List.mem_append_right _ (List.mem_singleton_self _), rfl, ?_⟩
      rw [openCost_concat]
      refine hleast before last ?_ (fun l hl ↦ hls l (List.mem_append_left _ hl)) hlast
      rw [← hwords, List.flatten_concat]
    · obtain ⟨o', ho', hopen, hcost⟩ := h.covers_add w hwords hls hline
      exact ⟨o'.add w, List.mem_append_left _ (List.mem_map_of_mem ho'), hopen, hcost⟩

end Step

/-- The lines are a cut of the words, and no cut costs less. -/
theorem arrange_optimal {words ws : List Word} {opens : List Layout}
    (h : Keeps p target words opens) (hws : ws ≠ []) :
    CutOf (words ++ ws) (arrange p target opens ws) ∧
      ∀ ls, CutOf (words ++ ws) ls →
        layoutCost p target (arrange p target opens ws) ≤ layoutCost p target ls := by
  induction ws generalizing words opens with
  | nil => exact absurd rfl hws
  | cons w ws ih =>
    obtain ⟨o, ho, hcheapest, hleast⟩ := h.exists_best w ws.isEmpty
    have hstands := (h.standsFor o ho).add w
    simp only [arrange, hcheapest]
    cases ws with
    | nil =>
      refine ⟨hstands.cut_of_ne_nil (List.cons_ne_nil w o.line) true, fun ls hls ↦ ?_⟩
      obtain ⟨before, last, rfl, hlast⟩ :=
        hls.exists_last (List.mem_append_right words (List.mem_singleton_self w))
      calc layoutCost p target ((o.add w).close p target true).closed.reverse
        _ = (o.add w).costClosed p target true := by
          rw [reverse_closed_close, layoutCost_concat, hstands.costClosed_eq]
        _ ≤ openCost p target before + lineCost p target true last := by
          refine hleast before last ?_ (fun l hl ↦ hls.ne_nil l (List.mem_append_left _ hl)) hlast
          rw [← hls.flatten_eq, List.flatten_concat]
        _ = layoutCost p target (before ++ [last]) := (layoutCost_concat ..).symm
    | cons v ws =>
      have hnext := ih (h.step w hcheapest) (List.cons_ne_nil v ws)
      rw [List.append_assoc] at hnext
      exact hnext

end Layout

section Optimal

variable {t : Nat} {words : List Word}

/-- A layout cuts the words into lines, and no cut costs less. -/
theorem layout_optimal (hwords : words ≠ []) :
    CutOf words (layout t words) ∧
      ∀ ls, CutOf words ls →
        layoutCost .standard (max t 1) (layout t words) ≤ layoutCost .standard (max t 1) ls := by
  rw [layout, if_neg (by simpa using hwords)]
  exact Layout.arrange_optimal Layout.keeps_start hwords

/-- Breaking a line of a layout in two does not make it cheaper. -/
theorem lineCost_le_of_break (hwords : words ≠ []) (ht : 0 < t) {before after : List (List Word)}
    {a b : List Word} (h : layout t words = before ++ (a ++ b) :: after) (ha : a ≠ [])
    (hb : b ≠ []) :
    lineCost .standard t after.isEmpty (a ++ b) ≤
      lineCost .standard t false a + lineCost .standard t after.isEmpty b := by
  obtain ⟨hcut, hleast⟩ := layout_optimal (t := t) hwords
  rw [Nat.max_eq_left ht] at hleast
  rw [h] at hcut hleast
  have hbroken : CutOf words (before ++ a :: b :: after) := by
    refine ⟨by simpa using hcut.flatten_eq, fun l hl ↦ ?_⟩
    rcases List.mem_append.1 hl with hl | hl
    · exact hcut.ne_nil l (List.mem_append_left _ hl)
    · rcases List.mem_cons.1 hl with rfl | hl
      · exact ha
      · rcases List.mem_cons.1 hl with rfl | hl
        · exact hb
        · exact hcut.ne_nil l (List.mem_append_right _ (List.mem_cons_of_mem _ hl))
  have hle := hleast _ hbroken
  rw [layoutCost_append _ _ _ (List.cons_ne_nil _ _),
    layoutCost_append _ _ _ (List.cons_ne_nil _ _), layoutCost, layoutCost, layoutCost,
    List.isEmpty_cons] at hle
  omega

/-! ## How far a line may be too long -/

/-- The cost of a line that is too long. -/
theorem lineCost_of_lt (atEnd : Bool) {l : List Word} (h : t < lineColumns l) :
    lineCost .standard t atEnd l = 1000 + 2500 * (lineColumns l - t) := by
  rw [lineCost, if_pos h, Nat.mul_comm]
  rfl

variable (t) in
/-- What a line may cost over the thousand that each line costs: if it fits, no more than an empty
one. -/
def excess (l : List Word) : Nat :=
  if t < lineColumns l then 2500 * (lineColumns l - t) else t * t

/-- A line costs at most a thousand and its excess. -/
theorem lineCost_le (ht : 5 ≤ t) (atEnd : Bool) (l : List Word) :
    lineCost .standard t atEnd l ≤ 1000 + excess t l := by
  by_cases h : t < lineColumns l
  · exact Nat.le_of_eq (by rw [lineCost_of_lt atEnd h, excess, if_pos h])
  · have hgap : (t - lineColumns l) * (t - lineColumns l) ≤ t * t :=
      Nat.mul_le_mul (Nat.sub_le ..) (Nat.sub_le ..)
    have hshort : 5 * 5 ≤ t * t := Nat.mul_le_mul ht ht
    rw [lineCost, if_neg h, excess, if_neg h]
    refine Nat.add_le_add_left ?_ 1000
    split
    · exact hgap
    · split
      · exact Nat.le_trans (by decide) hshort
      · exact Nat.zero_le _

/-- What an overlong line costs for its length is no more than one more line and the two parts
would. -/
theorem overflow_le_of_break (ht : 5 ≤ t) (hwords : words ≠ []) {before after : List (List Word)}
    {a b : List Word} (h : layout t words = before ++ (a ++ b) :: after) (ha : a ≠ [])
    (hb : b ≠ []) (hlong : t < lineColumns (a ++ b)) :
    2500 * (lineColumns (a ++ b) - t) ≤ 1000 + excess t a + excess t b := by
  have hbreak := lineCost_le_of_break hwords (by omega) h ha hb
  have hcost := lineCost_of_lt after.isEmpty hlong
  have hacost := lineCost_le ht false a
  have hbcost := lineCost_le ht after.isEmpty b
  omega

/-- A line that is too long, of words that fit, has an end that fits, but not with the word in front
of it. -/
theorem exists_last_fitting {l : List Word} (hfit : ∀ w ∈ l, w.columns ≤ t)
    (hlong : t < lineColumns l) :
    ∃ a w b, l = a ++ w :: b ∧ b ≠ [] ∧ lineColumns b ≤ t ∧ t < lineColumns (w :: b) := by
  induction l with
  | nil => exact absurd hlong (Nat.not_lt_zero t)
  | cons w l ih =>
    by_cases hrest : t < lineColumns l
    · obtain ⟨a, v, b, rfl, hb⟩ := ih (fun v hv ↦ hfit v (List.mem_cons_of_mem w hv)) hrest
      exact ⟨w :: a, v, b, rfl, hb⟩
    · refine ⟨[], w, l, rfl, ?_, Nat.not_lt.1 hrest, hlong⟩
      rintro rfl
      rw [lineColumns_singleton] at hlong
      exact absurd (hfit w List.mem_cons_self) (Nat.not_le.2 hlong)

/-- An overlong line of a layout is bounded by what it saves: one line that is broken off, or two.
-/
theorem overflow_of_mem_layout (ht : 5 ≤ t) (hwords : words ≠ [])
    (hfit : ∀ w ∈ words, w.columns ≤ t) {l : List Word} (hl : l ∈ layout t words) :
    2500 * (lineColumns l - t) ≤ 1000 + 2 * (t * t) ∨
      ∃ x y, lineColumns l - t ≤ x + y ∧ 2500 * x ≤ 1000 + t * t ∧ 2500 * y ≤ 1000 + t * t := by
  by_cases hlong : t < lineColumns l
  case neg => exact .inl (by omega)
  obtain ⟨before, after, hlayout⟩ := List.append_of_mem hl
  have hmem : ∀ w ∈ l, w ∈ words := fun w hw ↦ by
    rw [← (layout_optimal hwords).1.flatten_eq]
    exact List.mem_flatten_of_mem hl hw
  obtain ⟨a, w, b, rfl, hb, hbfits, hwb⟩ :=
    exists_last_fitting (fun w hw ↦ hfit w (hmem w hw)) hlong
  have hw : w.columns ≤ t := hfit w (hmem w (by simp))
  have hcolumns : lineColumns (a ++ w :: b) = fullColumns a + lineColumns (w :: b) :=
    lineColumns_append a (List.cons_ne_nil w b)
  have hfront : lineColumns (a ++ [w]) = fullColumns a + w.columns := by
    rw [lineColumns_append a (List.cons_ne_nil w []), lineColumns_singleton]
  have hback : 2500 * (lineColumns (a ++ w :: b) - t) ≤ 1000 + excess t (a ++ [w]) + t * t := by
    have hline : a ++ w :: b = (a ++ [w]) ++ b := by simp
    rw [hline] at hlayout hlong ⊢
    have hover := overflow_le_of_break ht hwords hlayout (by simp) hb hlong
    rwa [excess.eq_def t b, if_neg (Nat.not_lt.2 hbfits)] at hover
  by_cases hfits : lineColumns (a ++ [w]) ≤ t
  case pos =>
    rw [excess, if_neg (Nat.not_lt.2 hfits)] at hback
    exact .inl (by omega)
  -- What stands in front is too long as well, so that its last word is not its only one.
  rw [Nat.not_le] at hfits
  rw [excess, if_pos hfits] at hback
  have ha : a ≠ [] := by
    rintro rfl
    rw [hfront, fullColumns_nil] at hfits
    omega
  have hover := overflow_le_of_break ht hwords hlayout ha (List.cons_ne_nil w b) hlong
  rw [excess.eq_def t (w :: b), if_pos hwb] at hover
  have hale := lineColumns_le_fullColumns a
  by_cases hafits : lineColumns a ≤ t
  · rw [excess, if_neg (Nat.not_lt.2 hafits)] at hover
    refine .inr ⟨lineColumns (a ++ w :: b) - lineColumns (w :: b),
      lineColumns (a ++ w :: b) - lineColumns (a ++ [w]), ?_, ?_, ?_⟩ <;> omega
  · rw [excess, if_pos (Nat.not_le.1 hafits)] at hover
    omega

/-- By how much a line may be too long. -/
theorem overflow_le (ht : 5 ≤ t) (hwords : words ≠ []) (hfit : ∀ w ∈ words, w.columns ≤ t)
    {l : List Word} (hl : l ∈ layout t words) :
    2500 * (lineColumns l - t) ≤ 2000 + 2 * (t * t) := by
  rcases overflow_of_mem_layout ht hwords hfit hl with h | ⟨x, y, h, hx, hy⟩ <;> omega

/-- On lines of at most 27 columns no overlong line pays. -/
theorem lineColumns_le_of_narrow (ht : 5 ≤ t) (hnarrow : t ≤ 27) (hwords : words ≠ [])
    (hfit : ∀ w ∈ words, w.columns ≤ t) {l : List Word} (hl : l ∈ layout t words) :
    lineColumns l ≤ t := by
  have hsquare : t * t ≤ 27 * 27 := Nat.mul_le_mul hnarrow hnarrow
  rcases overflow_of_mem_layout ht hwords hfit hl with h | ⟨x, y, h, hx, hy⟩ <;> omega

end Optimal

end JobWatch.Text

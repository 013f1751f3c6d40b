import JobWatch.Proofs.Text.Run
import JobWatch.Proofs.Text.Wrap

/-!
# A text that is not broken where it should be

On lines of 28 columns and more the cheapest layout need not fit. Three bells, which take no
columns, and between them one space more than a line has columns: to break the text at both gaps
leaves two lines empty, which costs more than to print one gap and be one column too long
(`exists_overlong`).
-/

namespace JobWatch.Text

/-! ## Words of a text without hyphens and escape sequences -/

theorem clearLast_concat_true (bs : List Bool) :
    Word.clearLast (bs ++ [true]) = bs ++ [false] := by
  induction bs with
  | nil => rfl
  | cons b bs ih =>
    rw [List.cons_append, Word.clearLast, if_pos (by simp), ih]
    rfl

section Plain

variable {s : List Char}

theorem markEscapes_of_esc_notMem (h : esc ∉ s) : markEscapes s = s.map (·, true) := by
  induction s with
  | nil => rfl
  | cons c s ih =>
    have hc : c ≠ esc := fun hc ↦ h (hc ▸ List.mem_cons_self)
    have hnext : EscapeState.outside.next c = (true, .outside) := if_neg hc
    rw [markEscapes, markFrom, hnext, List.map_cons]
    exact congrArg _ (ih fun hs ↦ h (List.mem_cons_of_mem c hs))

/-- All of a text without escape characters is shown. -/
theorem shown_of_esc_notMem (h : esc ∉ s) : shown s = s := by
  rw [shown, markEscapes_of_esc_notMem h]
  simp [List.filter_map, Function.comp_def]

theorem ends_of_no_hyphen (hs : s ≠ []) (h : ∀ c ∈ s, c ≠ '-' ∧ c ≠ Word.softHyphen) :
    Word.ends s = (breaks s).drop 1 ++ [false] := by
  have hlength : ((breaks s).drop 1 ++ [true]).length = s.length := by
    have hpos := List.length_pos_iff.2 hs
    rw [List.length_append, List.length_drop, length_breaks, List.length_singleton]
    omega
  have hflags : (((breaks s).drop 1 ++ [true]).zip s).map
      (fun x ↦ x.1 && x.2 != '-' && x.2 != Word.softHyphen) = (breaks s).drop 1 ++ [true] := by
    refine Eq.trans (List.map_congr_left fun x hx ↦ ?_)
      (List.map_fst_zip (Nat.le_of_eq hlength))
    obtain ⟨hhyphen, hsoft⟩ := h x.2 (List.of_mem_zip hx).2
    rw [bne_iff_ne.2 hhyphen, bne_iff_ne.2 hsoft, Bool.and_true, Bool.and_true]
  rw [Word.ends]
  exact (congrArg Word.clearLast hflags).trans (clearLast_concat_true _)

theorem begins_of_shown (cut : Bool) {ends : List Bool} {s : List Char}
    (h : s.length ≤ ends.length) :
    Word.begins cut ends (s.map (·, true)) = (cut :: ends).take s.length := by
  induction s generalizing cut ends with
  | nil => rfl
  | cons c s ih =>
    cases ends with
    | nil => exact absurd h (Nat.not_succ_le_zero _)
    | cons e ends =>
      rw [List.map_cons, Word.begins, ih e (Nat.le_of_succ_le_succ h)]
      rfl

/-- The first flag of a group does not count. -/
theorem groups_first {α : Type} (first second : Bool) (a : α) (xs : List (Bool × α)) :
    groups ((first, a) :: xs) = groups ((second, a) :: xs) := by
  cases xs with
  | nil => rfl
  | cons x xs => rfl

/-- Without hyphens and escape sequences a word begins at each break. -/
theorem ofLine_of_plain (hesc : esc ∉ s) (h : ∀ c ∈ s, c ≠ '-' ∧ c ≠ Word.softHyphen) :
    Word.ofLine s = (groupsBy (breaks s) s).map Word.ofText := by
  cases s with
  | nil => rfl
  | cons c s =>
    have hends := ends_of_no_hyphen (List.cons_ne_nil c s) h
    have hlength : (c :: s).length ≤ ((breaks (c :: s)).drop 1 ++ [false]).length := by
      rw [List.length_append, List.length_drop, length_breaks]
      exact Nat.le_refl _
    obtain ⟨b, bs, hbreaks⟩ := List.exists_cons_of_ne_nil (l := breaks (c :: s))
      (List.ne_nil_of_length_pos (by rw [length_breaks]; exact Nat.succ_pos _))
    have hbs : bs.length = s.length := by
      have := length_breaks (c :: s)
      rw [hbreaks] at this
      exact Nat.succ.inj this
    rw [Word.ofLine, shown_of_esc_notMem hesc, markEscapes_of_esc_notMem hesc, hends,
      begins_of_shown false hlength, hbreaks, List.drop_one, List.tail_cons, List.length_cons,
      List.take_succ_cons, List.take_left' hbs]
    exact congrArg (List.map Word.ofText) (groups_first ..)

end Plain

/-- A run without a cut is one group. -/
theorem groupsBy_run (first : Bool) (a b : Char) (run : List Char) (cuts : List Bool)
    (rest : List Char) :
    groupsBy (first :: (List.replicate run.length false ++ true :: cuts))
        (a :: (run ++ b :: rest)) =
      (a :: run) :: groupsBy (true :: cuts) (b :: rest) := by
  induction run generalizing first a with
  | nil =>
    obtain ⟨g, gs, hg⟩ := List.exists_cons_of_ne_nil (groups_ne_nil (true, b) (cuts.zip rest))
    exact (groups_cons_cons hg first a).trans (congrArg _ hg.symm)
  | cons c run ih => exact groups_cons_cons (ih false c) first a

/-! ## The words of the text -/

def bell : Char := '\x07'

/-- Bells, and between them one space more than there are columns. -/
def bells (t : Nat) : List Char :=
  bell :: (List.replicate (t + 1) ' ' ++ bell :: (List.replicate (t + 1) ' ' ++ [bell]))

section Bells

variable (t : Nat)

def afterBell : BreakContext := ⟨some .alphabetic, false, false, false, false⟩

def afterGap : BreakContext := ⟨some .alphabetic, true, false, false, false⟩

theorem breaksFrom_gap (rest : List Char) :
    breaksFrom afterGap (List.replicate t ' ' ++ rest) =
      List.replicate t false ++ breaksFrom afterGap rest := by
  have hblank : afterGap.next (.ofChar ' ') = (false, afterGap) := by decide +kernel
  induction t with
  | zero => rfl
  | succ n ih => simp only [List.replicate_succ, List.cons_append, breaksFrom, hblank, ih]

theorem breaksFrom_bell_gap {x : BreakContext} {cut : Bool}
    (hx : x.next (.ofChar bell) = (cut, afterBell)) (rest : List Char) :
    breaksFrom x (bell :: (List.replicate (t + 1) ' ' ++ rest)) =
      cut :: (List.replicate (t + 1) false ++ breaksFrom afterGap rest) := by
  have hblank : afterBell.next (.ofChar ' ') = (false, afterGap) := by decide +kernel
  simp only [breaksFrom, hx, List.replicate_succ, List.cons_append, hblank, breaksFrom_gap]

/-- The text may be broken after each gap. -/
theorem breaks_bells : breaks (bells t) =
    false :: (List.replicate (t + 1) false ++
      true :: (List.replicate (t + 1) false ++ [true])) := by
  have hstart : BreakContext.start.next (.ofChar bell) = (false, afterBell) := by decide +kernel
  have hgap : afterGap.next (.ofChar bell) = (true, afterBell) := by decide +kernel
  rw [breaks, bells, breaksFrom_bell_gap t hstart, breaksFrom_bell_gap t hgap]
  simp only [breaksFrom, hgap]

theorem mem_bells {c : Char} (hc : c ∈ bells t) : c = bell ∨ c = ' ' := by
  simp only [bells, List.mem_cons, List.mem_append, List.mem_replicate] at hc
  tauto

theorem notMem_bells {c : Char} (hbell : c ≠ bell) (hblank : c ≠ ' ') : c ∉ bells t := fun h ↦
  (mem_bells t h).elim hbell hblank

theorem ofText_gap (n : Nat) :
    Word.ofText (bell :: List.replicate n ' ') = Word.of [bell] n := by
  have htrim : trimEnd (· == ' ') (bell :: List.replicate n ' ') = [bell] := by
    rw [trimEnd, List.reverse_cons, List.reverse_replicate,
      dropWhile_run (by simp) (stopsAt_cons [] (by decide))]
    rfl
  simp only [Word.ofText, htrim, List.length_cons, List.length_replicate, List.length_nil,
    Nat.add_sub_cancel]

/-- A word of one bell. -/
theorem width_bell : width [bell] = 0 := by decide +kernel

/-- The line comes apart into its bells, with the spaces after each. -/
theorem fragments_bells :
    Word.fragments t (bells t) =
      [Word.of [bell] (t + 1), Word.of [bell] (t + 1), Word.of [bell] 0] := by
  have hhyphen : ∀ c ∈ bells t, c ≠ '-' ∧ c ≠ Word.softHyphen := fun c hc ↦ by
    rcases mem_bells t hc with rfl | rfl <;> decide
  have hrun := groupsBy_run false bell bell (List.replicate (t + 1) ' ')
    (List.replicate (t + 1) false ++ [true]) (List.replicate (t + 1) ' ' ++ [bell])
  have hrun' := groupsBy_run true bell bell (List.replicate (t + 1) ' ') [] []
  rw [List.length_replicate] at hrun hrun'
  have hline : Word.ofLine (bells t) =
      [Word.of [bell] (t + 1), Word.of [bell] (t + 1), Word.of [bell] 0] := by
    rw [ofLine_of_plain (notMem_bells t (by decide) (by decide)) hhyphen, breaks_bells, bells,
       hrun, hrun', List.map_cons, List.map_cons, ofText_gap]
    exact congrArg _ (congrArg _ (congrArg (fun w ↦ [w]) (ofText_gap 0)))
  have hhyphens (n : Nat) : Word.atHyphens (Word.of [bell] n) = [Word.of [bell] n] := rfl
  have hwithin (n : Nat) : Word.within t (Word.of [bell] n) = [Word.of [bell] n] :=
    if_pos (Nat.le_trans (Nat.le_of_eq width_bell) (Nat.zero_le t))
  simp only [Word.fragments, hline, List.flatMap_cons, List.flatMap_nil, hhyphens, hwithin,
    List.append_nil, List.singleton_append]

end Bells

/-! ## Its cheapest layout -/

namespace CutOf

variable {w v : Word} {ws : List Word} {ls : List (List Word)}

/-- The first line begins with the first word. -/
theorem exists_first (h : CutOf (w :: ws) ls) :
    ∃ l ls' rest, ls = (w :: l) :: ls' ∧ l ++ rest = ws ∧ CutOf rest ls' := by
  cases ls with
  | nil => exact absurd h.flatten_eq.symm (List.cons_ne_nil w ws)
  | cons l ls =>
    have hl := h.ne_nil l List.mem_cons_self
    cases l with
    | nil => exact absurd rfl hl
    | cons v l =>
      obtain ⟨rfl, hrest⟩ := List.cons.inj h.flatten_eq
      exact ⟨l, ls, ls.flatten, rfl, hrest, rfl, fun m hm ↦ h.ne_nil m (List.mem_cons_of_mem _ hm)⟩

theorem eq_singleton (h : CutOf [w] ls) : ls = [[w]] := by
  obtain ⟨l, ls, rest, rfl, hrest, hls⟩ := h.exists_first
  obtain ⟨rfl, rfl⟩ := List.append_eq_nil_iff.1 hrest
  cases ls with
  | nil => rfl
  | cons m ls =>
    have hm := (List.append_eq_nil_iff.1 hls.flatten_eq).1
    exact absurd hm (hls.ne_nil m List.mem_cons_self)

/-- In lines that fit, a word that fills a line with the spaces after it is the last one on its
line. -/
theorem eq_cons_of_wide {t : Nat} (hwide : t < w.columns + w.blanks)
    (h : CutOf (w :: v :: ws) ls) (hfits : ∀ l ∈ ls, lineColumns l ≤ t) :
    ∃ ls', ls = [w] :: ls' ∧ CutOf (v :: ws) ls' := by
  obtain ⟨l, ls', rest, rfl, hrest, hls⟩ := h.exists_first
  cases l with
  | nil => exact ⟨ls', rfl, hrest ▸ hls⟩
  | cons u l =>
    have hfirst := hfits _ List.mem_cons_self
    rw [lineColumns_cons_cons] at hfirst
    omega

end CutOf

section Bells

variable {t : Nat}

theorem lineColumns_bell (n : Nat) : lineColumns [Word.of [bell] n] = 0 :=
  (lineColumns_singleton _).trans width_bell

/-- An empty line that is not the last costs the square of the width on top. -/
theorem lineCost_of_empty {l : List Word} (h : lineColumns l = 0) :
    lineCost .standard t false l = 1000 + t * t := by
  rw [lineCost, h, if_neg (Nat.not_lt_zero t)]
  rfl

theorem lineCost_last_bell (ht : 0 < t) : lineCost .standard t true [Word.of [bell] 0] = 1025 := by
  rw [lineCost, lineColumns_bell, if_neg (Nat.not_lt_zero t)]
  simp [Penalties.standard, ht]

/-- Lines that fit leave two lines empty but for a bell. -/
theorem cost_of_fits {ls : List (List Word)}
    (h : CutOf [.empty, .of [bell] (t + 1), .of [bell] (t + 1), .of [bell] 0] ls)
    (hfits : ∀ l ∈ ls, lineColumns l ≤ t) (ht : 0 < t) :
    3025 + 2 * (t * t) ≤ layoutCost .standard t ls := by
  have hwide : t < (Word.of [bell] (t + 1)).columns + (Word.of [bell] (t + 1)).blanks :=
    Nat.lt_of_lt_of_le (Nat.lt_succ_self t) (Nat.le_add_left ..)
  have hgap := lineCost_of_empty (t := t) (lineColumns_bell (t + 1))
  have hlast := lineCost_last_bell ht
  obtain ⟨l, ms, rest, rfl, hrest, hms⟩ := h.exists_first
  have hmsfits : ∀ m ∈ ms, lineColumns m ≤ t := fun m hm ↦ hfits m (List.mem_cons_of_mem _ hm)
  -- On the first line stands the empty word alone, or the first bell with it.
  cases l with
  | nil =>
    rw [List.nil_append] at hrest
    subst hrest
    obtain ⟨ks, rfl, hks⟩ := hms.eq_cons_of_wide hwide hmsfits
    obtain ⟨js, rfl, hjs⟩ := hks.eq_cons_of_wide hwide
      fun k hk ↦ hmsfits k (List.mem_cons_of_mem _ hk)
    obtain rfl := hjs.eq_singleton
    have hempty := lineCost_of_empty (t := t) (lineColumns_singleton Word.empty)
    simp only [layoutCost, List.isEmpty_cons, List.isEmpty_nil, hempty, hgap, hlast]
    omega
  | cons w l =>
    obtain ⟨rfl, hafter⟩ := List.cons.inj hrest
    cases l with
    | nil =>
      change rest = _ at hafter
      subst hafter
      obtain ⟨ks, rfl, hks⟩ := hms.eq_cons_of_wide hwide hmsfits
      obtain rfl := hks.eq_singleton
      have hfirst := lineCost_of_empty (t := t) (l := [.empty, .of [bell] (t + 1)]) (by
        rw [lineColumns_cons_cons, lineColumns_bell]
        rfl)
      simp only [layoutCost, List.isEmpty_cons, List.isEmpty_nil, hfirst, hgap, hlast]
      omega
    | cons v l =>
      have hfirst := hfits _ List.mem_cons_self
      rw [lineColumns_cons_cons, lineColumns_cons_cons] at hfirst
      omega

/-- The text is not broken so that it fits. -/
theorem exists_overlong (ht : 28 ≤ t) : ∃ s ∈ wrapLine t (bells t), t < width s := by
  have hwords : Word.empty :: Word.fragments t (bells t) ≠ [] := List.cons_ne_nil _ _
  obtain ⟨hcut, hleast⟩ := layout_optimal (t := t) hwords
  rw [Nat.max_eq_left (by omega)] at hleast
  by_contra hnone
  have hfits : ∀ l ∈ layout t (.empty :: Word.fragments t (bells t)), lineColumns l ≤ t := by
    intro l hl
    refine Nat.le_of_not_lt fun hlt ↦ hnone ⟨lineText l, List.mem_map_of_mem hl, ?_⟩
    rwa [width_lineText]
    intro w hw
    have hw : w ∈ Word.empty :: Word.fragments t (bells t) :=
      hcut.flatten_eq ▸ List.mem_flatten_of_mem hl hw
    rw [fragments_bells] at hw
    simp only [List.mem_cons, List.not_mem_nil, or_false] at hw
    rcases hw with rfl | rfl | rfl | rfl <;> rfl
  rw [fragments_bells] at hcut hleast hfits
  have hcheap := hleast [[.empty, .of [bell] (t + 1), .of [bell] (t + 1)], [.of [bell] 0]]
    ⟨rfl, by simp⟩
  have hlong : lineColumns [Word.empty, .of [bell] (t + 1), .of [bell] (t + 1)] = t + 1 := by
    rw [lineColumns_cons_cons, lineColumns_cons_cons, lineColumns_singleton]
    change 0 + 0 + (width [bell] + (t + 1) + width [bell]) = t + 1
    rw [width_bell]
    omega
  have hcost := cost_of_fits hcut hfits (by omega)
  have hsquare : 28 * 28 ≤ t * t := Nat.mul_le_mul ht ht
  rw [layoutCost, layoutCost, layoutCost, List.isEmpty_cons, List.isEmpty_nil,
    lineCost_of_lt false (by omega), hlong, lineCost_last_bell (by omega)] at hcheap
  omega

end Bells

end JobWatch.Text

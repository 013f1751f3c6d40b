import JobWatch.Proofs.Text.Run
import JobWatch.Proofs.Url.Percent
import JobWatch.Url.Parser
import Mathlib.Data.List.TakeWhile

/-!
# The segments of a path

A path is a text cut at its slashes, and its segments are taken in one after the other
(`resolve_append`). Whatever is taken in, some of what was there before stays, and what is new on
top of it are encoded parts (`foldl_enter`). So a text that stands between slashes ends as one
segment that stands for its octets exactly if it is one part, shows no octet after a percent sign
and is no step to a directory (`resolve_segment_iff`).
-/

namespace JobWatch.Url

open Text

/-! ## Parts -/

section Parts

variable {known : Bool} {s t p : List Char}

theorem slashParts_ne_nil (known : Bool) (s : List Char) : slashParts known s ≠ [] := by
  cases s with
  | nil => simp [slashParts]
  | cons c s =>
    rw [slashParts]
    split
    · simp
    · split <;> simp

theorem slashParts_append (s t : List Char) :
    slashParts known (s ++ '/' :: t) = slashParts known s ++ slashParts known t := by
  induction s with
  | nil => simp [slashParts, isSlash]
  | cons c s ih =>
    obtain ⟨q, qs, hqs⟩ := List.exists_cons_of_ne_nil (slashParts_ne_nil known s)
    rw [List.cons_append, slashParts, slashParts, ih, hqs]
    split <;> rfl

theorem slashParts_eq_singleton (h : ∀ c ∈ s, isSlash known c = false) :
    slashParts known s = [s] := by
  induction s with
  | nil => rfl
  | cons c s ih =>
    obtain ⟨hc, hs⟩ := List.forall_mem_cons.1 h
    rw [slashParts, hc, ih hs]
    rfl

/-- A part is a piece of the text, without slashes. -/
theorem sublist_of_mem_slashParts (h : p ∈ slashParts known s) :
    p.Sublist s ∧ ∀ c ∈ p, isSlash known c = false := by
  induction s generalizing p with
  | nil =>
    have hp : p = [] := by simpa [slashParts] using h
    simp [hp]
  | cons c s ih =>
    obtain ⟨q, qs, hqs⟩ := List.exists_cons_of_ne_nil (slashParts_ne_nil known s)
    rw [slashParts, hqs] at h
    rw [hqs] at ih
    cases hc : isSlash known c with
    | true =>
      rw [hc, if_pos rfl] at h
      rcases List.mem_cons.1 h with rfl | h
      · simp
      · exact (ih h).imp (.cons c) id
    | false =>
      rw [hc, if_neg Bool.false_ne_true] at h
      rcases List.mem_cons.1 h with rfl | h
      · obtain ⟨hsub, hnone⟩ := ih List.mem_cons_self
        exact ⟨hsub.cons_cons c, List.forall_mem_cons.2 ⟨hc, hnone⟩⟩
      · exact (ih (List.mem_cons_of_mem q h)).imp (.cons c) id

end Parts

/-! ## Steps to directories -/

/-- A part that is no segment but a step to the same directory or to its parent. -/
def IsStep (p : List Char) : Prop := dots p = ['.'] ∨ dots p = ['.', '.']

instance : DecidablePred IsStep := fun p ↦
  inferInstanceAs (Decidable (dots p = ['.'] ∨ dots p = ['.', '.']))

theorem dots_eq_self {s : List Char} (h : ¬ HasOctet s) : dots s = s := by
  induction s with
  | nil => rfl
  | cons c s ih =>
    obtain ⟨hstart, hs⟩ := not_or.1 (hasOctet_cons.not.1 h)
    rw [dots.eq_def]
    split
    · next heq => exact absurd rfl (heq ▸ hstart)
    · next heq => exact absurd rfl (heq ▸ hstart)
    · next heq =>
      obtain ⟨rfl, rfl⟩ := List.cons_eq_cons.1 heq
      rw [ih hs]
    · contradiction

/-- Without encoded octets, the steps are one full stop and two. -/
theorem isStep_iff {s : List Char} (h : ¬ HasOctet s) : IsStep s ↔ s = ['.'] ∨ s = ['.', '.'] := by
  rw [IsStep, dots_eq_self h]

section Resolve

variable {done ps qs : List (List Char)} {p : List Char}

/-- The segments after one more part that is not the last one, last first. -/
def enter (done : List (List Char)) (p : List Char) : List (List Char) :=
  if dots p = ['.', '.'] then done.drop 1
  else if dots p = ['.'] then done
  else percentEncode inPathSet p :: done

theorem enter_of_not_isStep (h : ¬ IsStep p) :
    enter done p = percentEncode inPathSet p :: done := by
  obtain ⟨hsame, hparent⟩ := not_or.1 h
  rw [enter, if_neg hparent, if_neg hsame]

theorem resolve_append (hqs : qs ≠ []) :
    resolve done (ps ++ qs) = resolve (ps.foldl enter done) qs := by
  induction ps generalizing done with
  | nil => rfl
  | cons p ps ih =>
    have hrest : (ps ++ qs).isEmpty = false := by simp [hqs]
    rw [List.cons_append, resolve, hrest, List.foldl_cons, enter]
    split
    · exact ih
    · split
      · exact ih
      · exact ih

/-- Segments that are no steps are all kept, each encoded. -/
theorem resolve_of_not_isStep (h : ∀ q ∈ qs, ¬ IsStep q) :
    resolve done qs = done.reverse ++ qs.map (percentEncode inPathSet) := by
  induction qs generalizing done with
  | nil => simp [resolve]
  | cons q qs ih =>
    obtain ⟨hq, hqs⟩ := List.forall_mem_cons.1 h
    obtain ⟨hsame, hparent⟩ := not_or.1 hq
    rw [resolve, if_neg hparent, if_neg hsame, ih hqs]
    simp

/-- Of the segments that were there before some of the last ones may go; on top of what stays are
encoded parts. -/
theorem foldl_enter (ps done : List (List Char)) :
    ∃ new k, ps.foldl enter done = new ++ done.drop k ∧
      ∀ q ∈ new, ∃ p ∈ ps, ¬ IsStep p ∧ q = percentEncode inPathSet p := by
  induction ps generalizing done with
  | nil => exact ⟨[], 0, rfl, by simp⟩
  | cons p ps ih =>
    have hmore {new : List (List Char)}
        (h : ∀ q ∈ new, ∃ p ∈ ps, ¬ IsStep p ∧ q = percentEncode inPathSet p) :
        ∀ q ∈ new, ∃ p' ∈ p :: ps, ¬ IsStep p' ∧ q = percentEncode inPathSet p' := fun q hq ↦ by
      obtain ⟨p', hp', h⟩ := h q hq
      exact ⟨p', List.mem_cons_of_mem p hp', h⟩
    obtain ⟨new, k, heq, hnew⟩ := ih (enter done p)
    rw [List.foldl_cons, heq]
    by_cases hstep : IsStep p
    · rcases hstep with hsame | hparent
      · exact ⟨new, k, by simp [enter, hsame], hmore hnew⟩
      · exact ⟨new, k + 1, by simp [enter, hparent], hmore hnew⟩
    · rw [enter_of_not_isStep hstep]
      cases k with
      | zero =>
        refine ⟨new ++ [percentEncode inPathSet p], 0, by simp, fun q hq ↦ ?_⟩
        rcases List.mem_append.1 hq with hq | hq
        · exact hmore hnew q hq
        · exact ⟨p, List.mem_cons_self, hstep, List.mem_singleton.1 hq⟩
      | succ k =>
        -- a step to the parent comes later and takes the new segment off again
        exact ⟨new, k, rfl, hmore hnew⟩

end Resolve

/-! ## One segment -/

/-- A part that stands in a path as it is. -/
def Settled (p : List Char) : Prop := ¬ IsStep p ∧ percentEncode inPathSet p = p

instance : DecidablePred Settled := fun p ↦
  inferInstanceAs (Decidable (¬ IsStep p ∧ percentEncode inPathSet p = p))

section Segment

variable {done tail : List (List Char)} {s seg : List Char} {keep : Char → Bool}

/-- Settled segments at the end stay as they are behind whatever came before. -/
theorem resolve_settled (hne : tail ≠ []) (htail : ∀ q ∈ tail, Settled q) (ps : List (List Char)) :
    resolve done (ps ++ tail) = (ps.foldl enter done).reverse ++ tail := by
  have hsame : tail.map (percentEncode inPathSet) = tail :=
    List.map_congr_left (fun q hq ↦ (htail q hq).2) |>.trans (List.map_id tail)
  rw [resolve_append hne, resolve_of_not_isStep fun q hq ↦ (htail q hq).1, hsame]

/-- If segments together add just one, then one of them is that, encoded. -/
theorem foldl_enter_eq_cons {ps : List (List Char)} (h : ps.foldl enter done = seg :: done) :
    ∃ p ∈ ps, ¬ IsStep p ∧ seg = percentEncode inPathSet p := by
  obtain ⟨new, k, heq, hnew⟩ := foldl_enter ps done
  rw [h] at heq
  cases new with
  | nil =>
    have hlength := congrArg List.length heq
    simp only [List.nil_append, List.length_cons, List.length_drop] at hlength
    omega
  | cons q new =>
    obtain ⟨rfl, -⟩ := List.cons_eq_cons.1 heq
    exact hnew seg List.mem_cons_self

/-- A text between slashes, of which some characters do not count, is one segment and stands for
its octets there exactly if all of it counts, it has no slash, it shows no octet after a percent
sign and it is no step to a directory. -/
theorem resolve_segment_iff (hne : tail ≠ []) (htail : ∀ q ∈ tail, Settled q) :
    (∃ seg, resolve done (slashParts true (s.filter keep) ++ tail) = done.reverse ++ seg :: tail ∧
      '/' ∉ seg ∧ percentDecode seg = Utf8.encode s) ↔
    (∀ c ∈ s, keep c ∧ isSlash true c = false) ∧ ¬ HasOctet s ∧ ¬ IsStep s := by
  rw [resolve_settled hne htail]
  constructor
  · rintro ⟨seg, hpath, -, hseg⟩
    have hstack : (slashParts true (s.filter keep)).foldl enter done = seg :: done := by
      have hreverse : ((slashParts true (s.filter keep)).foldl enter done).reverse =
          (seg :: done).reverse := by
        rw [← List.append_left_inj tail, hpath]
        simp
      exact List.reverse_injective hreverse
    obtain ⟨p, hp, hstep, rfl⟩ := foldl_enter_eq_cons hstack
    rw [percentDecode_percentEncode] at hseg
    obtain ⟨hsub, hslash⟩ := sublist_of_mem_slashParts hp
    -- the segment is a part of the text, and a part stands for no more octets than it has
    have hall : p = s := by
      refine eq_of_length_encode_le (hsub.trans List.filter_sublist) ?_
      rw [← hseg]
      exact length_percentDecode_le p
    subst hall
    have hkeep : p.filter keep = p := List.filter_sublist.antisymm hsub
    exact ⟨fun c hc ↦ ⟨List.filter_eq_self.1 hkeep c hc, hslash c hc⟩,
      percentDecode_eq_encode_iff.1 hseg, hstep⟩
  · rintro ⟨hall, hoctet, hstep⟩
    have hkeep : s.filter keep = s := List.filter_eq_self.2 fun c hc ↦ (hall c hc).1
    have hslash : '/' ∉ s := fun h ↦ Bool.false_ne_true ((hall _ h).2.symm.trans rfl)
    refine ⟨percentEncode inPathSet s, ?_, slash_not_mem_percentEncode hslash, ?_⟩
    · rw [hkeep, slashParts_eq_singleton fun c hc ↦ (hall c hc).2, List.foldl_cons, List.foldl_nil,
        enter_of_not_isStep hstep]
      simp
    · rw [percentDecode_percentEncode, percentDecode_eq_encode_iff.2 hoctet]

end Segment

/-! ## What follows a path -/

/-- The URL has no query and no fragment. -/
def IsBare (u : Url) : Prop := u.query = none ∧ u.fragment = none

section Rest

variable {u : Url} {done : List (List Char)} {s rest : List Char}

theorem isBare_withRest_iff (h : StopsAt (!endsPath ·) rest) :
    IsBare (withRest u rest) ↔ rest = [] := by
  cases rest with
  | nil => simp [IsBare, withRest]
  | cons c rest =>
    have hc : c = '?' ∨ c = '#' := by simpa [endsPath, Decidable.imp_iff_not_or] using h c rfl
    rcases hc with rfl | rfl
    · simp [IsBare, withRest]
    · simp [IsBare, withRest]

theorem drop_length_takeWhile (p : Char → Bool) (s : List Char) :
    s.drop (s.takeWhile p).length = s.dropWhile p := by
  induction s with
  | nil => rfl
  | cons c s ih => cases hc : p c <;> simp [hc, ih]

/-- A URL has neither query nor fragment exactly if no character ends its path. -/
theorem isBare_withPath_iff : IsBare (withPath u done s) ↔ ∀ c ∈ s, endsPath c = false := by
  rw [withPath, drop_length_takeWhile, isBare_withRest_iff (stopsAt_dropWhile _ s),
    List.dropWhile_eq_nil_iff]
  simp

/-- Without query and fragment all of a text that begins with a slash is path. -/
theorem withPath_path (hknown : isKnown u.scheme) (hs : ∀ c ∈ s, endsPath c = false)
    (hslash : s.head?.any (isSlash true)) :
    (withPath u [] s).path = .segments (resolve [] ((slashParts true s).drop 1)) := by
  have hpath : s.takeWhile (!endsPath ·) = s := List.takeWhile_eq_self_iff.2 (by simpa using hs)
  simp [withPath, withRest, hknown, hpath, hslash]

end Rest

/-! ## Below a directory -/

/-- The segments of the directory that a text before a slash leads to, last first. -/
def directoryOf (front : List Char) : List (List Char) :=
  ((slashParts true front).drop 1).foldl enter []

section Below

variable {u : Url} {front dir t : List Char} (hknown : isKnown u.scheme)
  (hfront : ∀ c ∈ front, endsPath c = false)
  (hhead : ∀ c ∈ front.head?, isSlash true c ∨ endsPath c)

theorem settled_nil : Settled [] := by
  simp [Settled, IsStep, dots, percentEncode]

include hknown hfront hhead

/-- The path of a URL is the directory before a slash, and the parts after it resolved there. -/
theorem withPath_append (ht : ∀ c ∈ t, endsPath c = false) :
    (withPath u [] (front ++ '/' :: t)).path =
      .segments (resolve (directoryOf front) (slashParts true t)) := by
  have hends : ∀ c ∈ front ++ '/' :: t, endsPath c = false :=
    List.forall_mem_append.2 ⟨hfront, List.forall_mem_cons.2 ⟨rfl, ht⟩⟩
  have hslash : (front ++ '/' :: t).head?.any (isSlash true) := by
    cases front with
    | nil => rfl
    | cons c front =>
      have hc : isSlash true c ∨ endsPath c := hhead c rfl
      rw [hfront c List.mem_cons_self] at hc
      simpa using hc
  obtain ⟨p, ps, hps⟩ := List.exists_cons_of_ne_nil (slashParts_ne_nil true front)
  rw [withPath_path hknown hends hslash, slashParts_append, directoryOf, hps, List.cons_append,
    List.drop_one, List.tail_cons, List.drop_one, List.tail_cons,
    resolve_append (slashParts_ne_nil true t)]

/-- A text that ends with a slash leads to a directory. -/
theorem directory_withPath : (withPath u [] (front ++ ['/'])).directory = directoryOf front := by
  have hpath := withPath_append hknown hfront hhead (t := []) (by simp)
  have hresolve : resolve (directoryOf front) [[]] = (directoryOf front).reverse ++ [[]] :=
    resolve_settled (by simp) (List.forall_mem_singleton.2 settled_nil) []
  rw [directory, hpath, slashParts, hresolve]
  simp

/-- A path goes on from the directory with a segment in it. -/
theorem withPath_segment_append (hdir : Settled dir) (hslash : dir.all (!isSlash true ·))
    (ht : ∀ c ∈ dir ++ '/' :: t, endsPath c = false) :
    (withPath u [] (front ++ '/' :: (dir ++ '/' :: t))).path =
      .segments (resolve (dir :: directoryOf front) (slashParts true t)) := by
  have henter : [dir].foldl enter (directoryOf front) = dir :: directoryOf front := by
    rw [List.foldl_cons, List.foldl_nil, enter_of_not_isStep hdir.1, hdir.2]
  rw [withPath_append hknown hfront hhead ht, slashParts_append,
    slashParts_eq_singleton fun _ ↦ eq_false_of_all hslash,
    resolve_append (slashParts_ne_nil true t), henter]

end Below

end JobWatch.Url

import JobWatch.Proofs.Url.Path

/-!
# Addresses that go on

A text that is a URL when a slash is put after it stays one whatever comes after the slash. Scheme,
user, host and port are read before the slash is reached; what comes after it is read as path, query
and fragment together with what stood there already (`parse?_append`).
-/

namespace JobWatch.Url

open Text

section Front

variable {p : Char → Bool} {a : Char} (ha : p a = false)

include ha

theorem dropWhile_append_stop (s t : List Char) :
    (s ++ a :: t).dropWhile p = s.dropWhile p ++ a :: t := by
  rw [List.dropWhile_append]
  split
  · next h => rw [List.isEmpty_iff.1 h, List.dropWhile_cons_of_neg (by simp [ha]), List.nil_append]
  · rfl

theorem takeWhile_append_stop (s t : List Char) :
    (s ++ a :: t).takeWhile p = s.takeWhile p := by
  induction s with
  | nil => simp [ha]
  | cons c s ih => cases hc : p c <;> simp [hc, ih]

theorem trimEnd_append_stop (s t : List Char) :
    trimEnd p (s ++ a :: t) = s ++ a :: trimEnd p t := by
  rw [trimEnd, trimEnd, List.reverse_append, List.reverse_cons, List.append_assoc,
    List.singleton_append, dropWhile_append_stop ha]
  simp

end Front

/-- Whether a character of a URL counts. -/
def counts (c : Char) : Bool := c ≠ '\t' && c ≠ '\n' && c ≠ '\x0d'

/-- At a slash, a text that is cleaned comes apart: its front loses blanks at the start, its rest
those at the end. -/
theorem clean_append (s t : List Char) :
    clean (s ++ '/' :: t) =
      (s.dropWhile (· ≤ ' ')).filter counts ++ '/' :: (trimEnd (· ≤ ' ') t).filter counts := by
  rw [clean, dropWhile_append_stop (by decide), trimEnd_append_stop (by decide), List.filter_append]
  rfl

def isSchemeLetter (c : Char) : Bool := ('a' ≤ c && c ≤ 'z') || ('A' ≤ c && c ≤ 'Z')

def inScheme (c : Char) : Bool :=
  isSchemeLetter c || Decimal.isDigit c || c == '+' || c == '-' || c == '.'

theorem splitScheme?_eq (s : List Char) : splitScheme? s =
    if s.head?.any isSchemeLetter then
      match s.dropWhile inScheme with
      | ':' :: rest => some ((s.takeWhile inScheme).map Char.toLower, rest)
      | _ => none
    else none := rfl

/-- The scheme of a text is found before the first slash. -/
theorem splitScheme?_append (s t : List Char) :
    splitScheme? (s ++ '/' :: t) =
      (splitScheme? s).map fun (scheme, rest) ↦ (scheme, rest ++ '/' :: t) := by
  have hhead : (s ++ '/' :: t).head?.any isSchemeLetter = s.head?.any isSchemeLetter := by
    cases s <;> rfl
  rw [splitScheme?_eq, splitScheme?_eq, hhead, dropWhile_append_stop (by decide),
    takeWhile_append_stop (by decide)]
  split
  · cases hs : s.dropWhile inScheme with
    | nil => rfl
    | cons c rest =>
      by_cases hc : c = ':'
      · subst hc
        rfl
      · have hnone (rest : List Char) : (match c :: rest with
            | ':' :: rest => some ((s.takeWhile inScheme).map Char.toLower, rest)
            | _ => none) = none := by
          split
          · next heq => exact absurd (List.cons_eq_cons.1 heq).1 hc
          · rfl
        rw [List.cons_append, hnone, hnone, Option.map_none]
  · rfl

section Authority

variable {scheme : List Char}

/-- Whether a character belongs to what stands between the two slashes and the path. -/
def inAuthority (known : Bool) (c : Char) : Bool := !isSlash known c && !endsPath c

/-- The host of a URL is found before the first slash, so what follows the slash only goes into what
comes after the host. -/
theorem withAuthority?_append (s t t' : List Char) :
    withAuthority? scheme (s ++ '/' :: t') =
      (withAuthority? scheme (s ++ '/' :: t)).map fun u ↦
        withPath u [] (s.dropWhile (inAuthority (isKnown scheme)) ++ '/' :: t') := by
  have hslash : inAuthority (isKnown scheme) '/' = false := by simp [inAuthority, isSlash]
  have htake (t : List Char) : (s ++ '/' :: t).takeWhile (inAuthority (isKnown scheme)) =
      s.takeWhile (inAuthority (isKnown scheme)) := takeWhile_append_stop hslash s t
  have hdrop (t : List Char) :
      (s ++ '/' :: t).drop (s.takeWhile (inAuthority (isKnown scheme))).length =
        s.dropWhile (inAuthority (isKnown scheme)) ++ '/' :: t := by
    rw [← htake t, drop_length_takeWhile, dropWhile_append_stop hslash]
  have hin : (fun c ↦ !isSlash (isKnown scheme) c && !endsPath c) =
      inAuthority (isKnown scheme) := rfl
  -- user, host and port are all before the slash; only the path sees what comes after it
  simp only [withAuthority?, hin, htake, hdrop]
  rw [apply_ite (Option.map _), apply_ite (Option.map _)]
  simp only [Option.bind_eq_bind, Option.map_bind, Option.map_none, Function.comp_def,
    Option.map_some]
  rfl

theorem withAuthority?_nil (h : isKnown scheme) : withAuthority? scheme [] = none := by
  simp [withAuthority?, splitLast, splitPort, h]

end Authority

section Scheme

variable {scheme s : List Char} {u : Url}

theorem scheme_of_withAuthority? (h : withAuthority? scheme s = some u) : u.scheme = scheme := by
  rw [withAuthority?] at h
  obtain ⟨-, h⟩ := Option.ite_none_left_eq_some.1 h
  simp only [ite_eq_iff, Option.bind_eq_bind, Option.bind_eq_some_iff, Option.some.injEq] at h
  obtain ⟨-, _, -, _, -, rfl⟩ | ⟨-, _, -, _, -, rfl⟩ := h
  · rfl
  · rfl

theorem scheme_of_withFile? (h : withFile? s = some u) : u.scheme = "file".toList := by
  simp only [withFile?] at h
  split at h
  · simp only [ite_eq_iff, Option.bind_eq_bind, Option.bind_eq_some_iff, Option.some.injEq] at h
    obtain ⟨-, ⟨-, _, -, rfl⟩ | ⟨-, _, -, rfl⟩⟩ | ⟨-, rfl⟩ := h
    · rfl
    · rfl
    · rfl
  · cases h
    rfl

/-- A URL has the scheme that it begins with. -/
theorem scheme_of_ofScheme? (h : ofScheme? scheme s = some u) : u.scheme = scheme := by
  rw [ofScheme?.eq_def] at h
  by_cases hfile : scheme = "file".toList
  · rw [if_pos hfile] at h
    rw [hfile, scheme_of_withFile? h]
  · rw [if_neg hfile] at h
    by_cases hknown : isKnown scheme
    · rw [if_pos hknown] at h
      exact scheme_of_withAuthority? h
    · rw [if_neg hknown] at h
      split at h
      · exact scheme_of_withAuthority? h
      · cases h
        rfl
      · cases h
        rfl

/-- A URL of a known scheme, unless it is of a local file, goes on after any slashes. -/
theorem ofScheme?_eq (hknown : isKnown scheme) (hfile : scheme ≠ "file".toList) :
    ofScheme? scheme s = withAuthority? scheme (s.dropWhile (isSlash true)) := by
  rw [ofScheme?.eq_def, if_neg hfile, if_pos hknown]

/-- What is read after an address that is a URL does not change the address: it goes on the path. -/
theorem ofScheme?_append (hknown : isKnown scheme) (hfile : scheme ≠ "file".toList)
    (h : ofScheme? scheme (s ++ ['/']) = some u) :
    ∃ front, (∀ c ∈ front.head?, isSlash true c ∨ endsPath c) ∧
      ∀ t, ofScheme? scheme (s ++ '/' :: t) = some (withPath u [] (front ++ '/' :: t)) := by
  rw [ofScheme?_eq hknown hfile, List.dropWhile_append] at h
  cases hs : (s.dropWhile (isSlash true)).isEmpty with
  | true =>
    rw [hs, if_pos rfl, List.dropWhile_cons_of_pos rfl, List.dropWhile_nil,
      withAuthority?_nil hknown] at h
    contradiction
  | false =>
    rw [hs, if_neg Bool.false_ne_true] at h
    refine ⟨(s.dropWhile (isSlash true)).dropWhile (inAuthority true), fun c hc ↦ ?_, fun t ↦ ?_⟩
    · have hstop := stopsAt_dropWhile (inAuthority true) (s.dropWhile (isSlash true)) c hc
      simpa [inAuthority, Decidable.imp_iff_not_or] using hstop
    · rw [ofScheme?_eq hknown hfile, List.dropWhile_append, hs, if_neg Bool.false_ne_true,
        withAuthority?_append _ [] t, h, hknown, Option.map_some]

end Scheme

/-- The URL is one that requests can go to. -/
def IsWeb (u : Url) : Prop := u.scheme = "http".toList ∨ u.scheme = "https".toList

theorem IsWeb.isKnown {u : Url} (h : IsWeb u) : isKnown u.scheme := by
  rcases h with h | h <;> rw [h] <;> rfl

theorem IsWeb.ne_file {u : Url} (h : IsWeb u) : u.scheme ≠ "file".toList := by
  rcases h with h | h <;> rw [h] <;> decide

/-- A text that is a URL with a slash after it goes on with any path. -/
theorem parse?_append {s : List Char} {u : Url} (hweb : IsWeb u)
    (h : parse? (String.ofList (s ++ ['/'])) = some u) :
    ∃ front, (∀ c ∈ front.head?, isSlash true c ∨ endsPath c) ∧
      ∀ t, parse? (String.ofList (s ++ '/' :: t)) =
        some (withPath u [] (front ++ '/' :: (trimEnd (· ≤ ' ') t).filter counts)) := by
  have hparse (t : List Char) : parse? (String.ofList (s ++ '/' :: t)) =
      (splitScheme? ((s.dropWhile (· ≤ ' ')).filter counts)).bind fun (scheme, rest) ↦
        ofScheme? scheme (rest ++ '/' :: (trimEnd (· ≤ ' ') t).filter counts) := by
    rw [parse?, String.toList_ofList, clean_append, splitScheme?_append, Option.bind_map]
    rfl
  rw [hparse] at h
  obtain ⟨⟨scheme, rest⟩, hsplit, h⟩ := Option.bind_eq_some_iff.1 h
  obtain rfl := scheme_of_ofScheme? h
  obtain ⟨front, hfront, happend⟩ := ofScheme?_append hweb.isKnown hweb.ne_file h
  refine ⟨front, hfront, fun t ↦ ?_⟩
  rw [hparse, hsplit, Option.bind_some]
  exact happend _

end JobWatch.Url

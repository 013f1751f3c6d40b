/-!
# Runs of characters

A run of characters of one kind is read off the front of a text whole where the text goes on with a
character of another kind, or ends.
-/

namespace JobWatch.Text

/-- A text does not go on with a character of the given kind. -/
def StopsAt (p : Char → Bool) (s : List Char) : Prop := ∀ c ∈ s.head?, p c = false

theorem stopsAt_cons {p : Char → Bool} {c : Char} (s : List Char) (h : p c = false) :
    StopsAt p (c :: s) := by
  simpa [StopsAt] using h

theorem eq_false_of_all {p : Char → Bool} {s : List Char} {c : Char} (h : s.all (!p ·))
    (hc : c ∈ s) : p c = false := by
  simpa using List.all_eq_true.1 h c hc

/-- After the longest run of a kind there is no more of it. -/
theorem stopsAt_dropWhile (p : Char → Bool) (s : List Char) : StopsAt p (s.dropWhile p) := by
  intro c hc
  have hhead := List.head?_dropWhile_not p s
  rw [Option.mem_def.1 hc] at hhead
  simpa using hhead

section Front

variable {p : Char → Bool} {run rest : List Char} (hrun : run.all p) (hrest : StopsAt p rest)

include hrun hrest

/-- A run that something else follows is what is taken. -/
theorem takeWhile_run : (run ++ rest).takeWhile p = run := by
  have hstop : rest.takeWhile p = [] := by
    cases rest with
    | nil => rfl
    | cons c rest => rw [List.takeWhile_cons_of_neg (by simp [hrest c rfl])]
  rw [List.takeWhile_append_of_pos (List.all_eq_true.1 hrun), hstop, List.append_nil]

/-- After a run, what is left is what follows. -/
theorem dropWhile_run : (run ++ rest).dropWhile p = rest := by
  have hstop : rest.dropWhile p = rest := by
    cases rest with
    | nil => rfl
    | cons c rest => rw [List.dropWhile_cons_of_neg (by simp [hrest c rfl])]
  rw [List.dropWhile_append_of_pos (List.all_eq_true.1 hrun), hstop]

/-- A run of which no more than so much may be taken, and is. -/
theorem takeWhile_run_take {most : Nat} (hlength : run.length ≤ most) :
    ((run ++ rest).take most).takeWhile p = run := by
  have htake : (run ++ rest).take most = run ++ rest.take (most - run.length) := by
    rw [List.take_append, List.take_of_length_le hlength]
  have hstop : StopsAt p (rest.take (most - run.length)) := fun c hc ↦ by
    cases rest with
    | nil => simp at hc
    | cons d rest =>
      cases hn : most - run.length with
      | zero => simp [hn] at hc
      | succ n => exact hrest c (by simpa [hn] using hc)
  rw [htake, takeWhile_run hrun hstop]

end Front

end JobWatch.Text

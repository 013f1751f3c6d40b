import JobWatch.Publish.Task

/-!
# The end of a background task

A task is let run for some time, again and again, and is disposed of, once, more often or never. All
that counts is how long it was let run in all and whether it was disposed of (`after_eq`): it has
come to its end when it was disposed of or has run for as long as it was to (`isFinished_after`).
-/

namespace JobWatch.BackgroundTask

/-- What is done with a task. -/
inductive Use where
  | advance (ms : Nat)
  | dispose
deriving DecidableEq, Repr

/-- For how long some uses let a task run. -/
def elapsed : List Use → Nat
  | [] => 0
  | .advance ms :: us => ms + elapsed us
  | .dispose :: us => elapsed us

def use (t : BackgroundTask) : Use → BackgroundTask
  | .advance ms => t.advance ms
  | .dispose => t.dispose

def after (t : BackgroundTask) (us : List Use) : BackgroundTask := us.foldl use t

variable (t : BackgroundTask) (us vs : List Use)

theorem after_append : t.after (us ++ vs) = (t.after us).after vs := List.foldl_append

/-- A task does not show in which order it was used, nor in which portions it was let run. -/
theorem after_eq :
    t.after us = ⟨t.duration, t.age + elapsed us, t.disposed || us.contains .dispose⟩ := by
  induction us generalizing t with
  | nil => simp [after, elapsed]
  | cons u us ih =>
    have hstep : t.after (u :: us) = (t.use u).after us := rfl
    rw [hstep, ih]
    cases u with
    | advance ms => simp [use, advance, elapsed, Nat.add_assoc]
    | dispose => simp [use, dispose, elapsed]

theorem isFinished_iff : t.isFinished ↔ t.disposed ∨ ∃ d ∈ t.duration, d ≤ t.age := by
  simp [isFinished, Option.any_eq_true]

/-- A task has come to its end when it was disposed of or has run for as long as it was to; one that
is to run for ever ends by being disposed of alone. -/
theorem isFinished_after (duration : Option Nat) :
    ((spawn duration).after us).isFinished ↔
      .dispose ∈ us ∨ ∃ d ∈ duration, d ≤ elapsed us := by
  simp [after_eq, isFinished_iff, spawn]

/-- What has come to its end stays so, whatever is done with it. -/
theorem isFinished_after_append (h : (t.after us).isFinished) :
    (t.after (us ++ vs)).isFinished := by
  rw [after_append, after_eq, isFinished_iff]
  rw [isFinished_iff] at h
  obtain hdisposed | ⟨d, hd, hage⟩ := h
  · exact .inl (by rw [hdisposed, Bool.true_or])
  · exact .inr ⟨d, hd, Nat.le_add_right_of_le hage⟩

end JobWatch.BackgroundTask

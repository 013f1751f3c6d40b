import JobWatch.Publish.Cell

/-!
# Shifted numbers

A controller numbers its requests, and its cell numbers the resets and the publications. Nothing
that a controller does depends on where the numbers begin: shifted by an `Offset`, it does the same
with shifted numbers. A controller that has been in use is therefore, once it is started over, a new
one that is shifted by what has been used up.
-/

namespace JobWatch

/-- How far the numbers of a controller are shifted. -/
structure Offset where
  requests : Nat
  epoch : Nat
  version : Nat
deriving DecidableEq, Repr

/-- The number of a request without the shift, unless it is of before. -/
def Offset.unshift? (o : Offset) (id : Nat) : Option Nat :=
  if id < o.requests then none else some (id - o.requests)

theorem Offset.eq_add_of_unshift? {o : Offset} {id id' : Nat} (h : o.unshift? id = some id') :
    id = id' + o.requests := by
  simp only [unshift?, Option.ite_none_left_eq_some, Option.some.injEq] at h
  omega

/-- A number that has no counterpart without the shift is of before. -/
theorem Offset.lt_of_unshift? {o : Offset} {id : Nat} (h : o.unshift? id = none) :
    id < o.requests := by
  simpa [unshift?] using h

def Writer.shift (w : Writer) (o : Offset) : Writer := ⟨w.epoch + o.epoch⟩

namespace Cell

variable {α β : Type} (c : Cell α) (w : Writer) (o : Offset)

/-- A cell with the same value whose numbers are shifted. -/
def shift : Cell α := ⟨c.value, c.epoch + o.epoch, c.version + o.version⟩

@[simp] theorem value_shift : (c.shift o).value = c.value := rfl

@[simp] theorem isCurrent_shift : (c.shift o).isCurrent (w.shift o) = c.isCurrent w := by
  rw [Bool.eq_iff_iff]
  simp [isCurrent, shift, Writer.shift]

@[simp] theorem reset_shift (a : α) :
    (c.shift o).reset a = ((c.reset a).1.shift o, (c.reset a).2.shift o) := by
  simp only [reset, shift, Writer.shift, Nat.add_right_comm]

/-- An update of a shifted cell is the update of the cell, shifted. -/
@[simp] theorem update_shift (f : α → α × β) :
    (c.shift o).update (w.shift o) f = (c.update w f).map fun (c, b) ↦ (c.shift o, b) := by
  simp only [update, isCurrent_shift, value_shift]
  split
  · simp only [shift, Option.map_some, Nat.add_right_comm]
  · rfl

/-- A cell in use is, but for its value, a new one that is shifted. -/
theorem shift_new (a : α) : (new a).shift o = ⟨a, o.epoch, o.version⟩ := by
  simp [new, shift]

/-- A writer of before the shift is stale after the next reset. -/
theorem isCurrent_shift_of_le (h : w.epoch ≤ o.epoch) (hc : 0 < c.epoch) :
    (c.shift o).isCurrent w = false := by
  have hne : c.epoch + o.epoch ≠ w.epoch := by omega
  simpa [isCurrent, shift] using hne

end Cell

end JobWatch

/-!
# Published values

A `Cell` holds the latest value of something that changes over time. Whoever resets it gets a
`Writer`, and only the writer of the latest reset can change the value: an update through an older
one is refused, whatever it would do. The version counts the values published so far.
-/

namespace JobWatch

/-- A published value. -/
structure Cell (α : Type) where
  value : α
  /-- The number of resets. -/
  epoch : Nat
  /-- The number of publications. -/
  version : Nat
deriving DecidableEq, Repr

/-- The right to update a cell until its next reset. -/
structure Writer where
  epoch : Nat
deriving DecidableEq, Repr

namespace Cell

variable {α β : Type}

def new (a : α) : Cell α := ⟨a, 0, 0⟩

/-- Starts over with a value; earlier writers become stale. -/
def reset (c : Cell α) (a : α) : Cell α × Writer :=
  (⟨a, c.epoch + 1, c.version + 1⟩, ⟨c.epoch + 1⟩)

/-- Whether a writer is that of the latest reset. -/
def isCurrent (c : Cell α) (w : Writer) : Bool := c.epoch == w.epoch

/-- Changes the value and reports a result, unless the writer is stale. -/
def update (c : Cell α) (w : Writer) (f : α → α × β) : Option (Cell α × β) :=
  if c.isCurrent w then
    let (a, b) := f c.value
    some (⟨a, c.epoch, c.version + 1⟩, b)
  else none

@[simp] theorem value_reset (c : Cell α) (a : α) : (c.reset a).1.value = a := rfl

theorem isCurrent_reset (c : Cell α) (a : α) : (c.reset a).1.isCurrent (c.reset a).2 := by
  simp [isCurrent, reset]

/-- The writer of the latest reset changes the value and stays the writer of the latest reset. -/
theorem update_of_current {c : Cell α} {w : Writer} (f : α → α × β) (h : c.isCurrent w) :
    c.update w f = some (⟨(f c.value).1, c.epoch, c.version + 1⟩, (f c.value).2) := by
  simp [update, h]

theorem update_of_stale {c : Cell α} {w : Writer} (f : α → α × β) (h : c.isCurrent w = false) :
    c.update w f = none := by
  simp [update, h]

end Cell

end JobWatch

import JobWatch.Publish.Cell

/-!
# Who may change a published value

A cell is used by many hands: whoever resets it gets a writer, writers are copied and passed on, and
nobody takes a writer back. Which of them may still change the value is told by the epoch that a
writer carries. Here that is compared with a plain account of the uses (`Account`), which knows no
epochs: it notes with what the cell was last reset, which writers stem from that reset, and which
updates those have made since.

The account is right after all uses in any order (`Agrees.use`), so the value of a cell is what the
writers of its latest reset have made of it, and a writer that is stale stays so and does nothing
(`value_made_by_latest_writers`).
-/

namespace JobWatch

/-- Someone who follows a cell: the number of publications that it has seen. -/
structure Subscriber where
  seen : Nat
deriving DecidableEq, Repr

/-- A use of a cell or of one of its writers. Writers go by number. -/
inductive Use (α β : Type) where
  | reset (a : α)
  | clone (writer : Nat)
  | update (writer : Nat) (f : α → α × β)
  | read (writer : Nat)
  | isCurrent (writer : Nat)
  | snapshot

/-- What a use tells. -/
inductive Answer (α β : Type) where
  /-- The number of a new writer. -/
  | writer (number : Nat)
  /-- The result of an update, unless it was refused. -/
  | updated (result : Option β)
  | value (a : α)
  | current (b : Bool)
  /-- No writer has that number. -/
  | unknown

/-- A cell and its writers, numbered in the order in which they were handed out. -/
structure Shared (α : Type) where
  cell : Cell α
  writers : List Writer

variable {α β : Type}

namespace Cell

/-- Follows a cell from now on. -/
def subscribe (c : Cell α) : Subscriber := ⟨c.version⟩

/-- Whether something was published that a subscriber has not seen. -/
def notifies (c : Cell α) (x : Subscriber) : Bool := c.version != x.seen

end Cell

namespace Shared

def new (a : α) : Shared α := ⟨.new a, []⟩

/-- What a use does and tells. -/
def use (s : Shared α) : Use α β → Shared α × Answer α β
  | .reset a =>
    let (cell, writer) := s.cell.reset a
    (⟨cell, s.writers ++ [writer]⟩, .writer s.writers.length)
  | .clone k =>
    match s.writers[k]? with
    | some w => (⟨s.cell, s.writers ++ [w]⟩, .writer s.writers.length)
    | none => (s, .unknown)
  | .update k f =>
    match s.writers[k]? with
    | some w =>
      match s.cell.update w f with
      | some (cell, b) => (⟨cell, s.writers⟩, .updated (some b))
      | none => (s, .updated none)
    | none => (s, .unknown)
  | .read k =>
    match s.writers[k]? with
    | some _ => (s, .value s.cell.value)
    | none => (s, .unknown)
  | .isCurrent k =>
    match s.writers[k]? with
    | some w => (s, .current (s.cell.isCurrent w))
    | none => (s, .unknown)
  | .snapshot => (s, .value s.cell.value)

/-- The cell and its writers after some uses. -/
def after (s : Shared α) (us : List (Use α β)) : Shared α := us.foldl (fun s u ↦ (s.use u).1) s

end Shared

/-- An account of the uses of a cell since its latest reset. -/
structure Account (α β : Type) where
  /-- What the cell was reset with. -/
  initial : α
  /-- The updates since then that count, in order. -/
  updates : List (α → α × β)
  /-- The numbers of the writers that stem from the reset: the one that it gave out, and copies. -/
  own : List Nat
  /-- How many writers have been handed out. -/
  count : Nat

namespace Account

def new (a : α) : Account α β := ⟨a, [], [], 0⟩

def enter (x : Account α β) : Use α β → Account α β
  | .reset a => ⟨a, [], [x.count], x.count + 1⟩
  | .clone k =>
    if k < x.count then
      { x with own := if k ∈ x.own then x.count :: x.own else x.own, count := x.count + 1 }
    else x
  | .update k f => if k ∈ x.own then { x with updates := x.updates ++ [f] } else x
  | .read _ | .isCurrent _ | .snapshot => x

/-- The account of some uses. -/
def of (a : α) (us : List (Use α β)) : Account α β := us.foldl enter (new a)

def value (x : Account α β) : α := x.updates.foldl (fun a f ↦ (f a).1) x.initial

end Account

/-! ## One use -/

/-- The account is right about a cell and its writers. -/
structure Agrees (x : Account α β) (s : Shared α) : Prop where
  count : s.writers.length = x.count
  value : s.cell.value = x.value
  current : ∀ k w, s.writers[k]? = some w → (s.cell.isCurrent w ↔ k ∈ x.own)
  own_lt : ∀ k ∈ x.own, k < x.count
  epoch_le : ∀ w ∈ s.writers, w.epoch ≤ s.cell.epoch

theorem getElem?_concat_eq_some {ws : List Writer} {v w : Writer} {k : Nat} :
    (ws ++ [v])[k]? = some w ↔ ws[k]? = some w ∨ k = ws.length ∧ v = w := by
  rw [List.getElem?_append]
  split
  next h => simp [Nat.ne_of_lt h]
  next h =>
    have hnone : ws[k]? = none := List.getElem?_eq_none (Nat.le_of_not_lt h)
    rw [List.getElem?_singleton, hnone]
    grind

namespace Agrees

variable {x : Account α β} {s : Shared α}

theorem new (a : α) : Agrees (Account.new a : Account α β) (Shared.new a) where
  count := rfl
  value := rfl
  current := by simp [Shared.new]
  own_lt := by simp [Account.new]
  epoch_le := by simp [Shared.new]

theorem lt_count (h : Agrees x s) {k : Nat} {w : Writer} (hk : s.writers[k]? = some w) :
    k < x.count := h.count ▸ (List.getElem?_eq_some_iff.1 hk).1

/-- The writers that the account holds for current are so. -/
theorem mem_own (h : Agrees x s) {k : Nat} (hk : k ∈ x.own) :
    ∃ w, s.writers[k]? = some w ∧ s.cell.isCurrent w := by
  have hlt : k < s.writers.length := h.count ▸ h.own_lt k hk
  exact ⟨_, List.getElem?_eq_getElem hlt, (h.current k _ (List.getElem?_eq_getElem hlt)).2 hk⟩

/-- A reset leaves its own writer as the only current one. -/
theorem reset (h : Agrees x s) (a : α) :
    Agrees (x.enter (.reset a)) (s.use (.reset a : Use α β)).1 where
  count := by simp [Shared.use, Account.enter, h.count]
  value := rfl
  current := by
    intro k w hk
    change (s.cell.reset a).1.isCurrent w ↔ k ∈ [x.count]
    rcases getElem?_concat_eq_some.1 hk with hold | ⟨rfl, rfl⟩
    · have hle := h.epoch_le w (List.mem_of_getElem? hold)
      have hne : k ≠ x.count := Nat.ne_of_lt (h.lt_count hold)
      simp only [Cell.reset, Cell.isCurrent, List.mem_singleton, hne, iff_false, beq_iff_eq]
      omega
    · simp only [h.count, List.mem_singleton, iff_true]
      exact Cell.isCurrent_reset s.cell a
  own_lt := by simp [Account.enter]
  epoch_le := by
    intro w hw
    rcases List.mem_append.1 hw with hw | hw
    · exact Nat.le_succ_of_le (h.epoch_le w hw)
    · exact Nat.le_of_eq (congrArg Writer.epoch (List.mem_singleton.1 hw))

/-- A copy of a writer is as current as the writer. -/
theorem clone (h : Agrees x s) (k : Nat) :
    Agrees (x.enter (.clone k)) (s.use (.clone k : Use α β)).1 := by
  cases hk : s.writers[k]? with
  | none =>
    have hge : ¬k < x.count := by
      rw [← h.count, Nat.not_lt]
      exact List.getElem?_eq_none_iff.1 hk
    simpa only [Account.enter, hge, if_false, Shared.use, hk] using h
  | some v =>
    have hcurrent := h.current k v hk
    simp only [Account.enter, h.lt_count hk, if_true, Shared.use, hk]
    refine ⟨by simp [h.count], h.value, fun j w hj ↦ ?_, fun j hj ↦ ?_, fun w hw ↦ ?_⟩
    · rcases getElem?_concat_eq_some.1 hj with hold | ⟨rfl, rfl⟩
      · have hne : j ≠ x.count := Nat.ne_of_lt (h.lt_count hold)
        rw [h.current j w hold]
        split <;> simp [hne]
      · have hnew : x.count ∉ x.own := fun hmem ↦ Nat.lt_irrefl _ (h.own_lt _ hmem)
        rw [hcurrent, h.count]
        split <;> simp_all
    · have hown : j = x.count ∨ j ∈ x.own := by
        split at hj
        · exact List.mem_cons.1 hj
        · exact .inr hj
      rcases hown with rfl | hown
      · exact Nat.lt_succ_self _
      · exact Nat.lt_succ_of_lt (h.own_lt j hown)
    · rcases List.mem_append.1 hw with hw | hw
      · exact h.epoch_le w hw
      · rw [List.mem_singleton.1 hw]
        exact h.epoch_le v (List.mem_of_getElem? hk)

/-- An update counts if its writer stems from the latest reset, and is refused otherwise. -/
theorem update (h : Agrees x s) (k : Nat) (f : α → α × β) :
    Agrees (x.enter (.update k f)) (s.use (.update k f)).1 := by
  by_cases hown : k ∈ x.own
  · obtain ⟨w, hk, hw⟩ := h.mem_own hown
    simp only [Account.enter, hown, if_true, Shared.use, hk, Cell.update_of_current f hw]
    refine ⟨h.count, ?_, h.current, h.own_lt, h.epoch_le⟩
    simp [Account.value, h.value]
  · have hkept : (s.use (.update k f)).1 = s := by
      cases hk : s.writers[k]? with
      | none => simp only [Shared.use, hk]
      | some w =>
        have hw : s.cell.isCurrent w = false := by simpa [hown] using h.current k w hk
        simp only [Shared.use, hk, Cell.update_of_stale f hw]
    rw [hkept]
    simpa only [Account.enter, hown, if_false] using h

/-- Whatever is done with a cell and its writers, the account stays right. -/
theorem use (h : Agrees x s) (u : Use α β) : Agrees (x.enter u) (s.use u).1 := by
  cases u with
  | reset a => exact h.reset a
  | clone k => exact h.clone k
  | update k f => exact h.update k f
  | read k | isCurrent k =>
    cases hk : s.writers[k]? <;> simpa only [Shared.use, hk, Account.enter] using h
  | snapshot => exact h

theorem after (h : Agrees x s) (us : List (Use α β)) :
    Agrees (us.foldl Account.enter x) (s.after us) := by
  induction us generalizing x s with
  | nil => exact h
  | cons u us ih => exact ih (h.use u)

end Agrees

/-! ## Publications -/

namespace Shared

variable (s : Shared α) (u : Use α β)

/-- Whether a use publishes: it is a reset, or an update by a current writer, whatever the update
makes of the value. -/
def Publishes : Prop :=
  (∃ a, u = .reset a) ∨ ∃ k w f, u = .update k f ∧ s.writers[k]? = some w ∧ s.cell.isCurrent w

/-- A use publishes a value, and may take the cell to its next epoch, or leaves the cell alone. -/
theorem cell_use :
    s.Publishes u ∧ (s.use u).1.cell.version = s.cell.version + 1 ∧
      s.cell.epoch ≤ (s.use u).1.cell.epoch ∨
    ¬s.Publishes u ∧ (s.use u).1.cell = s.cell := by
  cases u with
  | reset a => exact .inl ⟨.inl ⟨a, rfl⟩, rfl, Nat.le_succ _⟩
  | clone k | read k | isCurrent k =>
    refine .inr ⟨by simp [Publishes], ?_⟩
    cases hk : s.writers[k]? <;> simp only [use, hk]
  | snapshot => exact .inr ⟨by simp [Publishes], rfl⟩
  | update k f =>
    cases hk : s.writers[k]? with
    | none => exact .inr ⟨by simp [Publishes, hk], by simp only [use, hk]⟩
    | some w =>
      by_cases hw : s.cell.isCurrent w
      · have hcell : (s.use (.update k f)).1.cell =
            ⟨(f s.cell.value).1, s.cell.epoch, s.cell.version + 1⟩ := by
          simp only [use, hk, Cell.update_of_current f hw]
        rw [hcell]
        exact .inl ⟨.inr ⟨k, w, f, rfl, hk, hw⟩, rfl, Nat.le_refl _⟩
      · rw [Bool.not_eq_true] at hw
        exact .inr ⟨by simp [Publishes, hk, hw], by simp only [use, hk, Cell.update_of_stale f hw]⟩

/-- Followers are told of exactly the uses that publish. -/
theorem notifies_use : (s.use u).1.cell.notifies s.cell.subscribe ↔ s.Publishes u := by
  rcases s.cell_use u with ⟨hpub, hversion, -⟩ | ⟨hpub, hcell⟩
  · simp [Cell.notifies, Cell.subscribe, hversion, hpub]
  · simp [Cell.notifies, Cell.subscribe, hcell, hpub]

/-- Epochs only grow. -/
theorem epoch_le_after (us : List (Use α β)) : s.cell.epoch ≤ (s.after us).cell.epoch := by
  induction us generalizing s with
  | nil => exact Nat.le_refl _
  | cons u us ih =>
    have hle : s.cell.epoch ≤ (s.use u).1.cell.epoch := by
      rcases s.cell_use u with ⟨-, -, hle⟩ | ⟨-, hcell⟩
      · exact hle
      · exact Nat.le_of_eq (congrArg Cell.epoch hcell.symm)
    exact Nat.le_trans hle (ih (s.use u).1)

end Shared

/-- What holds of a cell and its writers after any uses.

The value is what the latest reset put there, changed by the updates that the writers of that reset
have made since, in order; and those are the writers that are current. A stale writer stays stale,
and its update is refused and does nothing. Subscribers are told of every reset and of every update
that is not refused, and of nothing else. -/
theorem value_made_by_latest_writers (a : α) (us : List (Use α β)) :
    let s := (Shared.new a).after us
    let x := Account.of a us
    s.cell.value = x.value ∧ (∀ k w, s.writers[k]? = some w → (s.cell.isCurrent w ↔ k ∈ x.own)) ∧
    (∀ w ∈ s.writers, s.cell.isCurrent w = false →
      ∀ later : List (Use α β), (s.after later).cell.isCurrent w = false) ∧
    (∀ k w, s.writers[k]? = some w → ∀ f : α → α × β,
      if s.cell.isCurrent w then (s.use (.update k f)).2 = .updated (some (f s.cell.value).2)
      else s.use (.update k f) = (s, .updated none)) ∧
    ∀ u : Use α β, (s.use u).1.cell.notifies s.cell.subscribe ↔ s.Publishes u := by
  intro s x
  have h : Agrees x s := (Agrees.new a).after us
  refine ⟨h.value, h.current, fun w hw hstale later ↦ ?_, fun k w hk f ↦ ?_, s.notifies_use⟩
  · have hle := h.epoch_le w hw
    have hgrows := s.epoch_le_after later
    simp only [Cell.isCurrent, beq_eq_false_iff_ne, ne_eq] at hstale ⊢
    omega
  · split
    next hw => simp only [Shared.use, hk, Cell.update_of_current f hw]
    next hw =>
      rw [Bool.not_eq_true] at hw
      simp only [Shared.use, hk, Cell.update_of_stale f hw]

/-- The writer of an earlier reset and its copy are refused, the one of the latest reset is not. -/
theorem late_push_refused :
    let push : String → List String → List String × Nat := fun item v ↦ (v ++ [item], v.length + 1)
    let us : List (Use (List String) Nat) :=
      [.reset ["job-a"], .clone 0, .reset ["job-b"], .update 1 (push "late"), .update 2 (push "fresh")]
    let s := (Shared.new []).after us
    s.cell.value = ["job-b", "fresh"] ∧ s.writers[1]? = some ⟨1⟩ ∧
      s.use (.update 1 (push "later")) = (s, .updated none) ∧
      (s.after ([.reset []] : List (Use (List String) Nat))).cell.isCurrent ⟨1⟩ = false := by
  intro push us s
  obtain ⟨hvalue, -, hstale, hupdate, -⟩ := value_made_by_latest_writers [] us
  refine ⟨hvalue, rfl, hupdate 1 ⟨1⟩ rfl (push "later"), hstale ⟨1⟩ ?_ rfl _⟩
  exact List.mem_of_getElem? (i := 1) rfl

end JobWatch

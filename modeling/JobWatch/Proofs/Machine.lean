/-!
# Runs of a machine

The controllers are machines: an event and the time at which it happens give the next state and what
comes out. A run is a list of such events. Three rules carry what is known of one step over to every
run: an invariant is kept, what a step may give out is all that a run gives out, and two machines
whose steps correspond have corresponding runs.

Times need not grow along a run; where they have to, that is said.
-/

namespace JobWatch

/-- A step of a machine: the time, the state and the event give the next state and what comes out.
-/
abbrev Machine (σ ε ω : Type) := Nat → σ → ε → σ × List ω

namespace Machine

variable {σ τ ε ω : Type}

def after (step : Machine σ ε ω) : σ → List (Nat × ε) → σ
  | s, [] => s
  | s, (now, e) :: es => after step (step now s e).1 es

/-- What comes out of a run, each thing with its time. -/
def outputs (step : Machine σ ε ω) : σ → List (Nat × ε) → List (Nat × ω)
  | _, [] => []
  | s, (now, e) :: es => (step now s e).2.map (now, ·) ++ outputs step (step now s e).1 es

/-- What holds of every event of a run, of its time and of the state in which it comes. -/
def Along (step : Machine σ ε ω) (p : Nat → σ → ε → Prop) : σ → List (Nat × ε) → Prop
  | _, [] => True
  | s, (now, e) :: es => p now s e ∧ Along step p (step now s e).1 es

instance decidableAlong {step : Machine σ ε ω} {p : Nat → σ → ε → Prop}
    [∀ now s e, Decidable (p now s e)] :
    (s : σ) → (es : List (Nat × ε)) → Decidable (Along step p s es)
  | _, [] => inferInstanceAs (Decidable True)
  | s, (now, e) :: es =>
    have : Decidable (Along step p (step now s e).1 es) := decidableAlong _ es
    inferInstanceAs (Decidable (p now s e ∧ Along step p (step now s e).1 es))

section Basic

variable (step : Machine σ ε ω) (s : σ) (now : Nat) (e : ε) (es fs : List (Nat × ε))

@[simp] theorem after_nil : after step s [] = s := rfl

@[simp] theorem after_cons :
    after step s ((now, e) :: es) = after step (step now s e).1 es := rfl

@[simp] theorem outputs_nil : outputs step s [] = [] := rfl

@[simp] theorem outputs_cons :
    outputs step s ((now, e) :: es) =
      (step now s e).2.map (now, ·) ++ outputs step (step now s e).1 es := rfl

/-- What comes out of a run, without the times. -/
theorem map_outputs_cons :
    (outputs step s ((now, e) :: es)).map (·.2) =
      (step now s e).2 ++ (outputs step (step now s e).1 es).map (·.2) := by
  rw [outputs_cons, List.map_append, List.map_map]
  exact congrArg (· ++ _) (List.map_id _)

@[simp] theorem along_cons {p : Nat → σ → ε → Prop} :
    Along step p s ((now, e) :: es) ↔ p now s e ∧ Along step p (step now s e).1 es := Iff.rfl

@[simp] theorem after_append : after step s (es ++ fs) = after step (after step s es) fs := by
  induction es generalizing s with
  | nil => rfl
  | cons x es ih => exact ih _

@[simp] theorem outputs_append :
    outputs step s (es ++ fs) = outputs step s es ++ outputs step (after step s es) fs := by
  induction es generalizing s with
  | nil => rfl
  | cons x es ih =>
    obtain ⟨now, e⟩ := x
    simp only [List.cons_append, outputs_cons, after_cons, ih, List.append_assoc]

end Basic

/-! ## What every run keeps -/

variable {step : Machine σ ε ω}

/-- What the steps of the allowed events keep, every run of such events keeps. -/
theorem after_of_step {allowed : ε → Prop} {P : σ → Prop}
    (keep : ∀ now s e, allowed e → P s → P (step now s e).1) {s : σ} (hs : P s)
    {es : List (Nat × ε)} (hes : ∀ x ∈ es, allowed x.2) : P (after step s es) := by
  induction es generalizing s with
  | nil => exact hs
  | cons x es ih =>
    exact ih (keep x.1 s x.2 (hes x List.mem_cons_self) hs) fun y hy ↦
      hes y (List.mem_cons_of_mem x hy)

/-- What every step keeps, every run keeps. -/
theorem after_of_every_step {P : σ → Prop} (keep : ∀ now s e, P s → P (step now s e).1) {s : σ}
    (hs : P s) (es : List (Nat × ε)) : P (after step s es) := by
  have keep' : ∀ now s e, True → P s → P (step now s e).1 := fun now s e _ ↦ keep now s e
  exact after_of_step keep' hs fun _ _ ↦ trivial

/-- What holds of the outputs of every step from a state with an invariant holds of the outputs of
every run. -/
theorem outputs_of_step {allowed : ε → Prop} {P : σ → Prop} {Q : ω → Prop}
    (keep : ∀ now s e, allowed e → P s → P (step now s e).1)
    (emit : ∀ now s e, allowed e → P s → ∀ o ∈ (step now s e).2, Q o) {s : σ} (hs : P s)
    {es : List (Nat × ε)} (hes : ∀ x ∈ es, allowed x.2) : ∀ x ∈ outputs step s es, Q x.2 := by
  induction es generalizing s with
  | nil => exact fun x hx ↦ absurd hx List.not_mem_nil
  | cons y es ih =>
    have hy : allowed y.2 := hes y List.mem_cons_self
    intro x hx
    rcases List.mem_append.1 hx with hx | hx
    · obtain ⟨o, ho, rfl⟩ := List.mem_map.1 hx
      exact emit y.1 s y.2 hy hs o ho
    · exact ih (keep y.1 s y.2 hy hs) (fun z hz ↦ hes z (List.mem_cons_of_mem y hz)) x hx

theorem along_of_forall {p : Nat → σ → ε → Prop} (h : ∀ now s e, p now s e) (s : σ)
    (es : List (Nat × ε)) : Along step p s es := by
  induction es generalizing s with
  | nil => trivial
  | cons x es ih => exact ⟨h x.1 s x.2, ih _⟩

/-- What holds along a run may be weakened. -/
theorem Along.imp {p q : Nat → σ → ε → Prop} (h : ∀ now s e, p now s e → q now s e) {s : σ}
    {es : List (Nat × ε)} (hp : Along step p s es) : Along step q s es := by
  induction es generalizing s with
  | nil => trivial
  | cons x es ih => exact ⟨h x.1 s x.2 hp.1, ih hp.2⟩

/-! ## Runs that correspond -/

/-- Outputs may be chosen before they get their time. -/
theorem filter_timed (concerns : ω → Bool) (now : Nat) (out : List ω) :
    (out.map (now, ·)).filter (fun x ↦ concerns x.2) = (out.filter concerns).map (now, ·) := by
  rw [List.filter_map]
  rfl

/-- Let each event of the first machine either be one of the second or concern the first alone, and
let the steps correspond. Then the runs do: the outputs of the first that concern the second are the
outputs of the second, renamed, at the same times. -/
theorem run_corresponds {ε' ω' : Type} {other : Machine τ ε' ω'} {R : σ → τ → Prop}
    {event? : ε → Option ε'} {concerns : ω → Bool} {rename : ω' → ω}
    (shared : ∀ now s t e e', R s t → event? e = some e' →
      R (step now s e).1 (other now t e').1 ∧
        (step now s e).2.filter concerns = (other now t e').2.map rename)
    (alone : ∀ now s t e, R s t → event? e = none →
      R (step now s e).1 t ∧ (step now s e).2.filter concerns = [])
    {s : σ} {t : τ} (h : R s t) (es : List (Nat × ε)) :
    let fs := es.filterMap fun x ↦ (event? x.2).map (x.1, ·)
    R (after step s es) (after other t fs) ∧
      (outputs step s es).filter (fun x ↦ concerns x.2) =
        (outputs other t fs).map fun x ↦ (x.1, rename x.2) := by
  induction es generalizing s t with
  | nil => exact ⟨h, rfl⟩
  | cons x es ih =>
    obtain ⟨now, e⟩ := x
    cases he : event? e with
    | none =>
      obtain ⟨hR, hout⟩ := alone now s t e h he
      simpa [he, filter_timed, hout] using ih hR
    | some e' =>
      obtain ⟨hR, hout⟩ := shared now s t e e' h he
      obtain ⟨hR', hout'⟩ := ih hR
      refine ⟨by simpa [he] using hR', ?_⟩
      simp [he, filter_timed, hout, hout', Function.comp_def]

end Machine

end JobWatch

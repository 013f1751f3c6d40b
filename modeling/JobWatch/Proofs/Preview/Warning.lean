import JobWatch.Proofs.Preview.Reasons

/-!
# The warning before a preview expires

A preview that is shown is looked at now and then, by a wall clock that may jump. The first look
that finds so little time left that it is worth a warning gives one, and no other look does,
although the preview may fail and be shown again in between: a flag that nothing clears remembers
it.

So the warnings of a run are read off what its looks find (`remainders`): they are the first of
those that are near the end, if there is one.
-/

namespace JobWatch

/-- Whether so many seconds are worth a warning. -/
def PreviewTiming.warnsAt (timing : PreviewTiming) (seconds : Int) : Bool :=
  decide (0 < seconds ∧ seconds ≤ timing.expiryWarning)

def PreviewEffect.warning? : PreviewEffect → Option Int
  | .expiryWarning seconds => some seconds
  | _ => none

namespace PreviewState

/-- The whole seconds that an event finds left, if it is a look at a preview that is shown and known
to expire. -/
def looked? (s : PreviewState) : PreviewEvent → Option Int
  | .countdownTick now => if s.phase = .active then s.expiresAt.map now.secondsUntil else none
  | _ => none

/-- What the looks of a run find left, in order. -/
def remainders : PreviewState → List PreviewEvent → List Int
  | _, [] => []
  | s, e :: es => (s.looked? e).toList ++ remainders (s.apply e).1 es

def warnings (effects : List PreviewEffect) : List Int := effects.filterMap PreviewEffect.warning?

theorem warnings_append (effects more : List PreviewEffect) :
    warnings (effects ++ more) = warnings effects ++ warnings more := List.filterMap_append

/-- The warnings are those among the effects. -/
theorem mem_warnings {effects : List PreviewEffect} {seconds : Int} :
    seconds ∈ warnings effects ↔ .expiryWarning seconds ∈ effects := by
  rw [warnings, List.mem_filterMap]
  constructor
  · rintro ⟨effect, hmem, heffect⟩
    cases effect with
    | expiryWarning => exact Option.some.inj heffect ▸ hmem
    | _ => contradiction
  · exact fun hmem ↦ ⟨_, hmem, rfl⟩

theorem remainders_concat (s : PreviewState) (es : List PreviewEvent) (e : PreviewEvent) :
    s.remainders (es ++ [e]) = s.remainders es ++ ((s.applyAll es).looked? e).toList := by
  induction es generalizing s with
  | nil => simp [remainders]
  | cons x es ih =>
    simp only [List.cons_append, remainders, applyAll_cons, ih, List.append_assoc]

variable {s s' : PreviewState} {e : PreviewEvent} {effects : List PreviewEffect}

/-- What an event finds that is worth a warning. -/
def nearEnd (s : PreviewState) (e : PreviewEvent) : List Int :=
  (s.looked? e).toList.filter s.timing.warnsAt

/-- One event warns of what it finds if no warning was given before, and the flag remembers it. -/
theorem warnings_of_does (hd : Does s e s' effects) :
    warnings effects = (if s.expiryWarningShown then [] else s.nearEnd e) ∧
      (s'.expiryWarningShown = true ↔ s.expiryWarningShown = true ∨ s.nearEnd e ≠ []) := by
  cases hd with
  | expires now expires phase known elapsed =>
    simp [warnings, PreviewEffect.warning?, nearEnd, looked?, phase, known,
      PreviewTiming.warnsAt, Int.not_lt.2 elapsed]
  | warns now expires phase known left near first =>
    simp [warnings, PreviewEffect.warning?, nearEnd, looked?, phase, known,
      PreviewTiming.warnsAt, left, near, first]
  | counts now expires phase known left calm =>
    by_cases hnear : now.secondsUntil expires ≤ s.timing.expiryWarning <;>
    simp_all [warnings, nearEnd, looked?, PreviewTiming.warnsAt]
  | lasts now phase known =>
    simp [warnings, PreviewEffect.warning?, nearEnd, looked?, known]
  | ignores event unexpected =>
    have hlook : s.looked? e = none := by
      cases e with
      | countdownTick now =>
        have hphase : s.phase ≠ .active := fun hphase ↦ by
          simp [PreviewEvent.expectedIn, hphase] at unexpected
        simp [looked?, hphase]
      | _ => rfl
    simp [warnings, nearEnd, hlook]
  | fails _ message failure =>
    have hlook : s.looked? e = none := by cases failure <;> rfl
    simp [warnings, PreviewEffect.warning?, nearEnd, hlook]
  | shows => split <;> simp [warnings, PreviewEffect.warning?, nearEnd, looked?]
  | _ => simp [warnings, PreviewEffect.warning?, nearEnd, looked?]

@[simp] theorem timing_applyAll (s : PreviewState) (es : List PreviewEvent) :
    (s.applyAll es).timing = s.timing := by
  induction es generalizing s with
  | nil => rfl
  | cons e es ih => rw [applyAll_cons, ih, timing_apply]

/-- What the looks of a run find that is worth a warning, in order. -/
def nearEnds (s : PreviewState) (es : List PreviewEvent) : List Int :=
  (s.remainders es).filter s.timing.warnsAt

theorem nearEnds_concat (s : PreviewState) (es : List PreviewEvent) (e : PreviewEvent) :
    s.nearEnds (es ++ [e]) = s.nearEnds es ++ (s.applyAll es).nearEnd e := by
  rw [nearEnds, remainders_concat, List.filter_append, nearEnd, timing_applyAll, nearEnds]

/-- What is worth a warning is what a look finds, if the timing says so. -/
theorem mem_nearEnd {seconds : Int} :
    seconds ∈ s.nearEnd e ↔ s.looked? e = some seconds ∧ s.timing.warnsAt seconds = true := by
  rw [nearEnd, List.mem_filter, Option.mem_toList]

/-- An event finds at most one thing that is worth a warning. -/
theorem take_nearEnd (s : PreviewState) (e : PreviewEvent) :
    (s.nearEnd e).take 1 = s.nearEnd e := by
  have hlooked : (s.looked? e).toList.length ≤ 1 := by cases s.looked? e <;> simp
  exact List.take_of_length_le (Nat.le_trans (List.length_filter_le _ _) hlooked)

/-- A run warns of the first remainder that is worth a warning, and the flag tells whether there was
one. -/
theorem warnings_effects (hstart : s.expiryWarningShown = false) (es : List PreviewEvent) :
    warnings (s.effects es) = (s.nearEnds es).take 1 ∧
      ((s.applyAll es).expiryWarningShown = true ↔ s.nearEnds es ≠ []) := by
  induction es using List.reverseRecOn with
  | nil => simp [warnings, PreviewState.effects, nearEnds, remainders, hstart]
  | append_singleton es e ih =>
    obtain ⟨hwarnings, hflag⟩ := ih
    obtain ⟨hone, hkept⟩ := warnings_of_does ((s.applyAll es).does_apply e)
    rw [effects_concat, warnings_append, hwarnings, hone, nearEnds_concat, applyAll_concat, hkept]
    have hset : s.nearEnds es ≠ [] ∨ (s.applyAll es).nearEnd e ≠ [] ↔
        s.nearEnds es ++ (s.applyAll es).nearEnd e ≠ [] := by
      rw [ne_eq, ne_eq, ne_eq, List.append_eq_nil_iff, Classical.not_and_iff_not_or_not]
    refine ⟨?_, by rw [hflag, hset]⟩
    by_cases hnone : s.nearEnds es = []
    · have hunset : (s.applyAll es).expiryWarningShown = false := by
        simpa [hnone] using hflag
      simp [hnone, hunset, take_nearEnd]
    · obtain ⟨first, rest, heq⟩ := List.exists_cons_of_ne_nil hnone
      simp [heq, hflag.2 hnone]

/-- A look leaves the preview shown unless it finds that no whole second is left. -/
theorem phase_of_look {now : Timestamp} (hd : Does s (.countdownTick now) s' effects)
    (hp : s.phase = .active) :
    s'.phase = if (s.looked? (.countdownTick now)).any (· ≤ 0) then .expired else .active := by
  cases hd with
  | fails _ message failure => cases failure
  | expires _ expires _ known elapsed => simp [looked?, hp, known, elapsed]
  | lasts _ _ known => simp [looked?, hp, known]
  | warns _ expires _ known left => simp [looked?, hp, known, Int.not_le.2 left]
  | counts _ expires _ known left => simp [looked?, hp, known, Int.not_le.2 left]
  | ignores _ unexpected => simp [PreviewEvent.expectedIn, hp] at unexpected

/-- How a preview is counted down and when it warns, in every run, whatever the clock says.

A run warns at most once, of the first remainder that is worth a warning, and it does so at the look
that finds it. The flag tells whether it has. A look ends the showing of a preview exactly if no
whole second is left. The time that remains is positive while the preview is shown, zero when it has
expired, and never negative. -/
theorem warned_at_first_look (job : String) (params : PreviewParams) (timing : PreviewTiming)
    (es : List PreviewEvent) :
    let s₀ := (start job params timing).1
    let s := s₀.applyAll es
    let given := warnings ((start job params timing).2 ++ s₀.effects es)
    let found := (s₀.remainders es).filter timing.warnsAt
    given = found.take 1 ∧
    (s.expiryWarningShown = true ↔ given ≠ []) ∧
    (∀ e seconds, .expiryWarning seconds ∈ (s.apply e).2 ↔
      s.looked? e = some seconds ∧ timing.warnsAt seconds ∧ found = []) ∧
    (∀ now, s.phase = .active → (s.apply (.countdownTick now)).1.phase =
      if (s.looked? (.countdownTick now)).any (· ≤ 0) then .expired else .active) ∧
    ∀ seconds, s.timeRemaining = some seconds →
      0 ≤ seconds ∧ (s.phase = .active → 1 ≤ seconds) ∧ (s.phase = .expired → seconds = 0) := by
  intro s₀ s given found
  obtain ⟨hgiven, hflag⟩ := warnings_effects (s := s₀) rfl es
  have hsilent : warnings (start job params timing).2 = [] := by
    cases hp : params.sandboxPaused <;> simp [start, hp, warnings, PreviewEffect.warning?]
  have heq : given = found.take 1 := by
    simp only [given, warnings_append, hsilent, hgiven]
    rfl
  refine ⟨heq, ?_, ?_, ?_, ?_⟩
  · rw [hflag, heq, ne_eq, ne_eq, List.take_eq_nil_iff]
    simp [found, nearEnds, s₀, start]
  · intro e seconds
    obtain ⟨hone, -⟩ := warnings_of_does (s.does_apply e)
    have htiming : s.timing = timing := timing_applyAll s₀ es
    rw [← mem_warnings, hone]
    by_cases hnone : found = []
    · have hunset : ¬ s.expiryWarningShown = true := fun hset ↦ hflag.1 hset hnone
      rw [if_neg hunset, mem_nearEnd, htiming]
      simp [hnone]
    · rw [if_pos (hflag.2 hnone)]
      simp [hnone]
  · intro now hactive
    exact phase_of_look (s.does_apply _) hactive
  · intro seconds hseconds
    have hreasons : Reasons s := reasons_applyAll (reasons_start job params timing) es
    rcases hreasons.remaining seconds hseconds with ⟨hp, h⟩ | ⟨hp, h⟩ | ⟨hp, h⟩ <;>
    simp [hp] <;> omega

/-- A preview of twelve minutes fails and is shown again before it nears its end. It warns at the
first look after that with less than five minutes left, not at a later one, which comes after the
clock was set back, and it has expired when half a second is left. -/
theorem warned_once_after_failure :
    let clock (t : Nat) : Timestamp := (Timestamp.epoch.addMillis? t).getD .epoch
    let begun := start "j1" ⟨none, some (clock 720000), false⟩ .standard
    let shown : List PreviewEvent := [.checkSucceeded ⟨true, "", none⟩, .markLoaded]
    let es : List PreviewEvent :=
      shown ++ [.countdownTick (clock 0), .reportError "frame refused to connect", .retry] ++
        shown ++ [.countdownTick (clock 470000), .countdownTick (clock 100000),
          .countdownTick (clock 520000)]
    begun.1.remainders es = [720, 250, 620, 200] ∧
      warnings (begun.2 ++ begun.1.effects es) = [250] ∧
      (begun.1.applyAll es).expiryWarningShown = true ∧
      ((begun.1.applyAll es).apply (.countdownTick (clock 719500))).1.phase = .expired := by
  intro clock begun shown es
  have hfound : begun.1.remainders es = [720, 250, 620, 200] := by decide +kernel
  have hactive : (begun.1.applyAll es).phase = .active := by decide +kernel
  have hover : ((begun.1.applyAll es).looked? (.countdownTick (clock 719500))).any (· ≤ 0) = true :=
    by decide +kernel
  have hcounted := warned_at_first_look "j1" ⟨none, some (clock 720000), false⟩ .standard es
  have hbegun : start "j1" ⟨none, some (clock 720000), false⟩ .standard = begun := rfl
  rw [hbegun] at hcounted
  -- From here on the values are not looked into.
  clear_value begun es
  obtain ⟨hgiven, hflag, -, hlook, -⟩ := hcounted
  have hwarned : warnings (begun.2 ++ begun.1.effects es) = [250] := by
    rw [hgiven, hfound]
    decide
  have hset : (begun.1.applyAll es).expiryWarningShown = true := by
    rw [hflag, hwarned]
    decide
  have hexpired := hlook (clock 719500) hactive
  rw [if_pos hover] at hexpired
  exact ⟨hfound, hwarned, hset, hexpired⟩

end PreviewState

end JobWatch

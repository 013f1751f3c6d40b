import JobWatch.Command.PreviewHost
import JobWatch.Proofs.Preview.Wake

/-!
# A preview and its host

The host of a preview sees states now and then, and its signals arrive some time after that. What
the two have come to together is a `Scene`: the state of the preview, the phase that the host saw
last, and the signals between them that the preview has not taken up. There is at most one of these
at a time while it matters, which is why the preview never takes up a signal twice: a paused
sandbox is resumed once, a preview that loads is told once that it is shown, and nobody asks for a
retry.

A scene also bounds the requests. A running sandbox is checked once. A paused one is asked to
resume when the only signal to do so is taken up, and again when the timer for that is over, which
is not set when the limit is reached; so it is asked at least once and no more often than the
limit.
-/

namespace JobWatch

open PreviewDriver

/-- What a sandbox is asked for. -/
def PreviewDriver.Query.ofPaused (paused : Bool) : Query := if paused then .resume else .check

/-- How often a sandbox is asked for that at most. -/
def PreviewTiming.budget (timing : PreviewTiming) (paused : Bool) : Nat :=
  if paused then max 1 timing.resumeMaxAttempts else 1

/-- What a host says of a preview that loads: that it is shown, or that it cannot be; and if it has
an address, it cannot be shown only if it is to be opened in a browser which does not open it. -/
def PreviewHost.MaySay (canOpen : String → Bool) (browse : Bool) (url : Option String) :
    Signal → Prop
  | .markLoaded => True
  | .reportError _ => ∀ address, url = some address → browse = true ∧ canOpen address = false
  | _ => False

/-- Whether a signal is a word on loading. -/
def PreviewDriver.Signal.onLoading : Signal → Bool
  | .markLoaded | .reportError _ => true
  | .retry | .resume => false

section Scene

variable (canOpen : String → Bool) (browse paused : Bool) (v : PreviewState)

/-- What a preview and its host have come to: `due` tells whether the timer for another request to
resume is set, `seen` is the phase that the host saw last, `resumed` whether it has asked for a
resume, and `n` requests have gone out. -/
inductive Scene (due : Bool) :
    List Signal → Option PreviewPhase → Bool → Nat → Prop
  | checks {seen : Option PreviewPhase} {resumed : Bool} (phase : v.phase = .checking)
      (running : paused = false) (unseen : seen ≠ some .loading) : Scene due [] seen resumed 1
  /-- The host has not seen that the sandbox is paused. -/
  | pauses (phase : v.phase = .paused) (isPaused : paused = true) : Scene due [] none false 0
  /-- The host has seen it. -/
  | called (phase : v.phase = .paused) (isPaused : paused = true) :
      Scene due [.resume] (some .paused) true 0
  | resumes {seen : Option PreviewPhase} {resumed : Bool} {n : Nat} (phase : v.phase = .resuming)
      (isPaused : paused = true) (unseen : seen ≠ some .loading) (count : v.resumeAttempts = n)
      (bounded : n ≤ v.timing.budget paused)
      (left : due = true → n < v.timing.resumeMaxAttempts) : Scene due [] seen resumed n
  /-- The host has not seen that the preview loads. -/
  | loads {seen : Option PreviewPhase} {resumed : Bool} {n : Nat} (phase : v.phase = .loading)
      (unseen : seen ≠ some .loading) (bounded : n ≤ v.timing.budget paused) :
      Scene due [] seen resumed n
  /-- The host has seen it, and what it says is on its way. -/
  | answers {resumed : Bool} {n : Nat} (signal : Signal) (phase : v.phase = .loading)
      (word : PreviewHost.MaySay canOpen browse v.activePreviewUrl signal)
      (bounded : n ≤ v.timing.budget paused) : Scene due [signal] (some .loading) resumed n
  | shows {seen : Option PreviewPhase} {resumed : Bool} {n : Nat} (phase : v.phase = .active)
      (bounded : n ≤ v.timing.budget paused) : Scene due [] seen resumed n
  /-- Nothing more happens unless somebody asks for it, and nobody does. -/
  | rests {pending : List Signal} {seen : Option PreviewPhase} {resumed : Bool} {n : Nat}
      (settled : PreviewHost.isSettled v.phase) (harmless : ∀ signal ∈ pending, signal.onLoading)
      (bounded : n ≤ v.timing.budget paused) : Scene due pending seen resumed n

end Scene

variable {canOpen : String → Bool} {browse paused due due' : Bool} {v v' : PreviewState}
  {pending left : List Signal} {seen : Option PreviewPhase} {resumed : Bool} {n : Nat}
  {event : PreviewEvent} {effects : List PreviewEffect}

theorem PreviewHost.MaySay.onLoading {url : Option String} {signal : Signal}
    (h : PreviewHost.MaySay canOpen browse url signal) : signal.onLoading := by
  cases signal with
  | markLoaded | reportError => rfl
  | retry | resume => exact h.elim

theorem PreviewTiming.one_le_budget (timing : PreviewTiming) (paused : Bool) :
    1 ≤ timing.budget paused := by
  cases paused with
  | true => exact Nat.le_max_left ..
  | false => exact Nat.le_refl 1

namespace Scene

/-- In every scene the sandbox has been asked no more often than it may be. -/
theorem le_budget (h : Scene canOpen browse paused v due pending seen resumed n) :
    n ≤ v.timing.budget paused := by
  cases h with
  | checks => exact PreviewTiming.one_le_budget ..
  | pauses | called => exact Nat.zero_le _
  | resumes _ _ _ _ bounded | loads _ _ bounded | answers _ _ _ bounded | shows _ bounded
  | rests _ _ bounded => exact bounded

/-- The one signal that matters outside of loading is the one that a paused sandbox waits for. -/
theorem onLoading_or_called (h : Scene canOpen browse paused v due pending seen resumed n) :
    (∀ signal ∈ pending, signal.onLoading) ∨ v.phase = .paused ∧ pending = [.resume] := by
  cases h with
  | called phase => exact .inr ⟨phase, rfl⟩
  | answers signal _ word =>
    refine .inl fun other hmem ↦ ?_
    rw [List.mem_singleton.1 hmem]
    exact word.onLoading
  | rests _ harmless => exact .inl harmless
  | _ => exact .inl nofun

/-- While a preview is checked the host has nothing on its way and has not seen it load. -/
theorem of_checking (h : Scene canOpen browse paused v due pending seen resumed n)
    (hp : v.phase = .checking) : pending = [] ∧ paused = false ∧ seen ≠ some .loading := by
  cases h with
  | checks _ running unseen => exact ⟨rfl, running, unseen⟩
  | rests settled => rw [hp] at settled; contradiction
  | pauses phase | called phase | resumes phase | loads phase | answers _ phase | shows phase =>
    exact absurd (hp.symm.trans phase) (by decide)

/-- A sandbox that is paused has not been asked to resume. -/
theorem of_paused (h : Scene canOpen browse paused v due pending seen resumed n)
    (hp : v.phase = .paused) : paused = true ∧ seen ≠ some .loading ∧ n = 0 := by
  cases h with
  | pauses _ isPaused => exact ⟨isPaused, nofun, rfl⟩
  | called _ isPaused => exact ⟨isPaused, nofun, rfl⟩
  | rests settled => rw [hp] at settled; contradiction
  | checks phase | resumes phase | loads phase | answers _ phase | shows phase =>
    exact absurd (hp.symm.trans phase) (by decide)

/-- While a sandbox is resumed, the attempts that the preview counts are the requests that were
made. -/
theorem of_resuming (h : Scene canOpen browse paused v due pending seen resumed n)
    (hp : v.phase = .resuming) :
    pending = [] ∧ paused = true ∧ seen ≠ some .loading ∧ v.resumeAttempts = n ∧
      (due = true → n < v.timing.resumeMaxAttempts) := by
  cases h with
  | resumes _ isPaused unseen count _ left => exact ⟨rfl, isPaused, unseen, count, left⟩
  | rests settled => rw [hp] at settled; contradiction
  | checks phase | pauses phase | called phase | loads phase | answers _ phase | shows phase =>
    exact absurd (hp.symm.trans phase) (by decide)

/-- While a preview loads, either the host has yet to see that, or its word on it is on the way. -/
theorem of_loading (h : Scene canOpen browse paused v due pending seen resumed n)
    (hp : v.phase = .loading) :
    pending = [] ∧ seen ≠ some .loading ∨
      seen = some .loading ∧
        ∃ signal, pending = [signal] ∧
          PreviewHost.MaySay canOpen browse v.activePreviewUrl signal := by
  cases h with
  | loads _ unseen => exact .inl ⟨rfl, unseen⟩
  | answers signal _ word => exact .inr ⟨rfl, signal, rfl, word⟩
  | rests settled => rw [hp] at settled; contradiction
  | checks phase | pauses phase | called phase | resumes phase | shows phase =>
    exact absurd (hp.symm.trans phase) (by decide)

/-- When a preview is shown nothing of the host is on its way. -/
theorem of_active (h : Scene canOpen browse paused v due pending seen resumed n)
    (hp : v.phase = .active) : pending = [] := by
  cases h with
  | shows => rfl
  | rests settled => rw [hp] at settled; contradiction
  | checks phase | pauses phase | called phase | resumes phase | loads phase | answers _ phase =>
    exact absurd (hp.symm.trans phase) (by decide)

/-- The timer for another request matters while the sandbox is being resumed only. -/
theorem ofDue (h : Scene canOpen browse paused v due pending seen resumed n)
    (hdue : due' = true → due = true) :
    Scene canOpen browse paused v due' pending seen resumed n := by
  cases h with
  | checks phase running unseen => exact .checks phase running unseen
  | pauses phase isPaused => exact .pauses phase isPaused
  | called phase isPaused => exact .called phase isPaused
  | resumes phase isPaused unseen count bounded left =>
    exact .resumes phase isPaused unseen count bounded fun hset ↦ left (hdue hset)
  | loads phase unseen bounded => exact .loads phase unseen bounded
  | answers signal phase word bounded => exact .answers signal phase word bounded
  | shows phase bounded => exact .shows phase bounded
  | rests settled harmless bounded => exact .rests settled harmless bounded

/-- A signal that the preview does not expect is one that no longer matters. -/
theorem ignores (h : Scene canOpen browse paused v due pending seen resumed n)
    (hfrom : ComesFrom event pending left) (hun : event.expectedIn v.phase = false) :
    Scene canOpen browse paused v due left seen resumed n := by
  rcases hfrom with ⟨signal, rfl, rfl⟩ | ⟨-, rfl⟩
  · cases h with
    | called phase => simp [phase, Signal.event, PreviewEvent.expectedIn] at hun
    | answers _ phase word =>
      cases signal with
      | markLoaded => simp [phase, Signal.event, PreviewEvent.expectedIn] at hun
      | reportError => simp [Signal.event, PreviewEvent.expectedIn] at hun
      | retry | resume => exact word.elim
    | rests settled harmless bounded =>
      exact .rests settled (fun other hmem ↦ harmless other (List.mem_cons_of_mem _ hmem)) bounded
  · exact h

/-- A failure leaves nothing behind that matters. -/
theorem fails (h : Scene canOpen browse paused v due pending seen resumed n)
    (hfrom : ComesFrom event pending left) {message : String}
    (hfailure : event.FailsWith v message) : ∀ signal ∈ left, signal.onLoading := by
  rcases h.onLoading_or_called with hharmless | ⟨hphase, rfl⟩
  · exact fun signal hmem ↦ hharmless signal (hfrom.mem_of_left hmem)
  · -- The signal to resume is not a report, and a paused preview fails on nothing else.
    cases hfailure with
    | check e phase => exact absurd (hphase.symm.trans phase) (by decide)
    | timeout phase => exact absurd (hphase.symm.trans phase) (by decide)
    | report message =>
      have hreport := hfrom.of_signal (.reportError message)
      cases hreport

/-- What the preview makes of an event: what it asks the sandbox for, if anything, and what it and
its host have come to then. -/
theorem does (h : Scene canOpen browse paused v due pending seen resumed n)
    (hd : PreviewState.Does v event v' effects) (hfrom : ComesFrom event pending left)
    (hdue : event = .resumeRetryDue → due = true)
    (hquiet : due = true → v.phase = .resuming)
    (hsets : due' = true → .scheduleResumeRetry ∈ effects ∨ event ≠ .resumeRetryDue ∧ due = true) :
    ∃ k, effects.filterMap PreviewEffect.query? = List.replicate k (Query.ofPaused paused) ∧
      Scene canOpen browse paused v' due' left seen resumed (n + k) := by
  have hbudget : n ≤ v.timing.budget paused := h.le_budget
  cases hd with
  | allows check phase =>
    obtain ⟨rfl, rfl, hseen⟩ := h.of_checking phase
    obtain rfl := hfrom.eq_nil
    exact ⟨0, rfl, .loads rfl hseen hbudget⟩
  | blocks check phase =>
    obtain ⟨rfl, -⟩ := h.of_checking phase
    obtain rfl := hfrom.eq_nil
    exact ⟨0, rfl, .rests rfl nofun hbudget⟩
  | fails _ message failure =>
    exact ⟨0, rfl, .rests rfl (h.fails hfrom failure) hbudget⟩
  | shows phase =>
    have hleft : left = [] := by
      have hpending := hfrom.of_signal .markLoaded
      rcases h.of_loading phase with ⟨hnil, -⟩ | ⟨-, signal, hone, -⟩
      · rw [hnil] at hpending; contradiction
      · rw [hone] at hpending; exact (List.cons.inj hpending).2.symm
    subst hleft
    refine ⟨0, ?_, .shows rfl hbudget⟩
    split <;> rfl
  | lasts now phase =>
    obtain rfl := h.of_active phase
    obtain rfl := hfrom.eq_nil
    exact ⟨0, rfl, .shows phase hbudget⟩
  | expires now expires phase =>
    obtain rfl := h.of_active phase
    obtain rfl := hfrom.eq_nil
    exact ⟨0, rfl, .rests rfl nofun hbudget⟩
  | warns now expires phase =>
    obtain rfl := h.of_active phase
    obtain rfl := hfrom.eq_nil
    exact ⟨0, rfl, .shows phase hbudget⟩
  | counts now expires phase =>
    obtain rfl := h.of_active phase
    obtain rfl := hfrom.eq_nil
    exact ⟨0, rfl, .shows phase hbudget⟩
  | resumes phase =>
    have hpending := hfrom.of_signal .resume
    rcases h.onLoading_or_called with hharmless | ⟨hpaused, hcalled⟩
    · have hno : Signal.resume.onLoading := hharmless _ (hpending ▸ List.mem_cons_self)
      contradiction
    · obtain ⟨rfl, hseen, rfl⟩ := h.of_paused hpaused
      obtain rfl : left = [] := by
        rw [hcalled] at hpending
        exact (List.cons.inj hpending).2.symm
      refine ⟨1, rfl, .resumes rfl rfl hseen rfl ?_ fun hset ↦ ?_⟩
      · exact PreviewTiming.one_le_budget ..
      · rcases hsets hset with hmem | ⟨-, hset⟩
        · simp at hmem
        · exact absurd ((hquiet hset).symm.trans hpaused) (by decide)
  | resumed response phase =>
    obtain ⟨rfl, -, hseen, -⟩ := h.of_resuming phase
    obtain rfl := hfrom.eq_nil
    exact ⟨0, rfl, .loads rfl hseen hbudget⟩
  | waits e phase room =>
    obtain ⟨rfl, hpaused, hseen, hcount, -⟩ := h.of_resuming phase
    obtain rfl := hfrom.eq_nil
    exact ⟨0, rfl, .resumes phase hpaused hseen hcount hbudget fun _ ↦ hcount ▸ room⟩
  | givesUp e phase =>
    obtain ⟨rfl, -⟩ := h.of_resuming phase
    obtain rfl := hfrom.eq_nil
    exact ⟨0, rfl, .rests rfl nofun hbudget⟩
  | asksAgain phase =>
    obtain ⟨rfl, rfl, hseen, hcount, hroom⟩ := h.of_resuming phase
    obtain rfl := hfrom.eq_nil
    have hlt : n < v.timing.resumeMaxAttempts := hroom (hdue rfl)
    refine ⟨1, rfl, .resumes phase rfl hseen (by rw [hcount]) ?_ fun hset ↦ ?_⟩
    · exact Nat.le_trans hlt (Nat.le_max_right ..)
    · rcases hsets hset with hmem | ⟨hne, -⟩
      · simp at hmem
      · exact absurd rfl hne
  | retries phase =>
    -- Nobody asks for a retry.
    have hpending := hfrom.of_signal .retry
    rcases h.onLoading_or_called with hharmless | ⟨-, hcalled⟩
    · have hno : Signal.retry.onLoading := hharmless _ (hpending ▸ List.mem_cons_self)
      contradiction
    · rw [hcalled] at hpending
      cases hpending
  | ignores _ unexpected =>
    refine ⟨0, rfl, (h.ignores hfrom unexpected).ofDue fun hset ↦ ?_⟩
    rcases hsets hset with hmem | ⟨-, hset⟩
    · contradiction
    · exact hset

end Scene

/-! ## A look of the host -/

namespace PreviewHost

variable {host : PreviewHost}

/-- A host that has seen the phase does nothing. -/
theorem look_of_seen (hseen : host.phase = some v.phase) :
    host.look canOpen v = (host, ⟨[], [], []⟩) := by
  rw [look, if_pos hseen]

/-- Only a preview that has expired ends well. -/
theorem ending?_of_settled (job : String) (hs : isSettled v.phase) :
    ∃ said ending, ending? job v = some (said, ending) ∧
      (ending = .success ↔ v.phase = .expired) := by
  simp only [ending?, hs, if_true]
  refine ⟨_, _, rfl, ?_⟩
  split
  next hexpired => exact iff_of_true rfl hexpired
  next hother => exact iff_of_false nofun hother

/-- A host says something only of a preview that is paused or loads. -/
theorem look_of_other (hpaused : v.phase ≠ .paused) (hloading : v.phase ≠ .loading) :
    host.look canOpen v = ({ host with phase := some v.phase }, ⟨[], [], []⟩) := by
  by_cases hseen : host.phase = some v.phase
  · rw [look_of_seen hseen, ← hseen]
  · rw [look, if_neg hseen]
    cases hp : v.phase <;> first | rfl | exact absurd hp hpaused | exact absurd hp hloading

/-- A host that comes to see that a preview loads has something to say about it. -/
theorem look_of_loading (canOpen : String → Bool) (hp : v.phase = .loading)
    (hseen : host.phase ≠ some .loading) :
    ∃ signal : Signal, (host.look canOpen v).2.signals = [signal.call] ∧
      MaySay canOpen host.browse v.activePreviewUrl signal ∧
      (host.look canOpen v).1.phase = some .loading ∧
      (host.look canOpen v).1.resumed = host.resumed ∧
      (host.look canOpen v).1.browse = host.browse := by
  have hlook : host.look canOpen v =
      { host with phase := some .loading }.showPreview canOpen v.activePreviewUrl := by
    rw [look, hp, if_neg hseen]
  rw [hlook]
  cases hurl : v.activePreviewUrl with
  | none => exact ⟨.reportError "No preview URL available", rfl, nofun, rfl, rfl, rfl⟩
  | some url =>
    simp only [showPreview]
    split
    next hopens =>
      split
      · exact ⟨.markLoaded, rfl, trivial, rfl, rfl, rfl⟩
      next hfails =>
        refine ⟨.reportError "Could not open browser", rfl, ?_, rfl, rfl, rfl⟩
        intro address haddress
        obtain rfl := Option.some.inj haddress
        have hbrowse : host.browse = true := (Bool.and_eq_true_iff.1 hopens).1
        exact ⟨hbrowse, by simpa using hfails⟩
    next => exact ⟨.markLoaded, rfl, trivial, rfl, rfl, rfl⟩

/-- A host that looks at a preview which loads has seen that. -/
theorem phase_look_of_loading (canOpen : String → Bool) (hp : v.phase = .loading) :
    (host.look canOpen v).1.phase = some .loading := by
  by_cases hseen : host.phase = some .loading
  · rw [look_of_seen (by rw [hp]; exact hseen)]
    exact hseen
  · obtain ⟨-, -, -, hphase, -⟩ := look_of_loading canOpen hp hseen
    exact hphase

end PreviewHost

namespace Scene

/-- Where a host says nothing it only remembers the phase. -/
theorem sees (h : Scene canOpen browse paused v due pending seen resumed n)
    (hpaused : v.phase ≠ .paused) (hloading : v.phase ≠ .loading) :
    Scene canOpen browse paused v due pending (some v.phase) resumed n := by
  have hunseen : some v.phase ≠ some .loading := fun heq ↦ hloading (Option.some.inj heq)
  cases h with
  | checks phase running => exact .checks phase running hunseen
  | pauses phase | called phase => exact absurd phase hpaused
  | resumes phase isPaused _ count bounded left =>
    exact .resumes phase isPaused hunseen count bounded left
  | loads phase | answers _ phase => exact absurd phase hloading
  | shows phase bounded => exact .shows phase bounded
  | rests settled harmless bounded => exact .rests settled harmless bounded

variable {host : PreviewHost}

/-- A paused sandbox is asked for once. -/
theorem look_of_paused
    (h : Scene canOpen host.browse paused v due pending host.phase host.resumed n)
    (hp : v.phase = .paused) :
    ∃ said : List Signal, (host.look canOpen v).2.signals = said.map Signal.call ∧
      Scene canOpen host.browse paused v due (pending ++ said) (host.look canOpen v).1.phase
        (host.look canOpen v).1.resumed n ∧
      (host.look canOpen v).1.browse = host.browse := by
  obtain ⟨browse, resumed, opened, seen⟩ := host
  cases h with
  | pauses _ isPaused =>
    simp only [PreviewHost.look, hp]
    exact ⟨[.resume], rfl, .called hp isPaused, rfl⟩
  | called _ isPaused =>
    rw [PreviewHost.look_of_seen (by rw [hp])]
    exact ⟨[], rfl, .called hp isPaused, rfl⟩
  | rests settled => rw [hp] at settled; contradiction
  | checks phase | resumes phase | loads phase | answers _ phase | shows phase =>
    exact absurd (hp.symm.trans phase) (by decide)

/-- What a look of the host makes of a scene: it may put a signal between the host and the preview.
-/
theorem look (h : Scene canOpen host.browse paused v due pending host.phase host.resumed n) :
    ∃ said : List Signal, (host.look canOpen v).2.signals = said.map Signal.call ∧
      Scene canOpen host.browse paused v due (pending ++ said) (host.look canOpen v).1.phase
        (host.look canOpen v).1.resumed n ∧
      (host.look canOpen v).1.browse = host.browse := by
  by_cases hpaused : v.phase = .paused
  · exact h.look_of_paused hpaused
  · by_cases hloading : v.phase = .loading
    · rcases h.of_loading hloading with ⟨rfl, hseen⟩ | ⟨hseen, signal, rfl, word⟩
      · obtain ⟨signal, hsaid, word, hphase, -, hbrowse⟩ :=
          PreviewHost.look_of_loading canOpen hloading hseen
        refine ⟨[signal], hsaid, ?_, hbrowse⟩
        rw [hphase]
        exact .answers signal hloading word h.le_budget
      · rw [PreviewHost.look_of_seen (by rw [hloading]; exact hseen)]
        exact ⟨[], rfl, h, rfl⟩
    · rw [PreviewHost.look_of_other hpaused hloading]
      refine ⟨[], rfl, ?_, rfl⟩
      rw [List.append_nil]
      exact h.sees hpaused hloading

/-- The scene with which a preview starts: it is paused, or has asked for a check. -/
theorem start (canOpen : String → Bool) (browse : Bool) (d : PreviewDriver) (now : Nat)
    (job : String) (params : PreviewParams) :
    ∃ n, (d.start now job params).2.filterMap Output.query? =
        List.replicate n (Query.ofPaused params.sandboxPaused) ∧
      Scene canOpen browse params.sandboxPaused (d.start now job params).1.cell.value
        (d.start now job params).1.retryAt?.isSome (d.start now job params).1.unread none false n
    := by
  have hphase : (d.start now job params).1.cell.value.phase =
      if params.sandboxPaused then .paused else .checking := by
    simp [PreviewDriver.start, PreviewState.start]
  cases hp : params.sandboxPaused with
  | true =>
    rw [hp] at hphase
    refine ⟨0, ?_, ?_⟩
    · simp [PreviewDriver.start, PreviewState.start, hp, performAll, Output.query?]
    · have hunread : (d.start now job params).1.unread = [] := by
        simp [PreviewDriver.start, PreviewState.start, hp, performAll, PreviewDriver.unread]
      rw [hunread]
      exact .pauses hphase rfl
  | false =>
    rw [hp] at hphase
    refine ⟨1, ?_, ?_⟩
    · simp [PreviewDriver.start, PreviewState.start, hp, performAll, perform, ask, Output.query?,
        Query.ofPaused, List.filterMap_cons]
    · have hunread : (d.start now job params).1.unread = [] := by
        simp [PreviewDriver.start, PreviewState.start, hp, performAll, perform, ask,
          PreviewDriver.unread]
      rw [hunread]
      exact .checks hphase rfl (by decide)

end Scene

end JobWatch

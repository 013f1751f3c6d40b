import JobWatch.Proofs.Settings.RoundTrip

/-!
# Which layer decides

The settings that count come from one file or from none (`Chosen`, `Beneath`), and of what the
environment and the command line say the topmost counts (`Overlaid`). These relations say all that
there is to a resolution (`resolveIn_eq_ok_iff`, `resolveIn_eq_error_iff`): it fails because of the
chosen file alone, and nothing depends on a file that comes after the chosen one
(`resolveIn_of_agree`).

What a file does not mention keeps its standard value (`keepsUnmentioned_of_parse`).
-/

namespace JobWatch

open Toml

/-! ## What is filled in -/

namespace Environment

/-- A variable has a value, and the value is not blank. -/
def Fills (env : Environment) (name value : String) : Prop :=
  env.lookup name = some value ∧ ∃ c ∈ value.toList, Text.isBlank c = false

/-- A variable counts if it has a value that is not blank. -/
theorem filled?_eq_some_iff {env : Environment} {name value : String} :
    env.filled? name = some value ↔ env.Fills name value := by
  simp [filled?, Fills, Text.allBlank, Option.filter_eq_some_iff]

end Environment

/-! ## What a document does not mention -/

namespace Setting

variable {α : Type} {fields : List (Setting α)} {fresh : α}

/-- A value that stands for a record says something of a setting: under its name, or in its
place. -/
def Mentions (fields : List (Setting α)) (f : Setting α) : Value → Prop
  | .table _ ms => f.name ∈ ms.map (·.1)
  | .array vs => f ∈ fields.take vs.length
  | .tables elements => f ∈ fields.take elements.length
  | _ => False

/-- A setting that is not mentioned stays as it was. -/
theorem Lawful.write_of_not_mentions (hlaw : Lawful fields fresh) {f : Setting α}
    (hf : f ∈ fields) {v : Value} (hnot : ¬ Mentions fields f v) {a a' : α}
    (hread : readRecord fields a v = .ok a') : f.write a' = f.write a := by
  have hother {g : Setting α} (hg : g ∈ fields) (hne : f ≠ g) {v : Value} {b b' : α}
      (hb : f.write b = f.write a) (hstep : g.read b v = .ok b') : f.write b' = f.write a := by
    have hname : f.name ≠ g.name := fun heq ↦ hne (List.inj_on_of_nodup_map hlaw.nodup hf hg heq)
    rw [hlaw.write_of_read hg hf hname hstep, hb]
  have hitems {vs : List Value} (hplace : f ∉ fields.take vs.length)
      (hread : readItems a fields vs = .ok a') : f.write a' = f.write a :=
    readItems_keeps (P := fun b ↦ f.write b = f.write a)
      (fun g hg v b b' ↦ hother (List.mem_of_mem_take hg) fun heq ↦ hplace (heq ▸ hg)) rfl hread
  unfold readRecord at hread
  split at hread
  next ms =>
    refine readMembers_keeps (P := fun b ↦ f.write b = f.write a)
      (fun g hg v hv b b' ↦ hother hg fun heq ↦ hnot ?_) rfl hread
    simp only [Members.sorted, List.mem_mergeSort] at hv
    exact List.mem_map.2 ⟨_, hv, congrArg Setting.name heq.symm⟩
  next vs => exact hitems hnot hread
  next elements => exact hitems (by simpa [Mentions] using hnot) hread
  · cases hread
  · cases hread

end Setting

namespace Settings

/-- A document says something of a setting of one of its parts. -/
def Mentions {α : Type} (text part : String) (fields : List (Setting α)) (f : Setting α) : Prop :=
  ∃ ms v, parse? text = some ms ∧ (part, v) ∈ ms ∧ Setting.Mentions fields f v

/-- What a document does not mention is standard. -/
structure KeepsUnmentioned (text : String) (s : Settings) : Prop where
  api : ∀ f ∈ ApiSettings.schema, ¬ Mentions text "api" ApiSettings.schema f →
    f.write s.api = f.write .standard
  timing : ∀ f ∈ TimingSettings.schema, ¬ Mentions text "timing" TimingSettings.schema f →
    f.write s.timing = f.write .standard
  logging : ∀ f ∈ LoggingSettings.schema, ¬ Mentions text "logging" LoggingSettings.schema f →
    f.write s.logging = f.write .standard

section Part

variable {α : Type} {name : String} {fields : List (Setting α)} {fresh : α} (get : Settings → α)

/-- One part of the settings is changed under its own name only, and is then read afresh. -/
theorem write_get_of_parse (hlaw : Setting.Lawful fields fresh) (hfresh : get standard = fresh)
    (hpart : ∀ g ∈ schema, ∀ s v s', g.read s v = .ok s' →
      get s' = get s ∨ g.name = name ∧ Setting.readRecord fields fresh v = .ok (get s'))
    {text : String} {s : Settings} (h : parse text = .ok s) {f : Setting α} (hf : f ∈ fields)
    (hnot : ¬ Mentions text name fields f) : f.write (get s) = f.write fresh := by
  unfold parse at h
  split at h
  · cases h
  next ms hms =>
    refine Setting.readMembers_keeps (P := fun s ↦ f.write (get s) = f.write fresh)
      (fun g hg v hv s s' hs hstep ↦ ?_) (by rw [hfresh]) h
    simp only [Members.sorted, List.mem_mergeSort] at hv
    rcases hpart g hg s v s' hstep with hget | ⟨hname, hread⟩
    · rw [hget, hs]
    · exact hlaw.write_of_not_mentions hf (fun hm ↦ hnot ⟨ms, v, hms, hname ▸ hv, hm⟩) hread

end Part

/-- What a document does not mention stays as the standard settings have it. -/
theorem keepsUnmentioned_of_parse {text : String} {s : Settings} (h : parse text = .ok s) :
    KeepsUnmentioned text s where
  api f hf := by
    refine write_get_of_parse (·.api) ApiSettings.lawful_schema rfl
      (fun g hg s v s' hread ↦ ?_) h hf
    simp only [schema, List.mem_cons, List.not_mem_nil, or_false] at hg
    rcases hg with rfl | rfl | rfl <;> obtain ⟨a, ha, rfl⟩ := read_part hread
    · exact .inr ⟨rfl, ha⟩
    · exact .inl rfl
    · exact .inl rfl
  timing f hf := by
    refine write_get_of_parse (·.timing) TimingSettings.lawful_schema rfl
      (fun g hg s v s' hread ↦ ?_) h hf
    simp only [schema, List.mem_cons, List.not_mem_nil, or_false] at hg
    rcases hg with rfl | rfl | rfl <;> obtain ⟨a, ha, rfl⟩ := read_part hread
    · exact .inl rfl
    · exact .inr ⟨rfl, ha⟩
    · exact .inl rfl
  logging f hf := by
    refine write_get_of_parse (·.logging) LoggingSettings.lawful_schema rfl
      (fun g hg s v s' hread ↦ ?_) h hf
    simp only [schema, List.mem_cons, List.not_mem_nil, or_false] at hg
    rcases hg with rfl | rfl | rfl <;> obtain ⟨a, ha, rfl⟩ := read_part hread
    · exact .inl rfl
    · exact .inl rfl
    · exact .inr ⟨rfl, ha⟩

/-! ## The topmost layer that sets something -/

/-- A value is what the first layer sets that sets anything, or else the one below them all. -/
def Topmost {α : Type} (below : α) : List (α → Prop) → α → Prop
  | [], a => a = below
  | sets :: layers, a => sets a ∨ (∀ b, ¬ sets b) ∧ Topmost below layers a

/-- The value of the first layer counts; where it sets none, that of the layers below. -/
theorem topmost_cons_iff {α : Type} {below a : α} {layers : List (α → Prop)} {sets : α → Prop}
    {x : Option α} (hsets : ∀ b, sets b ↔ x = some b) :
    Topmost below (sets :: layers) a ↔ x = some a ∨ x = none ∧ Topmost below layers a := by
  simp only [Topmost, hsets, Option.eq_none_iff_forall_ne_some, ne_eq]

/-- What two layers come to. -/
theorem topmost_pair_iff {α : Type} {below a : α} {upper lower : α → Prop} {x y : Option α}
    (hupper : ∀ b, upper b ↔ x = some b) (hlower : ∀ b, lower b ↔ y = some b) :
    Topmost below [upper, lower] a ↔ a = x.getD (y.getD below) := by
  rw [topmost_cons_iff hupper, topmost_cons_iff hlower, Topmost]
  cases x <;> cases y <;> simp [eq_comm]

/-- What the environment and the command line make of the settings `base`: the command line comes
before the environment, and what neither may name stays as it is. -/
structure Overlaid (env : Environment) (o : Overrides) (base s : Settings) : Prop where
  baseUrl : Topmost base.api.baseUrl
    [fun url ↦ o.apiUrl = some url, env.Fills Environment.apiUrl] s.api.baseUrl
  token : Topmost base.api.token
    [fun t ↦ ∃ v, t = some v ∧ o.token = some v,
      fun t ↦ ∃ v, t = some v ∧ env.Fills Environment.token v] s.api.token
  level : Topmost base.logging.level
    [fun level ↦ o.verbose ∧ level = "debug", env.Fills Environment.level] s.logging.level
  json : s.logging.json ↔ o.jsonLogs ∨ base.logging.json
  requestTimeout : s.api.requestTimeout = base.api.requestTimeout
  timing : s.timing = base.timing
  file : s.logging.file = base.logging.file

section Overlaid

variable {env : Environment} {o : Overrides} {base s : Settings}

theorem topmost_baseUrl_iff {url : String} :
    Topmost base.api.baseUrl [fun url ↦ o.apiUrl = some url, env.Fills Environment.apiUrl] url ↔
      url = ((base.withEnvironment env).withOverrides o).api.baseUrl :=
  topmost_pair_iff (fun _ ↦ .rfl) fun _ ↦ Environment.filled?_eq_some_iff.symm

theorem topmost_token_iff {t : Option String} :
    Topmost base.api.token [fun t ↦ ∃ v, t = some v ∧ o.token = some v,
        fun t ↦ ∃ v, t = some v ∧ env.Fills Environment.token v] t ↔
      t = ((base.withEnvironment env).withOverrides o).api.token := by
  have hsome (x t : Option String) : (∃ v, t = some v ∧ x = some v) ↔ x.map some = some t := by
    cases x <;> simp [eq_comm]
  simp only [← Environment.filled?_eq_some_iff]
  rw [topmost_pair_iff (hsome _) (hsome _)]
  cases ho : o.token <;> cases he : env.filled? Environment.token <;>
    simp [withEnvironment, withOverrides, ho, he]

theorem topmost_level_iff {level : String} :
    Topmost base.logging.level
        [fun level ↦ o.verbose ∧ level = "debug", env.Fills Environment.level] level ↔
      level = ((base.withEnvironment env).withOverrides o).logging.level := by
  have hverbose (level : String) : (o.verbose ∧ level = "debug") ↔
      (if o.verbose then some "debug" else none) = some level := by
    cases o.verbose <;> simp [eq_comm]
  rw [topmost_pair_iff hverbose fun _ ↦ Environment.filled?_eq_some_iff.symm]
  cases h : o.verbose <;> simp [withEnvironment, withOverrides, h]

/-- The environment and then the command line on top of some settings, as one overlay. -/
theorem overlaid_iff :
    Overlaid env o base s ↔ s = (base.withEnvironment env).withOverrides o := by
  have hjson : (s.logging.json ↔ o.jsonLogs ∨ base.logging.json) ↔
      s.logging.json = ((base.withEnvironment env).withOverrides o).logging.json := by
    rw [← Bool.or_eq_true, Bool.coe_iff_coe]
    rfl
  constructor
  · rintro ⟨hurl, htoken, hlevel, hjs, htimeout, htiming, hfile⟩
    have hurl := topmost_baseUrl_iff.1 hurl
    have htoken := topmost_token_iff.1 htoken
    have hlevel := topmost_level_iff.1 hlevel
    have hjs := hjson.1 hjs
    obtain ⟨⟨_, _, _⟩, _, ⟨_, _, _⟩⟩ := s
    dsimp only at hurl htoken hlevel hjs htimeout htiming hfile
    rw [hurl, htoken, hlevel, hjs, htimeout, htiming, hfile]
    rfl
  · rintro rfl
    exact ⟨topmost_baseUrl_iff.2 rfl, topmost_token_iff.2 rfl, topmost_level_iff.2 rfl,
      hjson.2 rfl, rfl, rfl, rfl⟩

/-- Laid over once more, the layers change nothing. -/
theorem withOverrides_withEnvironment_self (s : Settings) :
    (((s.withEnvironment env).withOverrides o).withEnvironment env).withOverrides o =
      (s.withEnvironment env).withOverrides o := by
  have htwice {α : Type} (x y : Option α) (a : α) :
      x.getD (y.getD (x.getD (y.getD a))) = x.getD (y.getD a) := by
    cases x <;> cases y <;> rfl
  have htoken (x y z : Option String) : x.or (y.or (x.or (y.or z))) = x.or (y.or z) := by
    cases x <;> cases y <;> simp
  have hlevel (y : Option String) (a : String) : y.getD (y.getD a) = y.getD a := htwice none y a
  cases hverbose : o.verbose <;>
    simp [withEnvironment, withOverrides, hverbose, htwice, htoken, hlevel]

end Overlaid

/-! ## The file that counts -/

section Resolve

variable {view : FileView} {user : Option FilePath} {env : Environment} {cwd : FilePath}
  {o : Overrides}

/-- The file that counts: the one that was asked for, be it there or not; else the project's, if
there is one; else the user's, if the user has a directory of settings and there is one in it. -/
inductive Chosen (view : FileView) (user : Option FilePath) (cwd : FilePath) :
    Option FilePath → Option FilePath → Prop where
  | asked (path : FilePath) : Chosen view user cwd (some path) (some path)
  | project (hproject : view.isFile (projectPath cwd)) :
    Chosen view user cwd none (some (projectPath cwd))
  | user {directory : FilePath} (hproject : ¬ view.isFile (projectPath cwd))
    (hdirectory : user = some directory) (huser : view.isFile (userPath directory)) :
    Chosen view user cwd none (some (userPath directory))
  | nothing (hproject : ¬ view.isFile (projectPath cwd))
    (huser : ∀ directory, user = some directory → ¬ view.isFile (userPath directory)) :
    Chosen view user cwd none none

/-- The file that is read is the one that is asked for, the project's or the user's, in this order.
-/
theorem chosen_iff {asked chosen : Option FilePath} :
    Chosen view user cwd asked chosen ↔ discover? view user cwd asked = chosen := by
  constructor
  · intro h
    cases h with
    | asked path => rfl
    | project hproject => simp [discover?, hproject]
    | user hproject hdirectory huser => simp [discover?, hproject, hdirectory, huser]
    | nothing hproject huser => simpa [discover?, hproject] using huser
  · rintro rfl
    cases asked with
    | some path => exact .asked path
    | none =>
      by_cases hproject : view.isFile (projectPath cwd)
      · simpa [discover?, hproject] using Chosen.project hproject
      · cases user with
        | none => simpa [discover?, hproject] using .nothing hproject (by simp)
        | some directory =>
          by_cases huser : view.isFile (userPath directory)
          · simpa [discover?, hproject, Option.filter, huser] using Chosen.user hproject rfl huser
          · simpa [discover?, hproject, Option.filter, huser] using
              .nothing hproject (by simpa using huser)

/-- The settings under the layers: those of the chosen file, or the standard ones. -/
def Beneath (view : FileView) : Option FilePath → Settings → Prop
  | none, base => base = standard
  | some path, base => ∃ text, view.read path = .ok text ∧ parse text = .ok base

/-- Why a file cannot count. -/
inductive Fails (view : FileView) (path : FilePath) : LoadError → Prop where
  | unreadable {cause : FileError} (hread : view.read path = .error cause) :
    Fails view path (.unreadable path cause)
  | invalid {text : String} {cause : SettingsError} (hread : view.read path = .ok text)
    (hparse : parse text = .error cause) : Fails view path (.invalid path cause)

/-- A file that is read gives the settings under the layers. -/
theorem load_eq_ok_iff {path : FilePath} {s : Settings} :
    load view path = .ok s ↔ Beneath view (some path) s := by
  unfold load Beneath
  cases hread : view.read path with
  | error e => simp [hread]
  | ok text => cases hparse : parse text <;> simp [hread, hparse]

theorem load_eq_error_iff {path : FilePath} {e : LoadError} :
    load view path = .error e ↔ Fails view path e := by
  unfold load
  constructor
  · intro h
    split at h
    next hread => cases h; exact .unreadable hread
    next hread =>
      split at h
      next hparse => cases h; exact .invalid hread hparse
      next => cases h
  · intro h
    cases h with
    | unreadable hread => simp [hread]
    | invalid hread hparse => simp [hread, hparse]

/-- The settings that count are an overlay over those of the chosen file. -/
theorem resolveIn_eq_ok_iff {s : Settings} {chosen : Option FilePath} :
    resolveIn view user env cwd o = .ok (s, chosen) ↔
      Chosen view user cwd o.configPath chosen ∧
        ∃ base, Beneath view chosen base ∧ Overlaid env o base s := by
  simp only [chosen_iff, overlaid_iff, resolveIn]
  cases hpath : discover? view user cwd o.configPath with
  | none =>
    simp only [Except.map, Except.ok.injEq, Prod.mk.injEq]
    constructor
    · rintro ⟨rfl, rfl⟩
      exact ⟨rfl, standard, rfl, rfl⟩
    · rintro ⟨rfl, base, rfl, rfl⟩
      exact ⟨rfl, rfl⟩
  | some path =>
    cases hload : load view path with
    | error e =>
      simp only [hload, Except.map, reduceCtorEq, false_iff, not_and, not_exists]
      rintro rfl base hbase
      rw [← load_eq_ok_iff, hload] at hbase
      cases hbase
    | ok loaded =>
      simp only [hload, Except.map, Except.ok.injEq, Prod.mk.injEq]
      constructor
      · rintro ⟨rfl, rfl⟩
        exact ⟨rfl, loaded, load_eq_ok_iff.1 hload, rfl⟩
      · rintro ⟨rfl, base, hbase, rfl⟩
        rw [← load_eq_ok_iff, hload] at hbase
        cases hbase
        exact ⟨rfl, rfl⟩

/-- There are no settings exactly if the file that was chosen cannot be used. -/
theorem resolveIn_eq_error_iff {e : LoadError} :
    resolveIn view user env cwd o = .error e ↔
      ∃ path, Chosen view user cwd o.configPath (some path) ∧ Fails view path e := by
  simp only [chosen_iff, ← load_eq_error_iff, resolveIn]
  cases hpath : discover? view user cwd o.configPath with
  | none => simp [Except.map]
  | some path => cases hload : load view path <;> simp [hload, Except.map]

/-! ## Files that do not count -/

/-- At a path there is a file in both views or in neither, and what comes of reading it is the
same. -/
structure SameFile (view view' : FileView) (path : FilePath) : Prop where
  isFile : view'.isFile path = view.isFile path
  read : view.isFile path → view'.read path = view.read path

/-- Two views have the same to read where a file is asked for, or else the same file of the project,
and the same file of the user where there is none of the project. -/
structure AgreeUpToChosen (view view' : FileView) (user : Option FilePath) (cwd : FilePath)
    (asked : Option FilePath) : Prop where
  ofAsked : ∀ path, asked = some path → view'.read path = view.read path
  ofProject : asked = none → SameFile view view' (projectPath cwd)
  ofUser : asked = none → ¬ view.isFile (projectPath cwd) →
    ∀ directory, user = some directory → SameFile view view' (userPath directory)

namespace AgreeUpToChosen

variable {view' : FileView} {asked : Option FilePath}
  (h : AgreeUpToChosen view view' user cwd asked)

include h

theorem chosen {c : Option FilePath} (hc : Chosen view user cwd asked c) :
    Chosen view' user cwd asked c := by
  cases hc with
  | asked path => exact .asked path
  | project hproject =>
    rw [← (h.ofProject rfl).isFile] at hproject
    exact .project hproject
  | user hproject hdirectory huser =>
    rw [← (h.ofUser rfl hproject _ hdirectory).isFile] at huser
    rw [← (h.ofProject rfl).isFile] at hproject
    exact .user hproject hdirectory huser
  | nothing hproject huser =>
    have hsame := h.ofUser rfl hproject
    rw [← (h.ofProject rfl).isFile] at hproject
    refine .nothing hproject fun directory hdirectory ↦ ?_
    rw [(hsame directory hdirectory).isFile]
    exact huser directory hdirectory

/-- What comes of reading the chosen file is the same in both views. -/
theorem read_eq {path : FilePath} (hc : Chosen view user cwd asked (some path)) :
    view'.read path = view.read path := by
  cases hc with
  | asked path => exact h.ofAsked path rfl
  | project hproject => exact (h.ofProject rfl).read hproject
  | user hproject hdirectory huser => exact (h.ofUser rfl hproject _ hdirectory).read huser

end AgreeUpToChosen

/-- Nothing depends on a file that comes after the chosen one. -/
theorem resolveIn_of_agree {view' : FileView}
    (h : AgreeUpToChosen view view' user cwd o.configPath) :
    resolveIn view' user env cwd o = resolveIn view user env cwd o := by
  have hchosen := h.chosen (chosen_iff.2 rfl)
  simp only [resolveIn, chosen_iff.1 hchosen]
  cases hpath : discover? view user cwd o.configPath with
  | none => rfl
  | some path =>
    have hread := h.read_eq (chosen_iff.2 hpath)
    simp only [load, hread]

/-- How the layers make the settings that count.

One file is chosen, or none. They are settled exactly if that file can be read and understood, and
the error is that of the file, whatever the command line says otherwise. What counts then is the
file under the environment under the command line, with standard values for what the file does not
mention; the same layers once more change nothing. No file that comes after the chosen one has a
part in it. This holds wherever the user's settings are, and also for a user who has no place for
them. -/
theorem settings_layered (view : FileView) (user : Option FilePath) (env : Environment)
    (cwd : FilePath) (o : Overrides) :
    ∃ chosen, (∀ c, Chosen view user cwd o.configPath c ↔ c = chosen) ∧
      (∀ e, resolveIn view user env cwd o = .error e ↔
        ∃ path, chosen = some path ∧ Fails view path e) ∧
      (∀ o', o'.configPath = o.configPath → ∀ e,
        resolveIn view user env cwd o' = .error e ↔ resolveIn view user env cwd o = .error e) ∧
      (∀ s c, resolveIn view user env cwd o = .ok (s, c) ↔
        c = chosen ∧ ∃ base, Beneath view chosen base ∧ Overlaid env o base s) ∧
      (∀ text base, parse text = .ok base → KeepsUnmentioned text base) ∧
      (∀ s c, resolveIn view user env cwd o = .ok (s, c) → Overlaid env o s s) ∧
      ∀ view', AgreeUpToChosen view view' user cwd o.configPath →
        resolveIn view' user env cwd o = resolveIn view user env cwd o := by
  refine ⟨discover? view user cwd o.configPath, fun c ↦ chosen_iff.trans eq_comm,
    fun e ↦ ?_, fun o' ho e ↦ ?_, fun s c ↦ ?_, fun _ _ ↦ keepsUnmentioned_of_parse,
    fun s c h ↦ ?_, fun _ ↦ resolveIn_of_agree⟩
  · simp only [resolveIn_eq_error_iff, chosen_iff]
  · simp only [resolveIn_eq_error_iff, ho]
  · rw [resolveIn_eq_ok_iff, chosen_iff]
    constructor
    · rintro ⟨rfl, hbase⟩
      exact ⟨rfl, hbase⟩
    · rintro ⟨rfl, hbase⟩
      exact ⟨rfl, hbase⟩
  · obtain ⟨-, base, -, hs⟩ := resolveIn_eq_ok_iff.1 h
    obtain rfl := overlaid_iff.1 hs
    exact overlaid_iff.2 (withOverrides_withEnvironment_self base).symm

end Resolve

/-- A file of the project that cannot be read makes no difference to the file that is asked for. -/
theorem broken_project_file_ignored :
    let text (p : FilePath) (e : FileError) := if p = "c" then .ok standard.text else .error e
    let view : FileView := ⟨fun p ↦ p = "c", (text · .notFound)⟩
    let view' : FileView := ⟨fun _ ↦ true, (text · .denied)⟩
    let env : Environment := [(Environment.apiUrl, " "), (Environment.token, "t")]
    let o : Overrides := { Overrides.none with configPath := some "c", verbose := true }
    let s : Settings := { standard with
      api := { standard.api with token := some "t" }
      logging := { standard.logging with level := "debug" } }
    AgreeUpToChosen view view' (some "u") "/" o.configPath ∧
      resolveIn view' (some "u") env "/" o = .ok (s, some "c") ∧ Overlaid env o s s := by
  intro text view view' env o s
  obtain ⟨chosen, hchosen, -, -, hok, -, hagain, hsame⟩ := settings_layered view (some "u") env "/" o
  have hasked : some "c" = chosen := (hchosen _).1 (.asked "c")
  have hagree : AgreeUpToChosen view view' (some "u") "/" o.configPath := by
    refine ⟨fun path hpath ↦ ?_, nofun, nofun⟩
    cases hpath
    rfl
  have hs : Overlaid env o standard s := overlaid_iff.2 (by decide +kernel)
  have hresolve : resolveIn view (some "u") env "/" o = .ok (s, some "c") :=
    (hok _ _).2 ⟨hasked, standard, hasked ▸ ⟨_, rfl, admitted_standard.parse_text⟩, hs⟩
  exact ⟨hagree, (hsame view' hagree).trans hresolve, hagain _ _ hresolve⟩

end Settings

end JobWatch

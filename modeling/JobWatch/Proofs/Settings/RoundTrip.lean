import JobWatch.Proofs.Settings.Schema
import JobWatch.Settings.Layers

/-!
# Settings are read back

Settings that were read from a file, with what the environment and the command line say on top, are
read back from the document that they are saved as. All that they have could have been read
(`Settings.Admitted`): a file sets nothing else, and the later layers set only texts, which are read
whatever they say, and a truth value.
-/

namespace JobWatch

open Toml

namespace Settings

/-- All that settings have could have been read. -/
structure Admitted (s : Settings) : Prop where
  api : ∀ f ∈ ApiSettings.schema, f.Admits s.api
  timing : ∀ f ∈ TimingSettings.schema, f.Admits s.timing
  logging : ∀ f ∈ LoggingSettings.schema, f.Admits s.logging

theorem admitted_standard : standard.Admitted where
  api := ApiSettings.lawful_schema.admits_fresh
  timing := TimingSettings.lawful_schema.admits_fresh
  logging := LoggingSettings.lawful_schema.admits_fresh

theorem read_part {α : Type} {fields : List (Setting α)} {fresh : α} {name : String}
    {set : Settings → α → Settings} {s s' : Settings} {v : Value}
    (hread : (part name fields fresh set).read s v = .ok s') :
    ∃ a, Setting.readRecord fields fresh v = .ok a ∧ s' = set s a := by
  simp only [part] at hread
  cases hrecord : Setting.readRecord fields fresh v with
  | error e =>
    rw [hrecord] at hread
    cases hread
  | ok a =>
    rw [hrecord] at hread
    exact ⟨a, rfl, (Except.ok.inj hread).symm⟩

/-- Reading a part of the settings keeps all that they have readable. -/
theorem Admitted.read {f : Setting Settings} (hf : f ∈ schema) {s s' : Settings} {v : Value}
    (hs : s.Admitted) (hread : f.read s v = .ok s') : s'.Admitted := by
  simp only [schema, List.mem_cons, List.not_mem_nil, or_false] at hf
  rcases hf with rfl | rfl | rfl
  · obtain ⟨a, ha, rfl⟩ := read_part hread
    exact { hs with api := ApiSettings.lawful_schema.admits_of_readRecord ha }
  · obtain ⟨a, ha, rfl⟩ := read_part hread
    exact { hs with timing := TimingSettings.lawful_schema.admits_of_readRecord ha }
  · obtain ⟨a, ha, rfl⟩ := read_part hread
    exact { hs with logging := LoggingSettings.lawful_schema.admits_of_readRecord ha }

/-- Whatever a document sets could have been read. -/
theorem admitted_of_parse {text : String} {s : Settings} (h : parse text = .ok s) :
    s.Admitted := by
  unfold parse at h
  split at h
  · cases h
  · exact Setting.readMembers_keeps (fun f hf _ _ _ _ hs hread ↦ hs.read hf hread) admitted_standard h

theorem admitted_of_load {view : FileView} {path : FilePath} {s : Settings}
    (h : load view path = .ok s) : s.Admitted := by
  unfold load at h
  split at h
  · cases h
  split at h
  · cases h
  next hparse =>
    cases h
    exact admitted_of_parse hparse

/-- The later layers set only texts and a truth value. -/
theorem Admitted.layers {s : Settings} (hs : s.Admitted) (env : Environment) (o : Overrides) :
    ((s.withEnvironment env).withOverrides o).Admitted where
  api := by
    have htimeout := hs.api _ (.tail _ (.tail _ (.head _)))
    simp only [ApiSettings.schema, List.forall_mem_cons]
    exact ⟨Setting.admits_text _ _ _ _, Setting.admits_optionalText _ _ _ _, htimeout.congr rfl,
      List.forall_mem_nil _⟩
  timing := hs.timing
  logging := by
    simp only [LoggingSettings.schema, List.forall_mem_cons]
    exact ⟨Setting.admits_text _ _ _ _, Setting.admits_switch _ _ _ _,
      Setting.admits_optionalText _ _ _ _, List.forall_mem_nil _⟩

/-- All names in the saved document are bare keys. -/
theorem isWritable_tables (s : Settings) : ∀ t ∈ s.tables, IsWritable t := by
  have hapi := ApiSettings.lawful_schema.isWritable s.api (by decide : IsBare "api") (by decide)
  have htiming :=
    TimingSettings.lawful_schema.isWritable s.timing (by decide : IsBare "timing") (by decide)
  have hlogging :=
    LoggingSettings.lawful_schema.isWritable s.logging (by decide : IsBare "logging") (by decide)
  simp only [tables, List.forall_mem_cons]
  exact ⟨hapi, htiming, hlogging, nofun⟩

theorem sorted_writtenTables (s : Settings) : (writtenTables s.tables).sorted = [
    ("api", .table .header (written (Setting.writeRecord ApiSettings.schema s.api))),
    ("logging", .table .header (written (Setting.writeRecord LoggingSettings.schema s.logging))),
    ("timing", .table .header (written (Setting.writeRecord TimingSettings.schema s.timing)))] := by
  simp [writtenTables, tables, Members.sorted, List.mergeSort, List.MergeSort.Internal.splitInTwo]

/-- Settings that could have been read are read back from the document that they are written as. -/
theorem Admitted.parse_text {s : Settings} (hs : s.Admitted) : parse s.text = .ok s := by
  have hnames : (s.tables.map (·.1)).Nodup := by
    change ["api", "timing", "logging"].Nodup
    decide
  have hdocument := parse?_document (isWritable_tables s) hnames
  have hapi := ApiSettings.lawful_schema.readRecord_writeRecord hs.api
  have htiming := TimingSettings.lawful_schema.readRecord_writeRecord hs.timing
  have hlogging := LoggingSettings.lawful_schema.readRecord_writeRecord hs.logging
  simp [parse, text, hdocument, sorted_writtenTables, Setting.readMembers, schema, part, hapi,
    htiming, hlogging, Except.map]

/-- What was read from any file, with any environment and any command line on top, is read back
from the document that it is saved as. -/
theorem saved_settings_read_back {toml : String} {s : Settings} (h : parse toml = .ok s)
    (env : Environment) (o : Overrides) :
    parse ((s.withEnvironment env).withOverrides o).text =
      .ok ((s.withEnvironment env).withOverrides o) := by
  have hs := admitted_of_parse h
  exact (hs.layers env o).parse_text

/-- The largest number that a file may say, a token that no form holds without an escape, and an
address of nothing. -/
theorem odd_settings_read_back :
    let s : Settings :=
      { standard with api := { standard.api with requestTimeout := 18446744073709551615 } }
    let saved := (s.withEnvironment [(Environment.token, "it's\r\n\"\"\"\\")]).withOverrides
      { Overrides.none with apiUrl := some "" }
    parse "[api]\nrequest_timeout_secs = 18446744073709551615" = .ok s ∧
      parse saved.text = .ok saved :=
  have h : parse "[api]\nrequest_timeout_secs = 18446744073709551615" = .ok
      { standard with api := { standard.api with requestTimeout := 18446744073709551615 } } := by
    decide +kernel
  ⟨h, saved_settings_read_back h _ _⟩

/-- The settings that count are read back, with a file or without one. -/
theorem resolved_settings_read_back {view : FileView} {user : Option FilePath} {env : Environment}
    {cwd : FilePath} {o : Overrides} {s : Settings} {path : Option FilePath}
    (h : resolveIn view user env cwd o = .ok (s, path)) : parse s.text = .ok s := by
  simp only [resolveIn] at h
  cases hpath : discover? view user cwd o.configPath with
  | none =>
    rw [hpath] at h
    cases h
    exact (admitted_standard.layers env o).parse_text
  | some file =>
    rw [hpath] at h
    cases hload : load view file with
    | error e =>
      simp only [hload] at h
      cases h
    | ok loaded =>
      simp only [hload] at h
      cases h
      exact ((admitted_of_load hload).layers env o).parse_text

end Settings

end JobWatch

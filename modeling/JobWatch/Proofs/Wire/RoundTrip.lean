import JobWatch.Proofs.Json.RoundTrip
import JobWatch.Proofs.Time.RoundTrip
import JobWatch.Wire.Codec

/-!
# Messages are read back

A message is lawful when it is read back from its JSON form (`LawfulWire`). The parts of a message
are: what is held in a string is, because a text, a name and a point in time are read back, and a
record is if its fields are, because it is written with every field under its name. What may be
absent is written as `null`, which is no form of what is present (`PresentWire`).

The reading takes much that is never written, and what it takes it brings to a message; so what is
written of that message is the one form that it settles on.
-/

namespace JobWatch

open Json Wire

/-! ## Parts -/

/-- Messages that are read back from their JSON forms, which hold no numbers. -/
class LawfulWire (α : Type) [Wire α] : Prop where
  decode?_encode (a : α) : decode? (encode a) = some a
  isWordy_encode (a : α) : (encode a).IsWordy

/-- Messages whose JSON form is never `null`. -/
class PresentWire (α : Type) [Wire α] : Prop where
  encode_ne_null (a : α) : encode a ≠ .null

attribute [simp] LawfulWire.decode?_encode

instance : LawfulWire String := ⟨fun _ ↦ rfl, isWordy_text⟩

instance : PresentWire String := ⟨fun _ ↦ nofun⟩

instance : LawfulWire Bool := ⟨fun _ ↦ rfl, isWordy_bool⟩

instance : LawfulWire Timestamp where
  decode?_encode t := by
    change (some (String.ofList t.text)).bind (fun s ↦ Timestamp.parse? s.toList) = some t
    rw [Option.bind_some, String.toList_ofList, Timestamp.parse?_text]
  isWordy_encode _ := isWordy_text _

instance : PresentWire Timestamp := ⟨fun _ ↦ nofun⟩

instance : LawfulWire JobStatus where
  decode?_encode s := congrArg some (JobStatus.ofNameOrUnknown_name s)
  isWordy_encode _ := isWordy_text _

instance : LawfulWire LogSource := ⟨LogSource.ofName?_name, fun _ ↦ isWordy_text _⟩

section Containers

variable {α : Type} [Wire α] [LawfulWire α]

instance [PresentWire α] : LawfulWire (Option α) where
  decode?_encode
    | none => rfl
    | some a => by
      change nullable decode? (encode a) = some (some a)
      have hne := PresentWire.encode_ne_null a
      unfold nullable
      split
      next heq => exact absurd heq hne
      next => rw [LawfulWire.decode?_encode, Option.map_some]
  isWordy_encode
    | none => isWordy_null
    | some a => LawfulWire.isWordy_encode a

instance : LawfulWire (List α) where
  decode?_encode as := by
    change (as.map encode).mapM decode? = some as
    induction as with
    | nil => rfl
    | cons a as ih => simp [ih]
  isWordy_encode as := isWordy_array fun v hv ↦ by
    obtain ⟨a, -, rfl⟩ := List.mem_map.1 hv
    exact LawfulWire.isWordy_encode a

end Containers

/-! ## Records -/

/-- The members of a record that are all known, each once, are its fields. -/
theorem Json.knownMembers?_map {names : List String} {ms : List (String × Json)}
    (hknown : ∀ m ∈ ms, m.1 ∈ names) (honce : (ms.map (·.1)).Nodup) :
    knownMembers? names (ms.map fun (k, v) ↦ (some k, v)) = some ms := by
  induction ms with
  | nil => rfl
  | cons m ms ih =>
    obtain ⟨hm, hms⟩ := List.forall_mem_cons.1 hknown
    obtain ⟨hnew, hrest⟩ := List.nodup_cons.1 honce
    have hfound : ms.any (·.1 == m.1) = false := by
      rw [List.any_eq_false]
      intro x hx heq
      exact hnew (List.mem_map.2 ⟨x, hx, eq_of_beq heq⟩)
    simp [knownMembers?, ih hms hrest, hm, hfound]

/-- A record that is written with its fields in order is read with them. -/
theorem Json.fields?_ofMembers (names : List String) {ms : List (String × Json)}
    (honce : names.Nodup) (hnames : ms.map (·.1) = names) :
    (ofMembers ms).fields? names = some ms := by
  subst hnames
  exact knownMembers?_map (fun _ hm ↦ List.mem_map_of_mem hm) honce

namespace Json.Fields

variable {α : Type} [Wire α] [LawfulWire α] {fs : Fields} {name : String} {a : α}

/-- A field that was written is read back. -/
theorem required_encode (h : fs.find? name = some (encode a)) :
    fs.required name decode? = some a := by
  rw [required, h, Option.bind_some, LawfulWire.decode?_encode]

theorem withDefault_encode {default : α} (h : fs.find? name = some (encode a)) :
    fs.withDefault name default decode? = some a := by
  rw [withDefault, h]
  exact LawfulWire.decode?_encode a

end Json.Fields

instance : LawfulWire StatusResponse where
  decode?_encode r := by
    change (Json.fields? StatusResponse.fieldNames (ofMembers _)).bind _ = some r
    rw [fields?_ofMembers StatusResponse.fieldNames (by decide) rfl, Option.bind_some,
      Fields.required_encode (a := r.status) rfl,
      Fields.withDefault_encode (a := r.stageLabel) rfl,
      Fields.withDefault_encode (a := r.previewUrl) rfl,
      Fields.withDefault_encode (a := r.buildVersion) rfl,
      Fields.withDefault_encode (a := r.errorMessage) rfl,
      Fields.withDefault_encode (a := r.debugId) rfl,
      Fields.withDefault_encode (a := r.sandboxExpiresAt) rfl,
      Fields.withDefault_encode (a := r.sandboxPaused) rfl]
    rfl
  isWordy_encode r := isWordy_ofMembers (by simp [LawfulWire.isWordy_encode])

instance : LawfulWire LogLine where
  decode?_encode r := by
    change (Json.fields? LogLine.fieldNames (ofMembers _)).bind _ = some r
    rw [fields?_ofMembers LogLine.fieldNames (by decide) rfl, Option.bind_some,
      Fields.required_encode (a := r.id) rfl,
      Fields.required_encode (a := r.timestamp) rfl,
      Fields.required_encode (a := r.source) rfl,
      Fields.required_encode (a := r.text) rfl,
      Fields.withDefault_encode (a := r.phase) rfl]
    rfl
  isWordy_encode r := isWordy_ofMembers (by simp [LawfulWire.isWordy_encode])

instance : LawfulWire LogsPage where
  decode?_encode r := by
    change (Json.fields? LogsPage.fieldNames (ofMembers _)).bind _ = some r
    rw [fields?_ofMembers LogsPage.fieldNames (by decide) rfl, Option.bind_some,
      Fields.withDefault_encode (a := r.lines) rfl,
      Fields.withDefault_encode (a := r.hasMore) rfl,
      Fields.withDefault_encode (a := r.oldestId) rfl]
    rfl
  isWordy_encode r := isWordy_ofMembers (by simp [LawfulWire.isWordy_encode])

instance : LawfulWire PreviewCheck where
  decode?_encode r := by
    change (Json.fields? PreviewCheck.fieldNames (ofMembers _)).bind _ = some r
    rw [fields?_ofMembers PreviewCheck.fieldNames (by decide) rfl, Option.bind_some,
      Fields.required_encode (a := r.embeddable) rfl,
      Fields.withDefault_encode (a := r.previewUrl) rfl,
      Fields.withDefault_encode (a := r.reason) rfl]
    rfl
  isWordy_encode r := isWordy_ofMembers (by simp [LawfulWire.isWordy_encode])

instance : LawfulWire ResumeResponse where
  decode?_encode r := by
    change (Json.fields? ResumeResponse.fieldNames (ofMembers _)).bind _ = some r
    rw [fields?_ofMembers ResumeResponse.fieldNames (by decide) rfl, Option.bind_some,
      Fields.required_encode (a := r.previewUrl) rfl,
      Fields.withDefault_encode (a := r.sandboxId) rfl]
    rfl
  isWordy_encode r := isWordy_ofMembers (by simp [LawfulWire.isWordy_encode])

/-! ## Messages -/

/-- The octets that are written of a message. -/
def Wire.octets {α : Type} [Wire α] (a : α) : List UInt8 := Text.Utf8.encode (text a).toList

/-- A lawful message is read back from the octets that are written of it. -/
theorem Wire.ofOctets?_octets {α : Type} [Wire α] [LawfulWire α] (a : α) :
    ofOctets? (octets a) = some a := by
  rw [ofOctets?, octets, text, Json.ofOctets?_render (LawfulWire.isWordy_encode a),
    Option.bind_some, LawfulWire.decode?_encode]

/-- Every message of a type is read back from what is written of it. And whatever octets a message
was read from, what is written of it then is read as the same message, and is all that is ever
written of that. -/
structure Wire.RoundTrips (α : Type) [Wire α] : Prop where
  value (a : α) : ofOctets? (octets a) = some a
  body (bytes : List UInt8) (a : α) : ofOctets? bytes = some a →
    ∃ b : α, ofOctets? (octets a) = some b ∧ b = a ∧ octets b = octets a

/-- Every lawful message survives being written and read, as a value and as the body of an answer.
-/
theorem Wire.roundTrips (α : Type) [Wire α] [LawfulWire α] : RoundTrips α where
  value := ofOctets?_octets
  body _ a _ := ⟨a, ofOctets?_octets a, rfl, rfl⟩

/-- The messages of the backend are read back: the status of a job, a line of its log, a page of
lines, and the answers about the preview. -/
theorem Wire.messages_round_trip :
    RoundTrips StatusResponse ∧ RoundTrips LogLine ∧ RoundTrips LogsPage ∧
      RoundTrips PreviewCheck ∧ RoundTrips ResumeResponse :=
  ⟨roundTrips _, roundTrips _, roundTrips _, roundTrips _, roundTrips _⟩

/-- A line that comes as an array, in a leap second of another zone, settles on its one form. -/
example :
    let body := "[\"a\", \"2016-12-31 18:59:60.5-05:00\", \"stdout\", \"\\u0001\\/\"]".toUTF8.toList
    (Wire.ofOctets? body : Option LogLine).map Wire.text =
      some ("\x7b\"id\":\"a\",\"timestamp\":\"2016-12-31T23:59:60.500Z\",\"source\":\"stdout\"," ++
        "\"text\":\"\\u0001/\",\"phase\":null\x7d") := by
  decide +kernel

end JobWatch

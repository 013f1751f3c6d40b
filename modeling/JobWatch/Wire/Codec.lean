import JobWatch.Json.Record
import JobWatch.Json.Printer
import JobWatch.Time.Parser
import JobWatch.Time.Printer
import JobWatch.Wire.Messages

/-!
# Messages as JSON

Each message has an encoding, which writes every field in order, and a decoding, which also accepts
the array form, missing optional fields and members of other names.
-/

namespace JobWatch

/-- A type with a JSON form. -/
class Wire (α : Type) where
  encode : α → Json
  decode? : Json → Option α

namespace Wire

def ofOctets? {α : Type} [Wire α] (bytes : List UInt8) : Option α :=
  (Json.ofOctets? bytes).bind decode?

def ofString? {α : Type} [Wire α] (s : String) : Option α := (Json.parse? s).bind decode?

def text {α : Type} [Wire α] (a : α) : String := (encode a).render

end Wire

open Json Wire

instance : Wire String := ⟨Json.text, Json.text?⟩

instance : Wire Bool := ⟨Json.bool, Json.bool?⟩

instance {α : Type} [Wire α] : Wire (Option α) := ⟨Json.ofOption encode, nullable decode?⟩

instance {α : Type} [Wire α] : Wire (List α) := ⟨fun as => .array (as.map encode), list? decode?⟩

instance : Wire Timestamp where
  encode t := Json.text (String.ofList t.text)
  decode? j := j.text?.bind fun s => Timestamp.parse? s.toList

instance : Wire JobStatus where
  encode s := Json.text s.name
  decode? j := j.constant?.map JobStatus.ofNameOrUnknown

instance : Wire LogSource where
  encode s := Json.text s.name
  decode? j := j.constant?.bind LogSource.ofName?

instance : Wire DoneStatus where
  encode s := Json.text s.name
  decode? j := j.constant?.bind DoneStatus.ofName?

namespace StatusResponse

def fieldNames : List String :=
  ["status", "stage_label", "preview_url", "build_version", "error_message", "debug_id",
    "sandbox_expires_at", "sandbox_paused"]

instance : Wire StatusResponse where
  encode r := .ofMembers
    [("status", encode r.status), ("stage_label", encode r.stageLabel),
      ("preview_url", encode r.previewUrl), ("build_version", encode r.buildVersion),
      ("error_message", encode r.errorMessage), ("debug_id", encode r.debugId),
      ("sandbox_expires_at", encode r.sandboxExpiresAt),
      ("sandbox_paused", encode r.sandboxPaused)]
  decode? j := do
    let fs ← j.fields? fieldNames
    return {
      status := ← fs.required "status" decode?
      stageLabel := ← fs.withDefault "stage_label" "" decode?
      previewUrl := ← fs.withDefault "preview_url" none decode?
      buildVersion := ← fs.withDefault "build_version" none decode?
      errorMessage := ← fs.withDefault "error_message" none decode?
      debugId := ← fs.withDefault "debug_id" none decode?
      sandboxExpiresAt := ← fs.withDefault "sandbox_expires_at" none decode?
      sandboxPaused := ← fs.withDefault "sandbox_paused" false decode? }

end StatusResponse

namespace LogLine

def fieldNames : List String := ["id", "timestamp", "source", "text", "phase"]

instance : Wire LogLine where
  encode l := .ofMembers
    [("id", encode l.id), ("timestamp", encode l.timestamp), ("source", encode l.source),
      ("text", encode l.text), ("phase", encode l.phase)]
  decode? j := do
    let fs ← j.fields? fieldNames
    return {
      id := ← fs.required "id" decode?
      timestamp := ← fs.required "timestamp" decode?
      source := ← fs.required "source" decode?
      text := ← fs.required "text" decode?
      phase := ← fs.withDefault "phase" none decode? }

end LogLine

namespace LogsPage

def fieldNames : List String := ["lines", "has_more", "oldest_id"]

instance : Wire LogsPage where
  encode p := .ofMembers
    [("lines", encode p.lines), ("has_more", encode p.hasMore), ("oldest_id", encode p.oldestId)]
  decode? j := do
    let fs ← j.fields? fieldNames
    return {
      lines := ← fs.withDefault "lines" [] decode?
      hasMore := ← fs.withDefault "has_more" false decode?
      oldestId := ← fs.withDefault "oldest_id" none decode? }

end LogsPage

namespace PreviewCheck

def fieldNames : List String := ["embeddable", "preview_url", "reason"]

instance : Wire PreviewCheck where
  encode c := .ofMembers
    [("embeddable", encode c.embeddable), ("preview_url", encode c.previewUrl),
      ("reason", encode c.reason)]
  decode? j := do
    let fs ← j.fields? fieldNames
    return {
      embeddable := ← fs.required "embeddable" decode?
      previewUrl := ← fs.withDefault "preview_url" "" decode?
      reason := ← fs.withDefault "reason" none decode? }

end PreviewCheck

namespace ResumeResponse

def fieldNames : List String := ["preview_url", "sandbox_id"]

instance : Wire ResumeResponse where
  encode r := .ofMembers [("preview_url", encode r.previewUrl), ("sandbox_id", encode r.sandboxId)]
  decode? j := do
    let fs ← j.fields? fieldNames
    return {
      previewUrl := ← fs.required "preview_url" decode?
      sandboxId := ← fs.withDefault "sandbox_id" none decode? }

end ResumeResponse

end JobWatch

import JobWatch.Settings.Basic
import JobWatch.Toml.Parser
import JobWatch.Toml.Printer

/-!
# Settings as a document

A document has a table for each part of the settings, and a key for each setting; what is missing
keeps its standard value, and what is not known is an error. A table may also be given as an array
of values in the order of its keys. Keys are looked at in the order of their names, so that of
several errors the first in that order is reported.
-/

namespace JobWatch

/-- Why a document holds no settings. -/
inductive SettingsError where
  /-- It is no TOML. -/
  | malformed
  /-- It has a key that is not known. -/
  | unknownField (name : String) (known : List String)
  /-- It has a value of the wrong kind or out of range. -/
  | unfit
deriving DecidableEq, Repr

namespace SettingsError

/-- What is said of an unknown key. -/
def detail? : SettingsError → Option String
  | unknownField name known =>
    let quoted (k : String) := "`" ++ k ++ "`"
    some ("unknown field " ++ quoted name ++ ", expected one of " ++
      ", ".intercalate (known.map quoted))
  | _ => none

end SettingsError

/-- A named part of a record: how it is set from a value, and what it is written as, if it is
written. -/
structure Setting (α : Type) where
  name : String
  read : α → Toml.Value → Except SettingsError α
  write : α → Option Toml.Literal

namespace Setting

variable {α : Type}

def text (name : String) (get : α → String) (set : α → String → α) : Setting α where
  name := name
  read a
    | .string s => .ok (set a s)
    | _ => .error .unfit
  write a := some (.string (get a))

/-- A text that may be missing. -/
def optionalText (name : String) (get : α → Option String) (set : α → String → α) : Setting α where
  name := name
  read a
    | .string s => .ok (set a s)
    | _ => .error .unfit
  write a := (get a).map .string

/-- A number between two bounds. -/
def number (name : String) (least most : Int) (get : α → Int) (set : α → Int → α) : Setting α where
  name := name
  read a
    | .integer n => if least ≤ n ∧ n ≤ most then .ok (set a n) else .error .unfit
    | _ => .error .unfit
  write a := some (.integer (get a))

def switch (name : String) (get : α → Bool) (set : α → Bool → α) : Setting α where
  name := name
  read a
    | .boolean b => .ok (set a b)
    | _ => .error .unfit
  write a := some (.boolean (get a))

/-- The key by which a time that is written out passes for a table. -/
def timeKey : String := "$__toml_private_datetime"

/-- Sets what the members of a table say, in order. -/
def readMembers (fields : List (Setting α)) (a : α) : Toml.Members → Except SettingsError α
  | [] => .ok a
  | (k, v) :: ms =>
    match fields.find? (·.name == k) with
    | none => .error (.unknownField k (fields.map (·.name)))
    | some f =>
      match f.read a v with
      | .ok a => readMembers fields a ms
      | .error e => .error e

/-- Sets what the items of an array say, each for the field in its place. -/
def readItems (a : α) : List (Setting α) → List Toml.Value → Except SettingsError α
  | f :: fs, v :: vs =>
    match f.read a v with
    | .ok a => readItems a fs vs
    | .error e => .error e
  | _, _ => .ok a

/-- Sets what a value says of a record. -/
def readRecord (fields : List (Setting α)) (a : α) : Toml.Value → Except SettingsError α
  | .table _ ms => readMembers fields a (Toml.Members.sorted ms)
  | .array vs => readItems a fields vs
  | .tables elements => readItems a fields (elements.reverse.map (.table .header))
  | .time => .error (.unknownField timeKey (fields.map (·.name)))
  | _ => .error .unfit

/-- The members that a record is written as. -/
def writeRecord (fields : List (Setting α)) (a : α) : List (String × Toml.Literal) :=
  fields.filterMap fun f => (f.write a).map fun l => (f.name, l)

end Setting

def maxWord : Int := 18446744073709551615

def maxHalfWord : Int := 4294967295

/-- A count, of at most the given size. -/
def Setting.count {α : Type} (name : String) (most : Int) (get : α → Nat) (set : α → Nat → α) :
    Setting α :=
  .number name 0 most (fun a => get a) fun a n => set a n.toNat

def ApiSettings.schema : List (Setting ApiSettings) := [
  .text "base_url" (·.baseUrl) fun a s => { a with baseUrl := s },
  .optionalText "token" (·.token) fun a s => { a with token := some s },
  .count "request_timeout_secs" maxWord (·.requestTimeout) fun a n => { a with requestTimeout := n }]

def TimingSettings.schema : List (Setting TimingSettings) := [
  .count "poll_interval_secs" maxWord (·.pollInterval) fun a n => { a with pollInterval := n },
  .count "failure_threshold" maxHalfWord (·.failureThreshold) fun a n =>
    { a with failureThreshold := n },
  .count "load_timeout_secs" maxWord (·.loadTimeout) fun a n => { a with loadTimeout := n },
  .count "countdown_tick_secs" maxWord (·.countdownTick) fun a n => { a with countdownTick := n },
  .number "expiry_warning_secs" (-9223372036854775808) 9223372036854775807 (·.expiryWarning) fun a n =>
    { a with expiryWarning := n },
  .count "resume_backoff_secs" maxWord (·.resumeBackoff) fun a n => { a with resumeBackoff := n },
  .count "resume_max_attempts" maxHalfWord (·.resumeMaxAttempts) fun a n =>
    { a with resumeMaxAttempts := n },
  .count "backfill_limit" maxWord (·.backfillLimit) fun a n => { a with backfillLimit := n }]

def LoggingSettings.schema : List (Setting LoggingSettings) := [
  .text "level" (·.level) fun a s => { a with level := s },
  .switch "json" (·.json) fun a b => { a with json := b },
  .optionalText "file" (·.file) fun a s => { a with file := some s }]

namespace Settings

/-- A part of the settings, as a part of the document. -/
def part {α : Type} (name : String) (fields : List (Setting α)) (fresh : α)
    (set : Settings → α → Settings) : Setting Settings where
  name := name
  read s v := (Setting.readRecord fields fresh v).map (set s)
  write _ := none

/-- The parts of the settings. -/
def schema : List (Setting Settings) := [
  part "api" ApiSettings.schema .standard fun s a => { s with api := a },
  part "timing" TimingSettings.schema .standard fun s a => { s with timing := a },
  part "logging" LoggingSettings.schema .standard fun s a => { s with logging := a }]

/-- The settings that a document holds. -/
def parse (text : String) : Except SettingsError Settings :=
  match Toml.parse? text with
  | none => .error .malformed
  | some ms => Setting.readMembers schema standard (Toml.Members.sorted ms)

/-- The tables that settings are written as. -/
def tables (s : Settings) : List (String × List (String × Toml.Literal)) := [
  ("api", Setting.writeRecord ApiSettings.schema s.api),
  ("timing", Setting.writeRecord TimingSettings.schema s.timing),
  ("logging", Setting.writeRecord LoggingSettings.schema s.logging)]

def text (s : Settings) : String := String.ofList (Toml.document s.tables)

end Settings

end JobWatch

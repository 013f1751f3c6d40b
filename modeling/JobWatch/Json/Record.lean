import JobWatch.Json.Parser

/-!
# Records

Reading a value of known fields from JSON. The fields come as an object, in any order, or as an
array in the order of the record. Members of other names are not looked at, but a known field may
come only once; an array may stop early and may not be longer than the record. What a missing field
means is up to the reader of the record.
-/

namespace JobWatch.Json

/-- The values of the given fields, `none` for one that is missing. -/
abbrev Fields := List (String × Json)

/-- The members whose names are among the known ones, when every name is a text and no known one is
repeated. -/
def knownMembers? (names : List String) : List (Option String × Json) → Option Fields
  | [] => some []
  | (none, _) :: _ => none
  | (some k, v) :: ms => do
    let found ← knownMembers? names ms
    if names.contains k then
      if found.any (·.1 == k) then none else some ((k, v) :: found)
    else some found

def fields? (names : List String) : Json → Option Fields
  | .object ms => knownMembers? names ms
  | .array vs => if vs.length ≤ names.length then some (names.zip vs) else none
  | _ => none

namespace Fields

def find? (fs : Fields) (name : String) : Option Json := fs.lookup name

/-- A field that must be there. -/
def required {α : Type} (fs : Fields) (name : String) (read : Json → Option α) : Option α :=
  (fs.find? name).bind read

/-- A field with a value for its absence. -/
def withDefault {α : Type} (fs : Fields) (name : String) (default : α) (read : Json → Option α) :
    Option α :=
  match fs.find? name with
  | none => some default
  | some v => read v

end Fields

/-- A value that may be `null`. -/
def nullable {α : Type} (read : Json → Option α) : Json → Option (Option α)
  | .null => some none
  | v => (read v).map some

/-- The name that selects one of several constants: a string, or an object whose only member has
that name and the value `null`. -/
def constant? : Json → Option String
  | .string s => s
  | .object [(some s, .null)] => some s
  | _ => none

/-- The values of an array, each read the same way. -/
def list? {α : Type} (read : Json → Option α) : Json → Option (List α)
  | .array vs => vs.mapM read
  | _ => none

end JobWatch.Json

import JobWatch.Json.Plain
import JobWatch.Wire.Codec

/-!
# Failed requests

What can go wrong with one request to the backend, the words for it, and what a failed attempt to
resume a sandbox says about the sandbox. The backend names the kind of an error in the body of its
answer, in the member `error_type` of a JSON object.
-/

namespace JobWatch

/-- A request that failed. -/
inductive ApiError where
  /-- The exchange broke down. -/
  | network (reason : String)
  | timeout
  /-- The backend refused. -/
  | http (status : Nat) (body : Option String)
  /-- The answer is no message of the expected kind. -/
  | decode (reason : String)
  | invalidUrl (url : String)
deriving DecidableEq, Repr

namespace ApiError

def message : ApiError → String
  | network reason => "Network error: " ++ reason
  | timeout => "Request timed out"
  | http status _ => "Backend returned HTTP " ++ Text.Decimal.text status
  | decode reason => "Failed to decode response: " ++ reason
  | invalidUrl url => "Invalid request URL '" ++ url ++ "'"

/-- The status code of a refusal. -/
def status? : ApiError → Option Nat
  | http status _ => some status
  | _ => none

/-- The kind of error that the body of a refusal names. -/
def errorType? : ApiError → Option String
  | http _ (some body) => do
    let document ← Json.parsePlain? body
    let kind ← document.get? "error_type"
    kind.text?
  | _ => none

end ApiError

/-- Why a sandbox could not be resumed. -/
inductive ResumeErrorKind where
  | sandboxExpired | sandboxUnreachable
deriving DecidableEq, Repr

namespace ResumeErrorKind

def name : ResumeErrorKind → String
  | sandboxExpired => "sandbox_expired"
  | sandboxUnreachable => "sandbox_unreachable"

def ofName? (s : String) : Option ResumeErrorKind :=
  [sandboxExpired, sandboxUnreachable].find? (·.name == s)

/-- A sandbox has expired when the backend says so; after any other error it counts as out of
reach. -/
def classify (e : ApiError) : ResumeErrorKind :=
  if e.errorType? = some "sandbox_expired" then sandboxExpired else sandboxUnreachable

instance : Wire ResumeErrorKind where
  encode k := Json.text k.name
  decode? j := j.constant?.bind ofName?

end ResumeErrorKind

end JobWatch

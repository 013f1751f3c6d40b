import JobWatch.Api.Error

/-!
# Requests

The five resources of a job, the requests for them, and the answers as messages. A job id stands in
a path as it is.
-/

namespace JobWatch

/-- What can be asked of a job. -/
inductive Endpoint where
  | status | logStream | logs | previewCheck | resume
deriving DecidableEq, Repr

namespace Endpoint

def all : List Endpoint := [status, logStream, logs, previewCheck, resume]

/-- The part of the path after the job id. -/
def suffix : Endpoint → String
  | status => "/status"
  | logStream => "/logs/stream"
  | logs => "/logs"
  | previewCheck => "/preview-check"
  | resume => "/resume"

def path (e : Endpoint) (job : String) : String := "/jobs/" ++ job ++ e.suffix

def method : Endpoint → String
  | resume => "POST"
  | _ => "GET"

end Endpoint

/-- A request to the backend. -/
structure Request where
  method : String
  path : String
  /-- Query parameters, in order. -/
  query : List (String × String)
deriving DecidableEq, Repr

namespace Request

/-- The request for an endpoint, without parameters. -/
def ofEndpoint (e : Endpoint) (job : String) : Request := ⟨e.method, e.path job, []⟩

def status (job : String) : Request := ofEndpoint .status job

/-- The request for a page of at most `limit` stored lines, before the given one if there is one. -/
def logs (job : String) (before : Option String) (limit : Nat) : Request where
  method := Endpoint.logs.method
  path := Endpoint.logs.path job
  query := ("limit", Text.Decimal.text limit) :: (before.map fun id => ("before_id", id)).toList

/-- The request whether the preview can be embedded. -/
def previewCheck (job : String) : Request := ofEndpoint .previewCheck job

def resume (job : String) : Request := ofEndpoint .resume job

def logStream (job : String) : Request := ofEndpoint .logStream job

end Request

/-- The body of an answer, or why there is none. -/
abbrev Reply := Except ApiError (List UInt8)

/-- The message in an answer. -/
def Reply.read {α : Type} [Wire α] (r : Reply) : Except ApiError α :=
  r.bind fun body =>
    match Wire.ofOctets? body with
    | some a => .ok a
    | none => .error (.decode "not a message of the expected kind")

end JobWatch

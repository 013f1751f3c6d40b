import JobWatch.Session.Basic

/-!
# What a session asks of the backend

Some of what comes out of a session are requests. Each is listed here with the event that its answer
is, so that whoever carries the requests needs to know nothing else of the session.
-/

namespace JobWatch.Session.Output

/-- The request that an output is, and the event that the answer to it is. -/
def request? : Output → Option (Request × (Reply → Event))
  | .status (.fetch id job) => some (.status job, fun r => .status (.reply id r))
  | .logs (.fetchPage id job cursor limit) =>
    some (.logs job cursor limit, fun r => .logs (.page id r))
  | .preview (.request id .check job) => some (.previewCheck job, fun r => .preview (.reply id r))
  | .preview (.request id .resume job) => some (.resume job, fun r => .preview (.reply id r))
  | _ => none

/-- The number and the request of a stream that an output opens. -/
def stream? : Output → Option (Nat × Request)
  | .logs (.openStream id job) => some (id, .logStream job)
  | _ => none

/-- Whether an output tells that a state was published. -/
def isPublication : Output → Bool
  | .status (.publish _) | .logs (.publish _) | .preview (.publish _) => true
  | _ => false

/-- The seconds that remain to a sandbox, where an output warns of them. -/
def notice? : Output → Option Int
  | .preview (.notice _ remaining) => some remaining
  | _ => none

/-- What came of a request for earlier lines, where an output tells it. -/
def loaded? : Output → Option (Except ApiError Nat)
  | .logs (.loaded _ added) => some added
  | _ => none

end JobWatch.Session.Output

import JobWatch.Http.Charset
import JobWatch.Http.Client

/-!
# Heads of answers

The head of an answer says whether the request is granted and what follows. A refusal is read to its
end for the text that goes with it; what is granted is handed on part by part.
-/

namespace JobWatch.Http

/-- The head of an answer. -/
structure Head where
  status : Nat
  headers : List (String × String)
deriving DecidableEq, Repr

namespace Head

/-- The first header of a name, given in lower case. -/
def header? (h : Head) (name : String) : Option String :=
  (h.headers.find? fun entry => entry.1.map Char.toLower == name).map (·.2)

def isSuccess (h : Head) : Bool := 200 ≤ h.status && h.status < 300

/-- Whether an answer to a request of the given method has no body. -/
def isBodyless (h : Head) (method : String) : Bool :=
  method == "HEAD" || h.status < 200 || h.status == 204 || h.status == 304

/-- A refusal, with its text if that is not empty and could be read. -/
def refusal (h : Head) (body : Option (List UInt8)) : ApiError :=
  .http h.status ((body.map (bodyText (h.header? "content-type"))).filter (· ≠ ""))

end Head

/-- What is said of a body that ends too early. -/
def bodyFailed : ApiError := .network "error decoding response body"

/-- What an answer brings, part by part. -/
inductive Part where
  | opened (outcome : Except ApiError Unit)
  | chunk (bytes : List UInt8)
  /-- The body ends, or breaks down. -/
  | ended (error : Option ApiError)

def Part.octets : Part → List UInt8
  | chunk bytes => bytes
  | _ => []

/-- What a part says of the whole, if it is the last. -/
def Part.ending? : Part → Option (Except ApiError Unit)
  | opened (.error e) | ended (some e) => some (.error e)
  | ended none => some (.ok ())
  | _ => none

/-- The reply that some parts make, if the last of them is there. -/
def reply? (parts : List Part) : Option Reply :=
  (parts.findSome? Part.ending?).map fun outcome => outcome.map fun _ => parts.flatMap Part.octets

end JobWatch.Http

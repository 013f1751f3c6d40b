import JobWatch.Api.Endpoint
import JobWatch.Text.Base64
import JobWatch.Url.Parser

/-!
# Requests as they go out

A client knows where the backend is, a token that goes with every request, and how long an answer
may take. The path of a request is put after the base address as it is, and the whole is read as a
URL. A request that cannot be sent at all fails before anything is sent.
-/

namespace JobWatch.Http

/-- How the backend is reached. -/
structure Client where
  base : String
  token : Option String
  /-- The milliseconds that an answer may take. -/
  timeout : Option Nat
deriving DecidableEq, Repr

/-- A request as it goes out. -/
structure Outgoing where
  method : String
  url : Url
  accept : String
  authorization : Option String
deriving DecidableEq, Repr

def Outgoing.route (o : Outgoing) : String := o.method ++ " " ++ String.ofList o.url.target

/-- What is accepted where nothing is said. -/
def anyKind : String := "*/*"

/-- The kind of answer that is a stream of events. -/
def eventStreamKind : String := "text/event-stream"

/-! ## What can be sent -/

/-- Whether a character may stand in the value of a header. -/
def isHeaderChar (c : Char) : Bool := c == '\t' || (' ' ≤ c && c ≠ '\x7f')

/-- Whether a character may stand in the host that a request goes to. -/
def isHostChar (c : Char) : Bool :=
  ('a' ≤ c && c ≤ 'z') || ('A' ≤ c && c ≤ 'Z') || Text.Decimal.isDigit c ||
    "-._~:[]@!$&'()*+,;=".toList.contains c

/-- The most characters of a URL that requests go to. -/
def longestUrl : Nat := 65534

/-- Whether requests can go to a URL. -/
def isReachable (u : Url) : Bool :=
  (u.scheme == "http".toList || u.scheme == "https".toList) &&
    u.host.all (fun h => h.render.all isHostChar) && u.render.length ≤ longestUrl

/-- What is said of a URL that something failed at. -/
def forUrl (u : Url) : String := " for url (" ++ String.ofList u.render ++ ")"

/-- No connection was made, or it broke down before the answer. -/
def sendingFailed (u : Url) : ApiError := .network ("error sending request" ++ forUrl u)

/-- The request cannot be sent. -/
def notSendable (u : Url) : ApiError := .network ("builder error" ++ forUrl u)

/-- The header that names a user and a password. -/
def basicAuthorization (u : Url) : String :=
  let octets := Url.percentDecode u.user ++ ':'.toNat.toUInt8 :: Url.percentDecode u.password
  "Basic " ++ String.ofList (Text.Base64.encode octets)

namespace Client

/-- The text that is read as the URL of a path. -/
def address (c : Client) (path : String) : String :=
  String.ofList (Text.trimEnd (· == '/') c.base.toList) ++ path

def url? (c : Client) (path : String) : Except ApiError Url :=
  match Url.parse? (c.address path) with
  | some u => .ok u
  | none => .error (.invalidUrl (c.address path))

/-- The request as it goes out. A user in the URL goes into a header, and comes before the token. -/
def prepare (c : Client) (r : Request) (accept : String) : Except ApiError Outgoing := do
  let u ← c.url? r.path
  let sent := u.withoutCredentials.addFields r.query
  if (c.token.getD "").toList.all isHeaderChar then
    if isReachable sent then
      .ok {
        method := r.method
        url := sent
        accept := accept
        authorization :=
          if u.credentials.isEmpty then c.token.map ("Bearer " ++ ·)
          else some (basicAuthorization u) }
    else .error (notSendable sent)
  else .error (.network "builder error")

end Client

end JobWatch.Http

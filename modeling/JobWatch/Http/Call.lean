import JobWatch.Http.Reception
import JobWatch.Http.Redirect

/-!
# Calls

A call is a request under way over connections that carry one exchange each. What is heard on a
connection comes in as octets; what goes out is a new connection, when the request is sent on to
another place, or a part of the answer.
-/

namespace JobWatch.Http

def Outgoing.octets (o : Outgoing) (agent : String) : List UInt8 :=
  let host := ((o.url.host.map Url.Host.render).getD []) ++
    (o.url.port.map fun p => ':' :: Text.Decimal.digits p).getD []
  let fields := [("Host", String.ofList host), ("Accept", o.accept), ("User-Agent", agent),
    ("Connection", "close")] ++
    (o.authorization.map fun a => ("Authorization", a)).toList ++
    (if o.method == "GET" || o.method == "HEAD" then [] else [("Content-Length", "0")])
  let lines := (o.route ++ " HTTP/1.1") :: fields.map fun (name, value) => name ++ ": " ++ value
  Text.Utf8.encode ((lines.map (· ++ "\x0d\n")).foldr (· ++ ·) "\x0d\n").toList

/-- A request under way. -/
structure Call where
  /-- The request as it was last sent. -/
  outgoing : Outgoing
  /-- What authorized the request at first. -/
  authorization : Option String
  redirectsLeft : Nat
  reception : Reception
  /-- The head of the answer, once it is there. -/
  head : Option Head
  /-- What came of the body of a refusal, last octet first. -/
  refused : List UInt8
  /-- Whether the last part has come. -/
  done : Bool

namespace Call

/-- What comes out of a call. -/
inductive Output where
  /-- The request goes out on a new connection, and the one before is given up. -/
  | connect (o : Outgoing)
  | part (p : Part)

def start (c : Client) (r : Request) (accept : String) : Except ApiError Call :=
  (c.prepare r accept).map fun o => ⟨o, o.authorization, mostRedirects, .start, none, [], false⟩

def finish (c : Call) (p : Part) : Call × List Output := ({ c with done := true }, [.part p])

/-- What something read on the connection comes to. -/
def take (c : Call) : Received → Call × List Output
  | .head h =>
    let c := { c with head := some h }
    match c.redirectsLeft,
        redirect c.authorization c.redirectsLeft c.outgoing h.status (h.header? "location") with
    | left + 1, .follow next =>
      ({ c with outgoing := next, redirectsLeft := left, reception := .start, head := none },
        [.connect next])
    | _, .failed e => c.finish (.opened (.error e))
    | _, _ => (c, if h.isSuccess then [.part (.opened (.ok ()))] else [])
  | .octet o =>
    if c.head.any (·.isSuccess) then (c, [.part (.chunk [o])])
    else ({ c with refused := o :: c.refused }, [])
  | .ended complete =>
    match c.head with
    | none => c.finish (.opened (.error (sendingFailed c.outgoing.url)))
    | some h =>
      if h.isSuccess then c.finish (.ended (if complete then none else some bodyFailed))
      else c.finish (.opened (.error (h.refusal (if complete then some c.refused.reverse else none))))

/-- What several things read in a row come to. Nothing more is read on a connection that was given
up, and nothing after the last part. -/
def takeAll (c : Call) : List Received → Call × List Output
  | [] => (c, [])
  | r :: rest =>
    if c.done then (c, [])
    else
      let (c, out) := c.take r
      if out.any (fun | .connect _ => true | .part _ => false) then (c, out)
      else
        let (c, more) := takeAll c rest
        (c, out ++ more)

/-- Chunks in a row, as one. -/
def joinChunks : List Output → List Output
  | [] => []
  | .part (.chunk bytes) :: rest =>
    match joinChunks rest with
    | .part (.chunk more) :: rest => .part (.chunk (bytes ++ more)) :: rest
    | rest => .part (.chunk bytes) :: rest
  | out :: rest => out :: joinChunks rest

/-- What octets on the connection come to. -/
def hear (c : Call) (bytes : List UInt8) : Call × List Output :=
  let (reception, received) := c.reception.read c.outgoing.method bytes
  let (c, out) := { c with reception := reception }.takeAll received
  (c, joinChunks out)

/-- What the end of the connection comes to. -/
def close (c : Call) : Call × List Output := c.takeAll c.reception.close

/-- What a connection that fails comes to. -/
def fail (c : Call) : Call × List Output := c.takeAll [.ended false]

/-- What comes of a call that takes too long. -/
def late (c : Call) : Call × List Output :=
  let e : ApiError := match c.head with
    | some h => if h.isSuccess then .timeout else h.refusal none
    | none => .timeout
  if c.done then (c, [])
  else
    c.finish (if c.head.any (·.isSuccess) then .ended (some e) else .opened (.error e))

end Call

end JobWatch.Http

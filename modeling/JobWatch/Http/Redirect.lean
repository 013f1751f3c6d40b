import JobWatch.Http.Client

/-!
# Redirection

An answer may send its request to another place. It is followed there, at most ten times in a row.
Some of these answers turn the request into one that only reads; what authorizes a request is not
given to another host than the one before.
-/

namespace JobWatch.Http

def mostRedirects : Nat := 10

/-- What becomes of a request that was answered. -/
inductive Redirection where
  /-- The answer stands. -/
  | stay
  /-- The request goes on to another place. -/
  | follow (next : Outgoing)
  | failed (e : ApiError)
deriving DecidableEq, Repr

/-- The method with which a request goes on after an answer of the given status; nothing if that
status sends nowhere. -/
def nextMethod? (status : Nat) (method : String) : Option String :=
  if status = 301 ∨ status = 302 then some (if method = "POST" then "GET" else method)
  else if status = 303 then some (if method = "HEAD" then method else "GET")
  else if status = 307 ∨ status = 308 then some method
  else none

/-- Whether a text can be a reference to a place: nothing in it has to be encoded. -/
def isReference : List Char → Bool
  | [] => true
  | '%' :: a :: b :: rest => (Text.Hex.value? a).isSome && (Text.Hex.value? b).isSome &&
      isReference rest
  | c :: rest => c ≠ '%' && (isHostChar c || c == '/' || c == '?' || c == '#') && isReference rest

def sameHost (u v : Url) : Bool :=
  u.host == v.host && (u.port.or (Url.usualPort? u.scheme)) == (v.port.or (Url.usualPort? v.scheme))

/-- Where an answer of the given status, with the given location, sends a request that carries the
given authorization at first. -/
def redirect (authorization : Option String) (redirectsLeft : Nat) (o : Outgoing) (status : Nat)
    (location : Option String) : Redirection :=
  match nextMethod? status o.method, location with
  | some method, some place =>
    if isReference place.toList then
      match o.url.join? place with
      | none => .stay
      | some u =>
        let u := { u.withoutCredentials with fragment := none }
        if redirectsLeft = 0 then
          .failed (.network ("error following redirect" ++ forUrl { o.url with fragment := none }))
        else if isReachable u then
          .follow { o with
            method := method
            url := u
            authorization := if sameHost o.url u then authorization else none }
        else .failed (notSendable u)
    else .stay
  | _, _ => .stay

end JobWatch.Http

import JobWatch.Url.Host

/-!
# URLs

A URL by its parts, each as it is written, and its text.
-/

namespace JobWatch

namespace Url

/-- What a URL says after its host. -/
inductive Path where
  /-- Segments, each after a slash. -/
  | segments (names : List (List Char))
  /-- A text without structure. -/
  | flat (s : List Char)
deriving DecidableEq, Repr

def Path.render : Path → List Char
  | segments names => names.flatMap ('/' :: ·)
  | flat s => s

end Url

/-- A URL. -/
structure Url where
  scheme : List Char
  user : List Char
  password : List Char
  host : Option Url.Host
  /-- The port, unless it is the usual one of the scheme. -/
  port : Option Nat
  path : Url.Path
  query : Option (List Char)
  fragment : Option (List Char)
deriving DecidableEq, Repr

namespace Url

/-- The schemes of which more is known, with the usual port of each. -/
def knownSchemes : List (List Char × Option Nat) :=
  [("http".toList, some 80), ("https".toList, some 443), ("ws".toList, some 80),
    ("wss".toList, some 443), ("ftp".toList, some 21), ("file".toList, none)]

/-- Whether more is known of a scheme. -/
def isKnown (scheme : List Char) : Bool := knownSchemes.any (·.1 == scheme)

def usualPort? (scheme : List Char) : Option Nat := (knownSchemes.lookup scheme).join

def credentials (u : Url) : List Char :=
  if u.user.isEmpty && u.password.isEmpty then []
  else u.user ++ (if u.password.isEmpty then [] else ':' :: u.password) ++ ['@']

def target (u : Url) : List Char := u.path.render ++ (u.query.map ('?' :: ·)).getD []

def render (u : Url) : List Char :=
  let authority := match u.host with
    | some h => '/' :: '/' :: u.credentials ++ h.render ++
        (u.port.map fun p => ':' :: Text.Decimal.digits p).getD []
    | none =>
      match u.path with
      | .segments ([] :: _ :: _) => ['/', '.']
      | _ => []
  u.scheme ++ ':' :: authority ++ u.target ++ (u.fragment.map ('#' :: ·)).getD []

/-- The URL with more fields at the end of its query. -/
def addFields (u : Url) (fields : List (String × String)) : Url :=
  if fields.isEmpty then u
  else
    let more := formText fields
    { u with query := some (match u.query with
        | some q => if q.isEmpty then more else q ++ '&' :: more
        | none => more) }

/-- The URL without user name and password. -/
def withoutCredentials (u : Url) : Url := { u with user := [], password := [] }

end Url

end JobWatch

import JobWatch.Text.Blank
import JobWatch.Url.Basic

/-!
# Reading URLs

A text is read as a URL by the rules of the web: blanks around it and line ends in it do not count;
in the known schemes a backslash is a slash, a host is required and however many slashes lead to it;
steps to the same and to the parent directory are taken at once; what may not stand for itself is
encoded. A text without a scheme is read relative to another URL.
-/

namespace JobWatch.Url

/-- The text that counts. -/
def clean (s : List Char) : List Char :=
  (Text.trimEnd (· ≤ ' ') (s.dropWhile (· ≤ ' '))).filter fun c =>
    c ≠ '\t' && c ≠ '\n' && c ≠ '\x0d'

/-- The scheme of a text, in lower case, and what follows its colon. -/
def splitScheme? (s : List Char) : Option (List Char × List Char) :=
  let isAlpha (c : Char) : Bool := ('a' ≤ c && c ≤ 'z') || ('A' ≤ c && c ≤ 'Z')
  let isPart (c : Char) : Bool :=
    isAlpha c || Text.Decimal.isDigit c || c == '+' || c == '-' || c == '.'
  if s.head?.any isAlpha then
    match s.dropWhile isPart with
    | ':' :: rest => some ((s.takeWhile isPart).map Char.toLower, rest)
    | _ => none
  else none

def isSlash (known : Bool) (c : Char) : Bool := c == '/' || (known && c == '\\')

def endsPath (c : Char) : Bool := c == '?' || c == '#'

/-! ## Path, query and fragment -/

def slashParts (known : Bool) : List Char → List (List Char)
  | [] => [[]]
  | c :: rest =>
    if isSlash known c then [] :: slashParts known rest
    else
      match slashParts known rest with
      | [] => [[c]]
      | p :: ps => (c :: p) :: ps

/-- A segment with its encoded full stops decoded, in lower case; for comparison only. -/
def dots : List Char → List Char
  | '%' :: '2' :: 'e' :: rest | '%' :: '2' :: 'E' :: rest => '.' :: dots rest
  | c :: rest => c :: dots rest
  | [] => []

/-- Takes segments in after others, which are given last first. A step to the same directory adds
nothing and a step to the parent takes one segment off; at the end of the path, an empty segment
stands for the directory that was reached. -/
def resolve : List (List Char) → List (List Char) → List (List Char)
  | done, [] => done.reverse
  | done, s :: rest =>
    if dots s = ['.', '.'] then
      resolve (if rest.isEmpty then [] :: done.drop 1 else done.drop 1) rest
    else if dots s = ['.'] then resolve (if rest.isEmpty then [] :: done else done) rest
    else resolve (percentEncode inPathSet s :: done) rest

/-- What follows the path of a URL. -/
def withRest (u : Url) (rest : List Char) : Url :=
  let query := rest.takeWhile (· ≠ '#')
  let fragment := rest.drop query.length
  { u with
    query := match query with
      | '?' :: q => some (percentEncode (inQuerySet (isKnown u.scheme)) q)
      | _ => none
    fragment := match fragment with
      | '#' :: f => some (percentEncode inFragmentSet f)
      | _ => none }

/-- The path at the start of a text and what follows it, after segments that are given last
first. -/
def withPath (u : Url) (done : List (List Char)) (s : List Char) : Url :=
  let known := isKnown u.scheme
  let path := s.takeWhile (!endsPath ·)
  let parts := slashParts known path
  let parts := if path.head?.any (isSlash known) then parts.drop 1 else parts
  let segments :=
    if path.isEmpty && done.isEmpty && !known then [] else resolve done parts
  withRest { u with path := .segments segments } (s.drop path.length)

/-! ## Host -/

/-- The text before the last of a character, and the text after it. -/
def splitLast (c : Char) (s : List Char) : Option (List Char × List Char) :=
  let after := (s.reverse.takeWhile (· ≠ c)).reverse
  if after.length = s.length then none else some (s.take (s.length - after.length - 1), after)

/-- The host and the port, with the colon between them; a colon in brackets belongs to the host. -/
def splitPort (inBrackets : Bool) : List Char → List Char × List Char
  | [] => ([], [])
  | c :: rest =>
    if c = ':' && !inBrackets then ([], c :: rest)
    else
      let inBrackets := if c = '[' then true else if c = ']' then false else inBrackets
      let (host, port) := splitPort inBrackets rest
      (c :: host, port)

/-- The port that a text after a colon is; an empty one is the usual port. -/
def port? (scheme : List Char) (s : List Char) : Option (Option Nat) :=
  match s with
  | [] => some none
  | _ => (Text.Decimal.toNat? s).bind fun n =>
      if 65535 < n then none else some (if usualPort? scheme = some n then none else some n)

/-- A URL from its scheme and what follows the two slashes. -/
def withAuthority? (scheme s : List Char) : Option Url := do
  let known := isKnown scheme
  let authority := s.takeWhile fun c => !isSlash known c && !endsPath c
  let (user, password, address) := match splitLast '@' authority with
    | some (credentials, address) =>
      (credentials.takeWhile (· ≠ ':'), (credentials.dropWhile (· ≠ ':')).drop 1, address)
    | none => ([], [], authority)
  let (hostText, portText) := splitPort false address
  let hasCredentials := (splitLast '@' authority).isSome
  if hostText.isEmpty && (known || hasCredentials || !portText.isEmpty) then none
  else
    let host ← if hostText.isEmpty then some (Host.text []) else Host.parse? known hostText
    let port ← port? scheme (portText.drop 1)
    some (withPath
      { scheme := scheme
        user := percentEncode inUserSet user
        password := percentEncode inUserSet password
        host := some host
        port := port
        path := .segments []
        query := none
        fragment := none } [] (s.drop authority.length))

/-- A URL of a local file from what follows the colon. -/
def withFile? (s : List Char) : Option Url := do
  let scheme := "file".toList
  let u : Url := ⟨scheme, [], [], some (.text []), none, .segments [], none, none⟩
  match s with
  | a :: b :: rest =>
    if isSlash true a && isSlash true b then
      let hostText := rest.takeWhile fun c => !isSlash true c && !endsPath c
      let host ← if hostText.isEmpty then some (Host.text []) else Host.parse? true hostText
      let host := if host = .domain "localhost".toList then .text [] else host
      some (withPath { u with host := some host } [] (rest.drop hostText.length))
    else some (withPath u [] s)
  | _ => some (withPath u [] s)

/-- A URL from its scheme and what follows the colon. -/
def ofScheme? (scheme s : List Char) : Option Url :=
  if scheme = "file".toList then withFile? s
  else if isKnown scheme then withAuthority? scheme (s.dropWhile (isSlash true))
  else
    match s with
    | '/' :: '/' :: rest => withAuthority? scheme rest
    | '/' :: _ => some (withPath ⟨scheme, [], [], none, none, .segments [], none, none⟩ [] s)
    | _ =>
      let path := s.takeWhile (!endsPath ·)
      some (withRest
        ⟨scheme, [], [], none, none, .flat (percentEncode inControlSet path), none, none⟩
        (s.drop path.length))

def parse? (text : String) : Option Url :=
  (splitScheme? (clean text.toList)).bind fun (scheme, rest) => ofScheme? scheme rest

/-- The segments of a URL's path, without the last one, last first. -/
def directory (u : Url) : List (List Char) :=
  match u.path with
  | .segments names => names.reverse.drop 1
  | .flat _ => []

/-- A text without scheme, or with the scheme of the URL, read relative to the URL. -/
def relative? (u : Url) (s : List Char) : Option Url :=
  let plain := { u with query := none, fragment := none }
  match s with
  | [] => some { u with fragment := none }
  | '#' :: _ => some { withRest plain s with query := u.query }
  | '?' :: _ => some (withRest plain s)
  | a :: rest =>
    if isSlash true a then
      if rest.head?.any (isSlash true) then
        withAuthority? u.scheme (rest.dropWhile (isSlash true))
      else some (withPath plain [] s)
    else some (withPath plain u.directory s)

/-- The URL that a text is when it stands in a document at a URL of a known scheme. -/
def join? (u : Url) (text : String) : Option Url :=
  let s := clean text.toList
  match splitScheme? s with
  | none => u.relative? s
  | some (scheme, rest) =>
    if scheme = u.scheme && !(rest.take 2).all (isSlash true ·) then u.relative? rest
    else ofScheme? scheme rest

end JobWatch.Url

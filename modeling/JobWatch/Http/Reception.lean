import JobWatch.Http.Head

/-!
# Answers on the line

An answer arrives octet by octet: the lines of its head, a blank line, and a body that ends after as
many octets as the head promises, after the last of its chunks, or when the connection is closed. A
`Reception` is where the reading of an answer stands; `Reception.next` reads one octet.
-/

namespace JobWatch.Http

/-- What is read of an answer. -/
inductive Received where
  | head (h : Head)
  | octet (o : UInt8)
  /-- The body ends, in full or not. -/
  | ended (complete : Bool)
deriving DecidableEq, Repr

/-- Where the reading of an answer stands. Lines, and the characters of a line, are held last
first. -/
inductive Reception where
  /-- In the head. -/
  | head (lines : List (List Char)) (line : List Char)
  /-- In a body of which so many octets are to come. -/
  | counted (left : Nat)
  /-- In the line that gives the size of a chunk. -/
  | size (line : List Char)
  /-- In a chunk of which so many octets are to come. -/
  | chunk (left : Nat)
  /-- In the lines after the last chunk. -/
  | trailer (line : List Char)
  /-- In a body that ends with the connection. -/
  | open
  /-- After the answer. -/
  | over
  /-- After something that is no answer. -/
  | broken
deriving DecidableEq, Repr

namespace Head

/-- The status in the first line of an answer. -/
def status? (line : List Char) : Option Nat :=
  match (line.dropWhile (· ≠ ' ')).dropWhile (· == ' ') with
  | a :: b :: c :: rest =>
    if "HTTP/1.".toList.isPrefixOf line && (rest.isEmpty || rest.head? == some ' ') then
      Text.Decimal.toNat? [a, b, c]
    else none
  | _ => none

/-- The name and the value in a line of a head. -/
def entry? (line : List Char) : Option (String × String) :=
  let name := line.takeWhile (· ≠ ':')
  match line.dropWhile (· ≠ ':') with
  | ':' :: value =>
    if name.isEmpty then none
    else some (String.ofList name, String.ofList (Text.trimBlanks value))
  | _ => none

/-- The head that some lines make. -/
def ofLines? : List (List Char) → Option Head
  | [] => none
  | first :: rest => return ⟨← status? first, ← rest.mapM entry?⟩

/-- Where the reading stands once the head of the answer to a request of the given method is read. -/
def bodyStart (h : Head) (method : String) : Reception :=
  if h.isBodyless method then .over
  else if ((h.header? "transfer-encoding").map (·.map Char.toLower)) = some "chunked" then .size []
  else
    match h.header? "content-length" with
    | none => .open
    | some length =>
      match Text.Decimal.toNat? length.toList with
      | some 0 => .over
      | some n => .counted n
      | none => .broken

end Head

namespace Reception

def start : Reception := .head [] []

/-- A finished line, whose characters are held last first, without what ends it. -/
def finished : List Char → List Char
  | '\x0d' :: line => line.reverse
  | line => line.reverse

/-- After the blank line at the end of a head. The answer proper comes after the heads that only
inform. -/
def afterHead (method : String) (lines : List (List Char)) : Reception × List Received :=
  match Head.ofLines? lines.reverse with
  | none => (.broken, [.ended false])
  | some h =>
    if h.status < 200 ∧ h.status ≠ 101 then (start, [])
    else
      match h.bodyStart method with
      | .over => (.over, [.head h, .ended true])
      | .broken => (.broken, [.ended false])
      | r => (r, [.head h])

/-- After the line that gives the size of a chunk. What follows a semicolon there says nothing. -/
def afterSize (line : List Char) : Reception × List Received :=
  let digits := Text.trimBlanks (line.takeWhile (· ≠ ';'))
  match digits, Text.Hex.ofDigits? digits with
  | [], _ => (.broken, [.ended false])
  | _, some 0 => (.trailer [], [])
  | _, some n => (.chunk n, [])
  | _, none => (.broken, [.ended false])

/-- Reads one octet of the answer to a request of the given method. -/
def next (method : String) (r : Reception) (o : UInt8) : Reception × List Received :=
  let c := Char.ofNat o.toNat
  match r with
  | .head lines line =>
    if c ≠ '\n' then (.head lines (c :: line), [])
    else if (finished line).isEmpty then afterHead method lines
    else (.head (finished line :: lines) [], [])
  | .counted left =>
    if left ≤ 1 then (.over, [.octet o, .ended true]) else (.counted (left - 1), [.octet o])
  | .size line =>
    if c ≠ '\n' then (.size (c :: line), [])
    else afterSize (finished line)
  | .chunk 0 =>
    if c = '\n' then (.size [], [])
    else if c = '\x0d' then (.chunk 0, [])
    else (.broken, [.ended false])
  | .chunk (left + 1) => (.chunk left, [.octet o])
  | .trailer line =>
    if c ≠ '\n' then (.trailer (c :: line), [])
    else if (finished line).isEmpty then (.over, [.ended true])
    else (.trailer [], [])
  | .open => (.open, [.octet o])
  | .over => (.over, [])
  | .broken => (.broken, [])

def read (method : String) (r : Reception) : List UInt8 → Reception × List Received
  | [] => (r, [])
  | o :: rest =>
    let (r, received) := r.next method o
    let (r, more) := read method r rest
    (r, received ++ more)

def close : Reception → List Received
  | .open => [.ended true]
  | .over | .broken => []
  | _ => [.ended false]

end Reception

end JobWatch.Http

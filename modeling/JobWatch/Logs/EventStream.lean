import JobWatch.Text.Utf8

/-!
# Server-sent events

The framing of an event stream, one octet at a time, so that it cannot matter how the octets come in
chunks. Octets are decoded as UTF-8; after one that is malformed nothing more is read. Lines end in
LF, CR or CRLF, and a line that ends in CR is complete only with the next character. An empty line
ends an event; an event without data is dropped, and so is one that is still open at the end.
-/

namespace JobWatch.EventStream

/-- An event: its type and its data. -/
structure Event where
  type : String
  data : String
deriving DecidableEq, Repr

/-- Where the reading of a stream stands. -/
structure State where
  /-- The character that has begun. -/
  begun : Option Text.Utf8.Partial
  /-- Whether a malformed octet has ended the reading. -/
  stalled : Bool
  /-- The characters of the current line, last first. -/
  line : List Char
  /-- Whether the current line has ended in CR. -/
  afterCr : Bool
  /-- The type of the current event. -/
  type : List Char
  /-- The lines of its data, last first. -/
  data : List (List Char)
deriving DecidableEq, Repr

def State.start : State := ⟨none, false, [], false, [], []⟩

/-- The name and the value of a field; a space after the colon is no part of the value. -/
def splitField (line : List Char) : List Char × List Char :=
  match line.dropWhile (· ≠ ':') with
  | ':' :: ' ' :: value => (line.takeWhile (· ≠ ':'), value)
  | ':' :: value => (line.takeWhile (· ≠ ':'), value)
  | _ => (line, [])

/-- The event that an empty line ends. A type that is missing is `message`. -/
def dispatch (s : State) : Option Event :=
  if s.data.isEmpty then none
  else
    some ⟨if s.type.isEmpty then "message" else String.ofList s.type,
      String.ofList (['\n'].intercalate s.data.reverse)⟩

def endLine (s : State) : State × Option Event :=
  let line := s.line.reverse
  let s := { s with line := [], afterCr := false }
  if line.isEmpty then ({ s with type := [], data := [] }, dispatch s)
  else
    let (name, value) := splitField line
    if name = "event".toList then ({ s with type := value }, none)
    else if name = "data".toList then ({ s with data := value :: s.data }, none)
    else (s, none)

/-- A character of a line, or one that ends it. -/
def readInLine (s : State) (c : Char) : State × Option Event :=
  if c = '\n' then endLine s
  else if c = '\x0d' then ({ s with afterCr := true }, none)
  else ({ s with line := c :: s.line }, none)

def readChar (s : State) (c : Char) : State × Option Event :=
  if s.afterCr then
    let (s, e) := endLine s
    if c = '\n' then (s, e) else ((readInLine s c).1, e)
  else readInLine s c

def State.read (s : State) (b : UInt8) : State × Option Event :=
  if s.stalled then (s, none)
  else
    match Text.Utf8.step s.begun b with
    | ([], begun) => ({ s with begun := begun }, none)
    | (some c :: _, begun) => readChar { s with begun := begun } c
    | (none :: _, _) => ({ s with stalled := true }, none)

/-- The events that octets complete, and where the reading stands after them. -/
def readAll : State → List UInt8 → State × List Event
  | s, [] => (s, [])
  | s, b :: bs =>
    let (s, e) := s.read b
    let (s, es) := readAll s bs
    (s, e.toList ++ es)

end JobWatch.EventStream

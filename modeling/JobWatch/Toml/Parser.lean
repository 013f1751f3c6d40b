import JobWatch.Toml.Document
import JobWatch.Toml.Scalar
import JobWatch.Toml.Token

/-!
# TOML documents

The structure of a document is read token by token. A `Place` says what may come next, and holds the
open arrays and tables, innermost first; `Reader.step` is one token.
-/

namespace JobWatch.Toml

/-- What a value that is being read belongs to. -/
inductive Frame where
  /-- An array, with its items so far, last first. -/
  | array (items : List Value)
  /-- A table written out as a value, with its members so far, and the key of the next one. -/
  | member (members : Members) (key : List String)
  /-- The key of a line. -/
  | pair (key : List String)

/-- What a key that is being read is for. -/
inductive KeyUse where
  | header
  /-- The header of one of several tables. -/
  | element
  | pair
  /-- A member of a table that is written out as a value. -/
  | member (members : Members) (frames : List Frame)

/-- What may come next. The parts of a key are held last first. -/
inductive Place where
  /-- A line. -/
  | line
  /-- The rest of a line, which has to be blank. -/
  | lineEnd
  /-- The second bracket of a header, or a key. -/
  | header
  /-- A part of a key. -/
  | key (use : KeyUse) (parts : List String)
  /-- A dot or what follows the key. -/
  | afterPart (use : KeyUse) (parts : List String)
  /-- The second closing bracket of a header. -/
  | elementEnd (parts : List String)
  | value (frames : List Frame)
  /-- The next item of an array, or its end. -/
  | item (items : List Value) (frames : List Frame)
  /-- The next member of a table written out as a value, or its end. -/
  | memberOrEnd (members : Members) (frames : List Frame)
  /-- More of a value without quotes. -/
  | scalar (text : List Char) (frames : List Frame)
  /-- A time of day after a day, or what follows the day. -/
  | afterDay (text : List Char) (frames : List Frame)
  /-- What follows a complete value. -/
  | complete (v : Value) (frames : List Frame)

/-- The document so far, the table that is open, and what may come next. -/
structure Reader where
  root : Members
  table : List String
  place : Place

namespace Reader

/-- The most arrays and tables that may be open in one another. -/
def maxDepth : Nat := 80

def start : Reader := ⟨[], [], .line⟩

/-- Whether a character may stand in a key without quotes. -/
def isKeyChar (c : Char) : Bool :=
  ('a' ≤ c && c ≤ 'z') || ('A' ≤ c && c ≤ 'Z') || ('0' ≤ c && c ≤ '9') || c == '_' || c == '-'

/-- The part of a key that a token is. -/
def keyPart? : Token → Option String
  | .word s => if s.all isKeyChar then some (String.ofList s) else none
  | .string false s => some (String.ofList s)
  | _ => none

/-- The same document at another place. -/
def at' (r : Reader) (p : Place) : Option Reader := some { r with place := p }

def openTable (r : Reader) (path : List String) : Option Reader :=
  match path.getLast? with
  | none => none
  | some k =>
    (r.root.descend (Members.openTable k) path.dropLast).map fun root => ⟨root, path, .lineEnd⟩

/-- Opens one more table of a list by its header. -/
def openElement (r : Reader) (path : List String) : Option Reader :=
  match path.getLast? with
  | none => none
  | some k =>
    (r.root.descend (Members.openElement k) path.dropLast).map fun root => ⟨root, path, .lineEnd⟩

/-- Gives a value to the key of a line. -/
def assign (r : Reader) (key : List String) (v : Value) (p : Place) : Option Reader :=
  (r.root.descend (Members.assign v key) r.table).map fun root => ⟨root, r.table, p⟩

/-- A token where a value must start. -/
def startValue (r : Reader) (fs : List Frame) : Token → Option Reader
  | .word s => r.at' (.scalar s fs)
  | .string _ s => r.at' (.complete (.string (String.ofList s)) fs)
  | .openBracket => if fs.length ≤ maxDepth then r.at' (.item [] fs) else none
  | .openBrace => if fs.length ≤ maxDepth then r.at' (.memberOrEnd [] fs) else none
  | _ => none

/-- A token after a complete value. -/
def afterValue (r : Reader) (v : Value) : List Frame → Token → Option Reader
  | fs, .blank _ => r.at' (.complete v fs)
  | .pair key :: _, .newline => r.assign key v .line
  | .pair key :: _, .comment => r.assign key v .lineEnd
  | .array items :: fs, .newline | .array items :: fs, .comment =>
    r.at' (.complete v (.array items :: fs))
  | .array items :: fs, .comma => r.at' (.item (v :: items) fs)
  | .array items :: fs, .closeBracket => r.at' (.complete (.array (v :: items).reverse) fs)
  | .member ms key :: fs, .newline | .member ms key :: fs, .comment =>
    r.at' (.complete v (.member ms key :: fs))
  | .member ms key :: fs, .comma =>
    (ms.assign v key).bind fun ms => r.at' (.memberOrEnd ms fs)
  | .member ms key :: fs, .closeBrace =>
    (ms.assign v key).bind fun ms => r.at' (.complete (.table .inlined ms) fs)
  | _, _ => none

/-- A token after a value without quotes. -/
def afterScalar (r : Reader) (s : List Char) (fs : List Frame) (t : Token) : Option Reader :=
  (scalar? s).bind fun v => r.afterValue v fs t

/-- A token where a part of a key must come. -/
def startPart (r : Reader) (use : KeyUse) (parts : List String) (t : Token) : Option Reader :=
  match t with
  | .blank _ => r.at' (.key use parts)
  | t => (keyPart? t).bind fun k => r.at' (.afterPart use (k :: parts))

/-- A token after a part of a key. -/
def afterPart (r : Reader) (use : KeyUse) (parts : List String) (t : Token) : Option Reader :=
  match use, t with
  | use, .blank _ => r.at' (.afterPart use parts)
  | use, .dot => r.at' (.key use parts)
  | .header, .closeBracket => r.openTable parts.reverse
  | .element, .closeBracket => r.at' (.elementEnd parts)
  | .pair, .equals => r.at' (.value [.pair parts.reverse])
  | .member ms fs, .equals => r.at' (.value (.member ms parts.reverse :: fs))
  | _, _ => none

def step (r : Reader) (t : Token) : Option Reader :=
  match r.place, t with
  | .line, .blank _ | .line, .newline | .lineEnd, .newline => r.at' .line
  | .line, .comment | .lineEnd, .blank _ | .lineEnd, .comment => r.at' .lineEnd
  | .lineEnd, _ => none
  | .line, .openBracket => r.at' .header
  | .line, t => r.startPart .pair [] t
  | .header, .openBracket => r.at' (.key .element [])
  | .header, t => r.startPart .header [] t
  | .key use parts, t => r.startPart use parts t
  | .afterPart use parts, t => r.afterPart use parts t
  | .elementEnd parts, .closeBracket => r.openElement parts.reverse
  | .elementEnd _, _ => none
  | .value fs, .blank _ => r.at' (.value fs)
  | .value fs, t => r.startValue fs t
  | .item items fs, .blank _ | .item items fs, .newline | .item items fs, .comment =>
    r.at' (.item items fs)
  | .item items fs, .closeBracket => r.at' (.complete (.array items.reverse) fs)
  | .item items fs, t => r.startValue (.array items :: fs) t
  | .memberOrEnd ms fs, .blank _ | .memberOrEnd ms fs, .newline | .memberOrEnd ms fs, .comment =>
    r.at' (.memberOrEnd ms fs)
  | .memberOrEnd ms fs, .closeBrace => r.at' (.complete (.table .inlined ms) fs)
  | .memberOrEnd ms fs, t => r.startPart (.member ms fs) [] t
  | .scalar s fs, .word w => r.at' (.scalar (s ++ w) fs)
  | .scalar s fs, .dot => r.at' (.scalar (s ++ ['.']) fs)
  | .scalar s fs, .blank [' '] =>
    if isDay s then r.at' (.afterDay s fs) else r.afterScalar s fs (.blank [' '])
  | .scalar s fs, t => r.afterScalar s fs t
  | .afterDay s fs, .word w =>
    if w.head?.any Text.Decimal.isDigit then r.at' (.scalar (s ++ ' ' :: w) fs) else none
  | .afterDay s fs, t => r.afterScalar s fs t
  | .complete v fs, t => r.afterValue v fs t

/-- The document that has been read, when nothing is left open. -/
def done? (r : Reader) : Option Members :=
  match r.place with
  | .line | .lineEnd => some r.root
  | .complete v [.pair key] => (r.assign key v .line).map (·.root)
  | .scalar s [.pair key] | .afterDay s [.pair key] =>
    (scalar? s).bind fun v => (r.assign key v .line).map (·.root)
  | _ => none

end Reader

def parse? (s : String) : Option Members := do
  let r ← (← tokens? s.toList).foldlM Reader.step .start
  r.done?

end JobWatch.Toml

import JobWatch.Json.Token
import JobWatch.Text.Utf8

/-!
# JSON documents

The structure of a document is read token by token. A `Cursor` holds the open arrays and objects,
innermost first, together with what may come next; `Cursor.step` is one token. A document is
accepted when its tokens lead to a complete value with nothing left open. There is no limit on
nesting.
-/

namespace JobWatch.Json

/-- An array or object that is still open, with what it holds so far in reverse order. -/
inductive Frame where
  | array (items : List Json)
  /-- An object whose member of the given name is being read. -/
  | object (members : List (Option String × Json)) (key : Option String)

/-- What may come next. -/
inductive Cursor where
  /-- A value. -/
  | value (open_ : List Frame)
  /-- The first item of an array, or its end. -/
  | firstItem (open_ : List Frame)
  /-- The first name in an object, or its end. -/
  | firstName (open_ : List Frame)
  /-- A further name in an object. -/
  | name (members : List (Option String × Json)) (open_ : List Frame)
  /-- The colon after a name. -/
  | colon (members : List (Option String × Json)) (key : Option String) (open_ : List Frame)
  /-- A comma or an end, after a complete value. -/
  | complete (v : Json) (open_ : List Frame)

namespace Cursor

/-- A token where a value must start. -/
def startValue (fs : List Frame) : Token → Option Cursor
  | .null => some (.complete .null fs)
  | .bool b => some (.complete (.bool b) fs)
  | .number n => some (.complete (.number n) fs)
  | .string s => some (.complete (.string s) fs)
  | .openArray => some (.firstItem fs)
  | .openObject => some (.firstName fs)
  | _ => none

def step : Cursor → Token → Option Cursor
  | .value fs, t => startValue fs t
  | .firstItem fs, .closeArray => some (.complete (.array []) fs)
  | .firstItem fs, t => startValue (.array [] :: fs) t
  | .firstName fs, .closeObject => some (.complete (.object []) fs)
  | .firstName fs, .string k => some (.colon [] k fs)
  | .firstName _, _ => none
  | .name ms fs, .string k => some (.colon ms k fs)
  | .name _ _, _ => none
  | .colon ms k fs, .colon => some (.value (.object ms k :: fs))
  | .colon _ _ _, _ => none
  | .complete v (.array xs :: fs), .comma => some (.value (.array (v :: xs) :: fs))
  | .complete v (.array xs :: fs), .closeArray => some (.complete (.array (v :: xs).reverse) fs)
  | .complete v (.object ms k :: fs), .comma => some (.name ((k, v) :: ms) fs)
  | .complete v (.object ms k :: fs), .closeObject =>
    some (.complete (.object ((k, v) :: ms).reverse) fs)
  | .complete _ _, _ => none

/-- The value that has been read, when nothing is left open. -/
def done? : Cursor → Option Json
  | .complete v [] => some v
  | _ => none

end Cursor

def ofTokens? (ts : List Token) : Option Json :=
  (ts.foldlM Cursor.step (.value [])).bind Cursor.done?

def ofSymbols? (s : List Symbol) : Option Json := (tokens? s).bind ofTokens?

def parse? (s : String) : Option Json := ofSymbols? (symbolsOf s)

/-- The value that octets spell. Octets that are no UTF-8 are refused outside string literals. -/
def ofOctets? (bytes : List UInt8) : Option Json := ofSymbols? (Text.Utf8.symbols bytes)

end JobWatch.Json

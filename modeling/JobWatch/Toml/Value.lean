/-!
# TOML values

What a TOML document says. A table remembers how it came about, because that decides which later
lines of the document may still add to it. Floats and times are recognised but not kept: nothing
here has a use for them.
-/

namespace JobWatch.Toml

/-- How a table came about. -/
inductive Origin where
  /-- On the way to a table with a header of its own. -/
  | implied
  /-- By its own header. -/
  | header
  /-- By a dotted key. -/
  | dotted
  /-- Written out as a value. -/
  | inlined
deriving DecidableEq, Repr

/-- A TOML value. -/
inductive Value where
  | string (s : String)
  | integer (n : Int)
  | float
  | boolean (b : Bool)
  | time
  | array (items : List Value)
  | table (origin : Origin) (members : List (String × Value))
  /-- Tables with one header each, last first. -/
  | tables (elements : List (List (String × Value)))

abbrev Members := List (String × Value)

def Members.find? (ms : Members) (name : String) : Option Value := ms.lookup name

def Members.replace (ms : Members) (name : String) (v : Value) : Members :=
  ms.map fun m => if m.1 == name then (name, v) else m

def Members.sorted (ms : Members) : Members := ms.mergeSort fun a b => decide (a.1 ≤ b.1)

end JobWatch.Toml

import JobWatch.Text.Decimal

/-!
# JSON values

A JSON document as it is spelled. Two things are kept that a value alone would lose: a number keeps
its digits, and a string literal may hold no text at all, because it has octets that are no UTF-8 or
an escape that is half of a surrogate pair. Such a literal is harmless where nobody reads it.
-/

namespace JobWatch

/-- A number, digit by digit. -/
structure Numeral where
  negative : Bool
  /-- The digits before the point. -/
  whole : List Char
  /-- The digits after the point; none when there is no point. -/
  fraction : List Char
  /-- Whether the exponent is negative, and its digits. -/
  exponent : Option (Bool × List Char)
deriving DecidableEq, Repr

/-- A JSON value. -/
inductive Json where
  | null
  | bool (b : Bool)
  | number (n : Numeral)
  /-- A string literal, with `none` for one that spells no text. -/
  | string (text : Option String)
  | array (items : List Json)
  | object (members : List (Option String × Json))

namespace Numeral

def ofNat (n : Nat) : Numeral := ⟨false, Text.Decimal.digits n, [], none⟩

def ofInt (n : Int) : Numeral := ⟨n < 0, Text.Decimal.digits n.natAbs, [], none⟩

/-- The integer that a numeral without fraction and exponent spells. -/
def toInt? (n : Numeral) : Option Int :=
  if n.fraction.isEmpty && n.exponent.isNone then
    let m : Int := Text.Decimal.ofDigits 0 n.whole
    some (if n.negative then -m else m)
  else none

end Numeral

namespace Json

def text (s : String) : Json := .string (some s)

def int (n : Int) : Json := .number (.ofInt n)

def nat (n : Nat) : Json := .number (.ofNat n)

/-- A value that may be absent, with `null` for absence. -/
def ofOption {α : Type} (f : α → Json) : Option α → Json
  | none => .null
  | some a => f a

/-- An object with the given member names, in order. -/
def ofMembers (ms : List (String × Json)) : Json := .object (ms.map fun (k, v) => (some k, v))

/-- The members of an object, or none for any other value. -/
def members : Json → List (Option String × Json)
  | .object ms => ms
  | _ => []

/-- The last member of the given name, if the value is an object that has one. -/
def get? (j : Json) (name : String) : Option Json :=
  (j.members.reverse.find? fun m => m.1 == some name).map (·.2)

/-- The text of a string that holds one. -/
def text? : Json → Option String
  | .string s => s
  | _ => none

def bool? : Json → Option Bool
  | .bool b => some b
  | _ => none

def int? : Json → Option Int
  | .number n => n.toInt?
  | _ => none

def nat? (j : Json) : Option Nat := j.int?.bind fun n => if 0 ≤ n then some n.toNat else none

/-- The items of an array, or none for any other value. -/
def items : Json → List Json
  | .array xs => xs
  | _ => []

end Json

end JobWatch

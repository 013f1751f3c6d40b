import JobWatch.Json.Parser

/-!
# Plain values

A document is *plain* when every part of it can be held as a value: every string literal spells a
text, every number rounds to a finite double, and no more than 127 arrays and objects are nested.
-/

namespace JobWatch

namespace Numeral

/-- Takes digits into a number as long as it stays below 2⁶⁴; the digits left over follow. -/
def gather : Nat → List Char → Nat × List Char
  | n, [] => (n, [])
  | n, d :: ds =>
    let m := n * 10 + Text.Decimal.value d
    if m < 18446744073709551616 then gather m ds else (n, d :: ds)

/-- A number rounded to 53 significant bits, a tie to the even neighbour. -/
def roundTo53Bits (n : Nat) : Nat :=
  if n < 9007199254740992 then n
  else
    let unit := 1 <<< (n.log2 - 52)
    let q := n / unit
    let r := n % unit
    (if unit < 2 * r ∨ (2 * r = unit ∧ q % 2 = 1) then q + 1 else q) * unit

/-- Whether a number is within the range of doubles: below 2¹⁰²⁴ - 2⁹⁷⁰. It is scaled as a significand of at most 64
bits, rounded, times a rounded power of ten. -/
def isFinite (n : Numeral) : Bool :=
  let (whole, extra) := gather 0 n.whole
  let (significand, unused) := gather whole n.fraction
  let point : Int := (extra.length : Int) - (n.fraction.length - unused.length : Nat)
  let exponent : Int := match n.exponent with
    | none => 0
    | some (negative, ds) =>
      let e : Int := Text.Decimal.ofDigits 0 ds
      if negative then -e else e
  let scale := point + exponent
  significand == 0 || scale < 0 ||
    (scale ≤ 308 &&
      roundTo53Bits significand * roundTo53Bits (Nat.pow 10 scale.toNat) < 1 <<< 1024 - 1 <<< 970)

end Numeral

namespace Json

mutual

/-- Whether a value is plain with so many further levels of nesting. -/
def plainWithin : Nat → Json → Bool
  | _, .null => true
  | _, .bool _ => true
  | _, .number n => n.isFinite
  | _, .string s => s.isSome
  | 0, .array _ => false
  | 0, .object _ => false
  | depth + 1, .array vs => plainItems depth vs
  | depth + 1, .object ms => plainMembers depth ms

def plainItems : Nat → List Json → Bool
  | _, [] => true
  | depth, v :: vs => plainWithin depth v && plainItems depth vs

def plainMembers : Nat → List (Option String × Json) → Bool
  | _, [] => true
  | depth, (k, v) :: ms => k.isSome && plainWithin depth v && plainMembers depth ms

end

def isPlain (j : Json) : Bool := plainWithin 127 j

/-- The plain value that a text spells. -/
def parsePlain? (s : String) : Option Json := (parse? s).filter isPlain

end Json

end JobWatch

/-!
# Punycode

Text beyond ASCII written with letters, digits and hyphens. The ASCII characters come first; the
others follow as a run of numbers, each of which says how far on the next character is put in, in
the order of code points and then of places. A number is written with its least digit first, in a
base that varies from digit to digit; how it varies adapts to the numbers before.
-/

namespace JobWatch.Url.Punycode

/-- The character of a digit: the letters, then the ten digits. -/
def digitChar (d : Nat) : Char :=
  if d < 26 then Char.ofNat ('a'.toNat + d) else Char.ofNat ('0'.toNat + (d - 26))

def digitValue? (c : Char) : Option Nat :=
  if 'a' ≤ c ∧ c ≤ 'z' then some (c.toNat - 'a'.toNat)
  else if 'A' ≤ c ∧ c ≤ 'Z' then some (c.toNat - 'A'.toNat)
  else if '0' ≤ c ∧ c ≤ '9' then some (c.toNat - '0'.toNat + 26)
  else none

/-- The least digit that does not end a number, at the given position. -/
def threshold (k bias : Nat) : Nat := max 1 (min 26 (k - bias))

/-- How a delta is scaled down, with the number of steps that takes. -/
def scale : Nat → Nat → Nat → Nat × Nat
  | 0, delta, k => (delta, k)
  | fuel + 1, delta, k => if 455 < delta then scale fuel (delta / 35) (k + 36) else (delta, k)

/-- The bias after a number, given how many characters there are now. -/
def adapt (delta count : Nat) (first : Bool) : Nat :=
  let delta := if first then delta / 700 else delta / 2
  let delta := delta + delta / count
  let (delta, k) := scale delta delta 0
  k + 36 * delta / (delta + 38)

/-- The digits of a number from a position on. -/
def numberDigits (bias : Nat) : Nat → Nat → Nat → List Char
  | 0, _, q => [digitChar q]
  | fuel + 1, k, q =>
    let t := threshold k bias
    if q < t then [digitChar q]
    else digitChar (t + (q - t) % (36 - t)) :: numberDigits bias fuel (k + 36) ((q - t) / (36 - t))

/-- What has been written, and where the writing stands. -/
structure Encoder where
  out : List Char
  /-- How far the next character is on. -/
  delta : Nat
  bias : Nat
  /-- The characters that are written. -/
  count : Nat

/-- Passes by one character of the text on the way to the code point `n`. -/
def Encoder.pass (basic n : Nat) (e : Encoder) (c : Char) : Encoder :=
  if c.toNat < n then { e with delta := e.delta + 1 }
  else if c.toNat = n then
    { out := e.out ++ numberDigits e.bias e.delta 36 e.delta
      delta := 0
      bias := adapt e.delta (e.count + 1) (e.count == basic)
      count := e.count + 1 }
  else e

def encode (s : List Char) : List Char :=
  let basic := s.filter (·.toNat < 0x80)
  let others := ((s.filter (0x80 ≤ ·.toNat)).map Char.toNat).eraseDups.mergeSort (· ≤ ·)
  let start : Encoder × Nat := (⟨[], 0, 72, basic.length⟩, 0x80)
  let (e, _) := others.foldl (fun (e, n) m =>
    let e := { e with delta := e.delta + (m - n) * (e.count + 1) }
    let e := s.foldl (Encoder.pass basic.length m) e
    ({ e with delta := e.delta + 1 }, m + 1)) start
  basic ++ (if basic.isEmpty then [] else ['-']) ++ e.out

/-- The number at the start of a text, added to `i`, and what follows it. -/
def number? (bias : Nat) : List Char → Nat → Nat → Nat → Option (Nat × List Char)
  | [], _, _, _ => none
  | c :: rest, k, weight, i =>
    match digitValue? c with
    | none => none
    | some d =>
      let t := threshold k bias
      if d < t then some (i + d * weight, rest)
      else number? bias rest (k + 36) (weight * (36 - t)) (i + d * weight)

/-- Puts in the characters that the rest of a text stands for. -/
def insertAll : Nat → Nat → Nat → Nat → List Char → List Char → Option (List Char)
  | _, _, _, _, out, [] => some out
  | 0, _, _, _, _, _ => none
  | fuel + 1, bias, n, i, out, s => do
    let (j, rest) ← number? bias s 36 1 i
    let count := out.length + 1
    let n := n + j / count
    let place := j % count
    if n.isValidChar then
      insertAll fuel (adapt (j - i) count (i == 0)) n (place + 1) (out.insertIdx place (Char.ofNat n))
        rest
    else none

def decode? (s : List Char) : Option (List Char) :=
  let tail := (s.reverse.takeWhile (· ≠ '-')).reverse
  let basic := (s.take (s.length - tail.length)).dropLast
  if s.any (0x80 ≤ ·.toNat) then none else insertAll s.length 72 0x80 0 basic tail

end JobWatch.Url.Punycode

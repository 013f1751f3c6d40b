import JobWatch.Url.Domain

/-!
# Hosts

A host is a domain, an address of version 4 or 6, or, in schemes of which nothing is known, any text.
A domain whose last label looks like a number has to be an address of version 4: up to four numbers,
decimal, octal or hexadecimal, the last of which fills what is left.
-/

namespace JobWatch.Url

/-- A host. -/
inductive Host where
  | domain (name : List Char)
  | v4 (address : Nat)
  /-- Eight pieces of sixteen bits. -/
  | v6 (pieces : List Nat)
  /-- A host in a scheme of which nothing is known. -/
  | text (s : List Char)
deriving DecidableEq, Repr

namespace Host

/-! ## Version 4 -/

/-- The number that a part of an address is; none if it is no number. -/
def v4Number? (s : List Char) : Option Nat :=
  match s with
  | [] => none
  | '0' :: x :: rest =>
    if x = 'x' ∨ x = 'X' then Text.Hex.ofDigits? rest
    else
      if (x :: rest).all (fun c => '0' ≤ c && c ≤ '7') then Text.Hex.ofDigits? (x :: rest) |>.map
        fun _ => (x :: rest).foldl (fun n c => n * 8 + Text.Decimal.value c) 0
      else none
  | s => Text.Decimal.toNat? s

/-- Whether a domain ends in a number, a full stop at its end not counted. -/
def endsInNumber (s : List Char) : Bool :=
  let parts := labels s
  let parts := if parts.getLast? == some [] && parts.length > 1 then parts.dropLast else parts
  match parts.getLast? with
  | none => false
  | some [] => false
  | some l => l.all Text.Decimal.isDigit || ((l.take 2 == ['0', 'x'] || l.take 2 == ['0', 'X']) &&
      (l.drop 2).all fun c => (Text.Hex.value? c).isSome)

/-- The address that a domain is. -/
def v4? (s : List Char) : Option Nat := do
  let parts := labels s
  let parts := if parts.getLast? == some [] && parts.length > 1 then parts.dropLast else parts
  if parts.length > 4 then none
  else
    let numbers ← parts.mapM v4Number?
    let last ← numbers.getLast?
    let others := numbers.dropLast
    if others.any (255 < ·) || 1 <<< (8 * (5 - numbers.length)) ≤ last then none
    else
      some (others.zipIdx.foldl (fun sum (n, i) => sum + n <<< (8 * (3 - i))) last)

def v4Text (a : Nat) : List Char :=
  ['.'].intercalate ([a / 16777216 % 256, a / 65536 % 256, a / 256 % 256, a % 256].map Text.Decimal.digits)

/-! ## Version 6 -/

def colonParts : List Char → List (List Char)
  | [] => [[]]
  | c :: rest =>
    if c = ':' then [] :: colonParts rest
    else
      match colonParts rest with
      | [] => [[c]]
      | p :: ps => (c :: p) :: ps

/-- A number of up to three decimal digits without a leading zero, below 256. -/
def strictOctet? (s : List Char) : Option Nat :=
  if s.length > 1 && s.head? == some '0' then none
  else (Text.Decimal.toNat? s).bind fun n => if n < 256 then some n else none

/-- The two pieces that an address of version 4 makes. -/
def v4Pieces? (s : List Char) : Option (List Nat) := do
  match ← (labels s).mapM strictOctet? with
  | [a, b, c, d] => some [a * 256 + b, c * 256 + d]
  | _ => none

/-- The pieces of a part of an address; one of version 4 may come last. -/
def pieces? (v4Last : Bool) : List (List Char) → Option (List Nat)
  | [] => some []
  | p :: ps =>
    if p.contains '.' then if v4Last && ps.isEmpty then v4Pieces? p else none
    else if p.isEmpty || p.length > 4 then none
    else do return (← Text.Hex.ofDigits? p) :: (← pieces? v4Last ps)

/-- The part of a text before the first pair of colons, and the part after it. -/
def splitPair : List Char → Option (List Char × List Char)
  | ':' :: ':' :: rest => some ([], rest)
  | c :: rest => (splitPair rest).map fun (a, b) => (c :: a, b)
  | [] => none

/-- The address of version 6 that a text is. A pair of colons stands for at least one piece of
zero. -/
def v6? (s : List Char) : Option (List Nat) :=
  let part (v4Last : Bool) (t : List Char) : Option (List Nat) :=
    if t.isEmpty then some [] else pieces? v4Last (colonParts t)
  match splitPair s with
  | none => (pieces? true (colonParts s)).bind fun ps => if ps.length = 8 then some ps else none
  | some (a, b) => do
    let front ← part false a
    let back ← part true b
    if front.length + back.length ≤ 7 then
      some (front ++ List.replicate (8 - front.length - back.length) 0 ++ back)
    else none

def hexDigits (n : Nat) : List Char :=
  let ds := [n / 4096 % 16, n / 256 % 16, n / 16 % 16].dropWhile (· == 0)
  (ds ++ [n % 16]).map Text.Hex.lower

/-- The first longest run of zeros among pieces: where it starts and how long it is. -/
def longestZeros (ps : List Nat) : Nat × Nat :=
  let run (i : Nat) : Nat := ((ps.drop i).takeWhile (· == 0)).length
  (List.range ps.length).foldl (fun (at', n) i => if n < run i then (i, run i) else (at', n)) (0, 0)

/-- The text of an address of version 6. The first longest run of two or more zeros is written as a
pair of colons. -/
def v6Text (ps : List Nat) : List Char :=
  let (start, n) := longestZeros ps
  let text (qs : List Nat) := [':'].intercalate (qs.map hexDigits)
  if n < 2 then text ps else text (ps.take start) ++ [':', ':'] ++ text (ps.drop (start + n))

/-! ## Hosts -/

def render : Host → List Char
  | domain name => name
  | v4 a => v4Text a
  | v6 ps => '[' :: v6Text ps ++ [']']
  | text s => s

/-- The host that a text is, in a known scheme or in another one. -/
def parse? (known : Bool) (s : List Char) : Option Host :=
  match s with
  | '[' :: rest => if rest.getLast? = some ']' then (v6? rest.dropLast).map v6 else none
  | _ =>
    if known then do
      let name ← asciiDomain? (Text.Utf8.decodeLossy (percentDecode s))
      if endsInNumber name then (v4? name).map v4 else some (domain name)
    else if s.any isForbiddenInHost then none
    else some (text (percentEncode inControlSet s))

end Host

end JobWatch.Url

/-!
# UTF-8

A decoder that takes one octet at a time, and the texts of whole octet strings built from it. An
octet string is read as a list of symbols: a character, or `none` for a maximal run of octets that
begins no character. A text is such a list without `none`; replacing each `none` by U+FFFD gives the
usual lossy reading.
-/

namespace JobWatch.Text.Utf8

def encodeChar (c : Char) : List UInt8 :=
  let n := c.toNat
  if n < 0x80 then [n.toUInt8]
  else if n < 0x800 then [(0xC0 + n / 0x40).toUInt8, (0x80 + n % 0x40).toUInt8]
  else if n < 0x10000 then
    [(0xE0 + n / 0x1000).toUInt8, (0x80 + n / 0x40 % 0x40).toUInt8, (0x80 + n % 0x40).toUInt8]
  else
    [(0xF0 + n / 0x40000).toUInt8, (0x80 + n / 0x1000 % 0x40).toUInt8,
      (0x80 + n / 0x40 % 0x40).toUInt8, (0x80 + n % 0x40).toUInt8]

def encode (s : List Char) : List UInt8 := s.flatMap encodeChar

/-- A character that has begun: the octets still owed, the bounds on the next one, and the bits
gathered so far. -/
structure Partial where
  owed : Nat
  low : Nat
  high : Nat
  bits : Nat
deriving DecidableEq, Repr

/-- What an octet does to the decoder. -/
inductive Outcome where
  /-- The octet completes a character. -/
  | char (c : Char)
  /-- The octet leaves a character unfinished. -/
  | more (p : Partial)
  /-- The octet cannot stand here. -/
  | bad
deriving Repr

def start (b : UInt8) : Outcome :=
  let n := b.toNat
  if n < 0x80 then .char (Char.ofNat n)
  else if n < 0xC2 then .bad
  else if n < 0xE0 then .more ⟨1, 0x80, 0xBF, n - 0xC0⟩
  else if n < 0xF0 then
    .more ⟨2, if n = 0xE0 then 0xA0 else 0x80, if n = 0xED then 0x9F else 0xBF, n - 0xE0⟩
  else if n < 0xF5 then
    .more ⟨3, if n = 0xF0 then 0x90 else 0x80, if n = 0xF4 then 0x8F else 0xBF, n - 0xF0⟩
  else .bad

/-- A further octet of a character. -/
def Partial.next (p : Partial) (b : UInt8) : Outcome :=
  let n := b.toNat
  if n < p.low || p.high < n then .bad
  else
    let bits := p.bits * 0x40 + (n - 0x80)
    if p.owed ≤ 1 then .char (Char.ofNat bits) else .more ⟨p.owed - 1, 0x80, 0xBF, bits⟩

/-- One octet between characters: the symbols it completes, and the character it begins. -/
def begin (b : UInt8) : List (Option Char) × Option Partial :=
  match start b with
  | .char c => ([some c], none)
  | .more p => ([], some p)
  | .bad => ([none], none)

/-- One octet: an octet that cannot continue a character ends it badly and is read afresh. -/
def step (q : Option Partial) (b : UInt8) : List (Option Char) × Option Partial :=
  match q with
  | none => begin b
  | some p =>
    match p.next b with
    | .char c => ([some c], none)
    | .more p => ([], some p)
    | .bad => (none :: (begin b).1, (begin b).2)

/-- The symbols of an octet string that continues a character. A character left unfinished is one
bad symbol. -/
def symbolsFrom : Option Partial → List UInt8 → List (Option Char)
  | none, [] => []
  | some _, [] => [none]
  | q, b :: rest => (step q b).1 ++ symbolsFrom (step q b).2 rest

def symbols (bytes : List UInt8) : List (Option Char) := symbolsFrom none bytes

/-- The text that octets spell, if they are well formed throughout. -/
def decode? (bytes : List UInt8) : Option (List Char) := (symbols bytes).mapM id

/-- The text that octets spell, with U+FFFD in place of each malformed run. -/
def decodeLossy (bytes : List UInt8) : List Char := (symbols bytes).map (·.getD '\uFFFD')

end JobWatch.Text.Utf8

import JobWatch.Json.Basic
import JobWatch.Text.Hex

/-!
# JSON tokens

A document is cut into tokens before its structure is read. The input is a list of symbols, where
`none` stands for octets that are no character: they may stand inside a string literal, which then
spells no text, and nowhere else. A literal is checked as far as its form goes: four hexadecimal
digits after `\u`, and no control character.
-/

namespace JobWatch.Json

/-- A character, or octets that are none. -/
abbrev Symbol := Option Char

def symbolsOf (s : String) : List Symbol := s.toList.map some

/-- The smallest part of a document. -/
inductive Token where
  | openArray | closeArray | openObject | closeObject | comma | colon
  | null
  | bool (b : Bool)
  | number (n : Numeral)
  | string (text : Option String)
deriving DecidableEq, Repr

/-! ## String literals -/

/-- A part of a string literal. -/
inductive Piece where
  | char (c : Char)
  /-- A sixteen-bit unit written as `\u` and four digits. -/
  | unit (n : Nat)
  /-- Octets that are no character. -/
  | stray
deriving DecidableEq, Repr

/-- The character of an escape by a single letter. -/
def simpleEscape? : Char → Option Char
  | '"' => some '"'
  | '\\' => some '\\'
  | '/' => some '/'
  | 'b' => some '\x08'
  | 'f' => some '\x0c'
  | 'n' => some '\n'
  | 'r' => some '\x0d'
  | 't' => some '\t'
  | _ => none

def hex4? : Symbol → Symbol → Symbol → Symbol → Option Nat
  | some a, some b, some c, some d => Text.Hex.ofDigits? [a, b, c, d]
  | _, _, _, _ => none

/-- The rest of a string literal after its opening quote: its parts, and what follows the closing
quote. -/
def scanString : List Symbol → Option (List Piece × List Symbol)
  | some '"' :: rest => some ([], rest)
  | some '\\' :: some 'u' :: a :: b :: c :: d :: rest =>
    match hex4? a b c d with
    | some n => (scanString rest).map fun (ps, r) => (.unit n :: ps, r)
    | none => none
  | some '\\' :: some e :: rest =>
    match simpleEscape? e with
    | some c => (scanString rest).map fun (ps, r) => (.char c :: ps, r)
    | none => none
  | some c :: rest =>
    if c = '\\' ∨ c < ' ' then none
    else (scanString rest).map fun (ps, r) => (.char c :: ps, r)
  | none :: rest => (scanString rest).map fun (ps, r) => (.stray :: ps, r)
  | [] => none

/-- The text of a literal's parts. Two units that are the halves of a surrogate pair, in order,
spell one character; half a pair alone spells none. -/
def pieceText? : List Piece → Option (List Char)
  | [] => some []
  | .char c :: rest => (pieceText? rest).map (c :: ·)
  | .stray :: _ => none
  | .unit n :: .unit m :: rest =>
    if 0xD800 ≤ n ∧ n < 0xDC00 then
      if 0xDC00 ≤ m ∧ m < 0xE000 then
        (pieceText? rest).map (Char.ofNat (0x10000 + (n - 0xD800) * 0x400 + (m - 0xDC00)) :: ·)
      else none
    else if 0xDC00 ≤ n ∧ n < 0xE000 then none
    else (pieceText? (.unit m :: rest)).map (Char.ofNat n :: ·)
  | .unit n :: rest =>
    if 0xD800 ≤ n ∧ n < 0xE000 then none else (pieceText? rest).map (Char.ofNat n :: ·)

/-! ## Numbers -/

/-- The digits at the start of a list of symbols, and the rest. -/
def scanDigits : List Symbol → List Char × List Symbol
  | some c :: rest =>
    if Text.Decimal.isDigit c then
      let (ds, r) := scanDigits rest
      (c :: ds, r)
    else ([], some c :: rest)
  | s => ([], s)

/-- The digits before the point: a single zero, or digits that start with another. -/
def scanWhole : List Symbol → Option (List Char × List Symbol)
  | some '0' :: rest => some (['0'], rest)
  | s =>
    match scanDigits s with
    | ([], _) => none
    | (ds, rest) => some (ds, rest)

/-- The digits after a point, if there is a point. -/
def scanFraction : List Symbol → Option (List Char × List Symbol)
  | some '.' :: rest =>
    match scanDigits rest with
    | ([], _) => none
    | (ds, r) => some (ds, r)
  | s => some ([], s)

/-- The digits of an exponent after its sign. -/
def scanExponentDigits (negative : Bool) (s : List Symbol) :
    Option (Option (Bool × List Char) × List Symbol) :=
  match scanDigits s with
  | ([], _) => none
  | (ds, rest) => some (some (negative, ds), rest)

/-- The exponent, if there is one. -/
def scanExponent : List Symbol → Option (Option (Bool × List Char) × List Symbol)
  | some c :: rest =>
    if c = 'e' ∨ c = 'E' then
      match rest with
      | some '-' :: r => scanExponentDigits true r
      | some '+' :: r => scanExponentDigits false r
      | r => scanExponentDigits false r
    else some (none, some c :: rest)
  | s => some (none, s)

/-- A number without its sign. -/
def scanNumber (negative : Bool) (s : List Symbol) : Option (Numeral × List Symbol) := do
  let (whole, s) ← scanWhole s
  let (fraction, s) ← scanFraction s
  let (exponent, s) ← scanExponent s
  return (⟨negative, whole, fraction, exponent⟩, s)

/-! ## Tokens -/

/-- Whether a character may stand between tokens. -/
def isSpace (c : Char) : Bool := c = ' ' || c = '\n' || c = '\t' || c = '\x0d'

/-- The token that starts with a given character, and what follows it. -/
def scanToken (c : Char) (rest : List Symbol) : Option (Token × List Symbol) :=
  match c with
  | '[' => some (.openArray, rest)
  | ']' => some (.closeArray, rest)
  | '{' => some (.openObject, rest)
  | '}' => some (.closeObject, rest)
  | ',' => some (.comma, rest)
  | ':' => some (.colon, rest)
  | '"' => (scanString rest).map fun (ps, r) => (.string ((pieceText? ps).map String.ofList), r)
  | '-' => (scanNumber true rest).map fun (n, r) => (.number n, r)
  | 'n' => match rest with
    | some 'u' :: some 'l' :: some 'l' :: r => some (.null, r)
    | _ => none
  | 't' => match rest with
    | some 'r' :: some 'u' :: some 'e' :: r => some (.bool true, r)
    | _ => none
  | 'f' => match rest with
    | some 'a' :: some 'l' :: some 's' :: some 'e' :: r => some (.bool false, r)
    | _ => none
  | c =>
    if Text.Decimal.isDigit c then
      (scanNumber false (some c :: rest)).map fun (n, r) => (.number n, r)
    else none

/-- The tokens of a document, given at least as much fuel as it has symbols. -/
def tokensWithin : Nat → List Symbol → Option (List Token)
  | _, [] => some []
  | 0, _ :: _ => none
  | _, none :: _ => none
  | fuel + 1, some c :: rest =>
    if isSpace c then tokensWithin fuel rest
    else (scanToken c rest).bind fun (t, r) => (tokensWithin fuel r).map (t :: ·)

/-- The tokens of a document, or none where some part of it is no token. -/
def tokens? (s : List Symbol) : Option (List Token) := tokensWithin s.length s

end JobWatch.Json

import JobWatch.Text.Decimal
import JobWatch.Text.Hex
import JobWatch.Time.Date
import JobWatch.Toml.Value

/-!
# Numbers, truth values and times in TOML

The values that are written without quotes. An integer may have a sign and single underscores
between its digits, and no leading zero; or a prefix for its base. A float has a fraction, an
exponent or both, or is `inf` or `nan`.
-/

namespace JobWatch.Toml

/-- The digits of a number, where an underscore may stand between two of them. -/
def digitsOf (isDigit : Char → Bool) : List Char → Option (List Char)
  | [] => none
  | [c] => if isDigit c then some [c] else none
  | c :: '_' :: rest =>
    if isDigit c then (digitsOf isDigit rest).map (c :: ·) else none
  | c :: rest => if isDigit c then (digitsOf isDigit rest).map (c :: ·) else none

def valueIn (base : Nat) (ds : List Char) : Nat :=
  ds.foldl (fun n d => n * base + (Text.Hex.value? d).getD 0) 0

/-- Whether a character is a digit of a base up to sixteen. -/
def isDigitIn (base : Nat) (c : Char) : Bool := (Text.Hex.value? c).any (· < base)

/-- A text without its sign, and whether it is negative. -/
def splitSign : List Char → Bool × List Char
  | '-' :: rest => (true, rest)
  | '+' :: rest => (false, rest)
  | s => (false, s)

/-- The value of decimal digits without a leading zero. -/
def decimal? (s : List Char) : Option Nat :=
  match digitsOf Text.Decimal.isDigit s with
  | some ds => if ds.length > 1 && ds.head? == some '0' then none else some (Text.Decimal.ofDigits 0 ds)
  | none => none

/-- The integer that a text is. -/
def integer? (s : List Char) : Option Int :=
  let based (base : Nat) (rest : List Char) : Option Int :=
    (digitsOf (isDigitIn base) rest).map fun ds => (valueIn base ds : Int)
  match s with
  | '0' :: 'x' :: rest => based 16 rest
  | '0' :: 'o' :: rest => based 8 rest
  | '0' :: 'b' :: rest => based 2 rest
  | _ =>
    let (negative, rest) := splitSign s
    (decimal? rest).map fun n => if negative then -(n : Int) else n

def isExponent (s : List Char) : Bool := (digitsOf Text.Decimal.isDigit (splitSign s).2).isSome

def isFloat (s : List Char) : Bool :=
  let unsigned := (splitSign s).2
  let isE (c : Char) : Bool := c == 'e' || c == 'E'
  let mantissa := unsigned.takeWhile (!isE ·)
  let whole := mantissa.takeWhile (· ≠ '.')
  let fraction := mantissa.drop whole.length
  let exponent := unsigned.drop mantissa.length
  unsigned == "inf".toList || unsigned == "nan".toList ||
    ((decimal? whole).isSome && (!fraction.isEmpty || !exponent.isEmpty) &&
      (fraction.isEmpty || (digitsOf Text.Decimal.isDigit (fraction.drop 1)).isSome) &&
      (exponent.isEmpty || isExponent (exponent.drop 1)))

def twoDigits? (s : List Char) : Option Nat := if s.length = 2 then Text.Decimal.toNat? s else none

def isDay (s : List Char) : Bool :=
  match s with
  | [y1, y2, y3, y4, '-', m1, m2, '-', d1, d2] =>
    match Text.Decimal.toNat? [y1, y2, y3, y4], twoDigits? [m1, m2], twoDigits? [d1, d2] with
    | some y, some m, some d => (Date.of? y m d).isSome
    | _, _, _ => false
  | _ => false

/-- Whether a text is a time of day: hours and minutes, with seconds and a fraction of them if
wanted. -/
def isTimeOfDay (s : List Char) : Bool :=
  let minutes (h m : List Char) : Bool :=
    (twoDigits? h).any (· < 24) && (twoDigits? m).any (· < 60)
  match s with
  | [h1, h2, ':', m1, m2] => minutes [h1, h2] [m1, m2]
  | h1 :: h2 :: ':' :: m1 :: m2 :: ':' :: s1 :: s2 :: rest =>
    minutes [h1, h2] [m1, m2] && (twoDigits? [s1, s2]).any (· ≤ 60) &&
      (rest.isEmpty || (rest.head? == some '.' && (Text.Decimal.toNat? (rest.drop 1)).isSome))
  | _ => false

def isOffset (s : List Char) : Bool :=
  match s with
  | ['Z'] | ['z'] => true
  | [sign, h1, h2, ':', m1, m2] =>
    (sign == '+' || sign == '-') && (twoDigits? [h1, h2]).any (· < 24) &&
      (twoDigits? [m1, m2]).any (· < 60)
  | _ => false

/-- Whether a text is a time of day with an offset if wanted. -/
def isTimeWithOffset (s : List Char) : Bool :=
  let time := s.takeWhile fun c => Text.Decimal.isDigit c || c == ':' || c == '.'
  let offset := s.drop time.length
  isTimeOfDay time && (offset.isEmpty || isOffset offset)

/-- Whether a text is a day, a time of day, or both with an offset if wanted. -/
def isTime (s : List Char) : Bool :=
  let day := s.take 10
  match s.drop 10 with
  | [] => isDay day || isTimeOfDay s
  | c :: time =>
    isTimeOfDay s || (isDay day && (c == 'T' || c == 't' || c == ' ') && isTimeWithOffset time)

/-- The value that a text without quotes is. -/
def scalar? (s : List Char) : Option Value :=
  if s = "true".toList then some (.boolean true)
  else if s = "false".toList then some (.boolean false)
  else
    match integer? s with
    | some n => some (.integer n)
    | none => if isFloat s then some .float else if isTime s then some .time else none

end JobWatch.Toml

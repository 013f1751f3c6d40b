import JobWatch.Http.CodePage
import JobWatch.Text.Blank
import JobWatch.Text.Decimal
import JobWatch.Text.Utf8

/-!
# The text of a body

A body names its character set in the `Content-Type` of its answer; without a name, or with one that
is not known, it is UTF-8. A mark at its very start that tells UTF-8 and UTF-16 apart counts more
than the name, and is no part of the text. Octets that spell nothing become U+FFFD.
-/

namespace JobWatch.Http

/-- A way to spell characters in octets. -/
inductive Charset where
  | utf8
  /-- UTF-16, with the high octet first or last. -/
  | utf16 (highFirst : Bool)
  | page (page : String)
  /-- A character set that is known to be misread. Nothing in it is understood. -/
  | refused
deriving DecidableEq, Repr

namespace Charset

/-- The names of the character sets with more than one octet for some characters, in lower case. -/
def names : List (String × Charset) :=
  (["utf-8", "utf8", "unicode-1-1-utf-8", "unicode11utf8", "unicode20utf8", "x-unicode20utf8"].map
    (·, utf8)) ++
  (["utf-16", "utf-16le", "csunicode", "iso-10646-ucs-2", "ucs-2", "unicode", "unicodefeff"].map
    (·, utf16 false)) ++
  (["utf-16be", "unicodefffe"].map (·, utf16 true)) ++
  (["csiso2022kr", "hz-gb-2312", "iso-2022-cn", "iso-2022-cn-ext", "iso-2022-kr", "replacement"].map
    (·, refused))

/-- The character set of a name, which may have blanks around it. -/
def ofName? (name : String) : Option Charset :=
  let name := (String.ofList (Text.trimBlanks name.toList)).map Char.toLower
  (names.lookup name).or ((CodePage.find? name).map page)

/-- The units of 16 bits that octets are, and whether one is left over. -/
def units (highFirst : Bool) : List UInt8 → List Nat × Bool
  | a :: b :: rest =>
    let (us, odd) := units highFirst rest
    ((if highFirst then a.toNat * 256 + b.toNat else b.toNat * 256 + a.toNat) :: us, odd)
  | [_] => ([], true)
  | [] => ([], false)

/-- The characters of units of 16 bits. -/
def ofUnits : List Nat → List Char
  | [] => []
  | u :: rest =>
    if 0xD800 ≤ u ∧ u < 0xDC00 then
      match rest with
      | v :: more =>
        if 0xDC00 ≤ v ∧ v < 0xE000 then
          Char.ofNat (0x10000 + (u - 0xD800) * 0x400 + (v - 0xDC00)) :: ofUnits more
        else '\uFFFD' :: ofUnits (v :: more)
      | [] => ['\uFFFD']
    else if 0xDC00 ≤ u ∧ u < 0xE000 then '\uFFFD' :: ofUnits rest
    else Char.ofNat u :: ofUnits rest

def decode (c : Charset) (bytes : List UInt8) : List Char :=
  match c with
  | utf8 => Text.Utf8.decodeLossy bytes
  | utf16 highFirst =>
    let (us, odd) := units highFirst bytes
    ofUnits us ++ if odd then ['\uFFFD'] else []
  | .page p => CodePage.decode p bytes
  | refused => if bytes.isEmpty then [] else ['\uFFFD']

/-- The character set that a mark at the start of octets tells, and the octets after it. -/
def mark? : List UInt8 → Option (Charset × List UInt8)
  | 0xEF :: 0xBB :: 0xBF :: rest => some (utf8, rest)
  | 0xFE :: 0xFF :: rest => some (utf16 true, rest)
  | 0xFF :: 0xFE :: rest => some (utf16 false, rest)
  | _ => none

end Charset

/-! ## The name in a content type -/

/-- Whether a character may stand in a word of a header. -/
def isTokenChar (c : Char) : Bool :=
  ('a' ≤ c && c ≤ 'z') || ('A' ≤ c && c ≤ 'Z') || Text.Decimal.isDigit c ||
    "!#$&-^_.+%*'|~\x60".toList.contains c

/-- The value of a parameter and what follows it; a value in quotes has a backslash before each
character that would end it. -/
def parameterValue? : List Char → Option (List Char × List Char)
  | '"' :: rest => quoted rest
  | s =>
    let value := s.takeWhile isTokenChar
    if value.isEmpty then none else some (value, s.dropWhile isTokenChar)
where
  quoted : List Char → Option (List Char × List Char)
    | [] => none
    | '"' :: rest => some ([], rest)
    | '\\' :: c :: rest => (quoted rest).map fun (v, r) => (c :: v, r)
    | c :: rest => (quoted rest).map fun (v, r) => (c :: v, r)

/-- The parameters of a content type, each after a semicolon; of a text that is none, nothing. -/
def parameters? : Nat → List Char → Option (List (List Char × List Char))
  | 0, _ => none
  | _, [] => some []
  | fuel + 1, s =>
    match s.dropWhile (· == ' ') with
    | [] => some []
    | ';' :: rest =>
      let rest := rest.dropWhile (· == ' ')
      if rest.isEmpty then some []
      else
        let name := rest.takeWhile isTokenChar
        match rest.dropWhile isTokenChar with
        | '=' :: value =>
          if name.isEmpty then none
          else
            match parameterValue? value with
            | some (v, rest) => (parameters? fuel rest).map ((name.map Char.toLower, v) :: ·)
            | none => none
        | _ => none
    | _ => none

/-- The parameter `charset` of a content type. -/
def charsetName? (contentType : String) : Option String :=
  let s := contentType.toList
  let kind := s.takeWhile isTokenChar
  match s.dropWhile isTokenChar with
  | '/' :: rest =>
    let subtype := rest.takeWhile isTokenChar
    if kind.isEmpty || subtype.isEmpty then none
    else
      let more := rest.dropWhile isTokenChar
      (parameters? (more.length + 1) more).bind fun ps =>
        (ps.lookup "charset".toList).map String.ofList
  | _ => none

def bodyText (contentType : Option String) (bytes : List UInt8) : String :=
  match Charset.mark? bytes with
  | some (c, rest) => String.ofList (c.decode rest)
  | none =>
    let c := ((contentType.bind charsetName?).bind Charset.ofName?).getD .utf8
    String.ofList (c.decode bytes)

end JobWatch.Http

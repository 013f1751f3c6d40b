import JobWatch.Text.Decimal
import JobWatch.Text.Hex
import JobWatch.Text.Utf8

/-!
# Percent-encoding

In a URL a character that may not stand for itself is written as its UTF-8 octets, each after a
percent sign. Which characters those are depends on the place. The fields of a form are encoded more
strictly, with a plus sign for a space.
-/

namespace JobWatch.Url

/-- The control characters, and everything beyond ASCII. -/
def inControlSet (c : Char) : Bool := c < ' ' || '\x7e' < c

/-- What is encoded in a fragment. -/
def inFragmentSet (c : Char) : Bool :=
  inControlSet c || c == ' ' || c == '"' || c == '<' || c == '>' || c == '\x60'

/-- What is encoded in a path. -/
def inPathSet (c : Char) : Bool :=
  inFragmentSet c || c == '#' || c == '?' || c == '\x7b' || c == '\x7d'

/-- What is encoded in a user name or a password. -/
def inUserSet (c : Char) : Bool :=
  inPathSet c || c == '/' || c == ':' || c == ';' || c == '=' || c == '@' || c == '[' ||
    c == '\\' || c == ']' || c == '^' || c == '|'

/-- What is encoded in a query; the apostrophe in some schemes only. -/
def inQuerySet (special : Bool) (c : Char) : Bool :=
  inControlSet c || c == ' ' || c == '"' || c == '#' || c == '<' || c == '>' ||
    (special && c == '\'')

def percentOctet (b : UInt8) : List Char :=
  ['%', Text.Hex.upper (b.toNat / 16), Text.Hex.upper (b.toNat % 16)]

/-- A text with the characters of a set encoded. -/
def percentEncode (inSet : Char → Bool) (s : List Char) : List Char :=
  s.flatMap fun c => if inSet c then (Text.Utf8.encodeChar c).flatMap percentOctet else [c]

/-- The octets of a text in which some are encoded. A percent sign without two digits after it
stands for itself. -/
def percentDecode : List Char → List UInt8
  | '%' :: a :: b :: rest =>
    match Text.Hex.value? a, Text.Hex.value? b with
    | some x, some y => (x * 16 + y).toUInt8 :: percentDecode rest
    | _, _ => '%'.toNat.toUInt8 :: percentDecode (a :: b :: rest)
  | c :: rest => Text.Utf8.encodeChar c ++ percentDecode rest
  | [] => []

/-- Whether a character stands for itself in a form. -/
def isFormSafe (c : Char) : Bool :=
  ('a' ≤ c && c ≤ 'z') || ('A' ≤ c && c ≤ 'Z') || Text.Decimal.isDigit c ||
    c == '*' || c == '-' || c == '.' || c == '_'

def formEncode (s : List Char) : List Char :=
  s.flatMap fun c =>
    if isFormSafe c then [c] else if c = ' ' then ['+']
    else (Text.Utf8.encodeChar c).flatMap percentOctet

/-- The fields of a form, in order. -/
def formText (fields : List (String × String)) : List Char :=
  ['&'].intercalate (fields.map fun (k, v) => formEncode k.toList ++ '=' :: formEncode v.toList)

end JobWatch.Url

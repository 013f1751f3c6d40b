import JobWatch.Text.Hex

/-!
# TOML tokens

A document is cut into tokens before its structure is read. The text of a string is decoded here.
Blanks are tokens, since a few places allow none; a run of other characters is a word, whether it
turns out to be a key or a part of a number.
-/

namespace JobWatch.Toml

/-- The smallest part of a document. -/
inductive Token where
  | blank (s : List Char)
  | newline
  | comment
  | equals | comma | dot | openBracket | closeBracket | openBrace | closeBrace
  /-- A string, and whether it may span lines. -/
  | string (multiline : Bool) (text : List Char)
  | word (s : List Char)
deriving DecidableEq, Repr

def isSpace (c : Char) : Bool := c == ' ' || c == '\t'

/-- Whether a character may stand in a comment or a string as it is. -/
def isPrintable (c : Char) : Bool := c == '\t' || (' ' ≤ c && c != '\x7f')

def isWordChar (c : Char) : Bool :=
  !(isSpace c || c == '\n' || c == '\x0d' || c == '#' || c == '=' || c == ',' || c == '.' ||
    c == '[' || c == ']' || c == '\x7b' || c == '\x7d' || c == '"' || c == '\'')

/-! ## Strings -/

/-- The character of an escape by a single letter. -/
def simpleEscape? : Char → Option Char
  | 'b' => some '\x08'
  | 't' => some '\t'
  | 'n' => some '\n'
  | 'f' => some '\x0c'
  | 'r' => some '\x0d'
  | 'e' => some '\x1b'
  | '"' => some '"'
  | '\\' => some '\\'
  | _ => none

/-- The character with the given hexadecimal number. -/
def numbered? (digits : List Char) : Option Char :=
  match Text.Hex.ofDigits? digits with
  | some n => if n.isValidChar then some (Char.ofNat n) else none
  | none => none

/-- The text that a basic string spells, its quotes taken off. -/
def unescape : List Char → Option (List Char)
  | [] => some []
  | '\\' :: 'x' :: a :: b :: rest => do return (← numbered? [a, b]) :: (← unescape rest)
  | '\\' :: 'u' :: a :: b :: c :: d :: rest => do
    return (← numbered? [a, b, c, d]) :: (← unescape rest)
  | '\\' :: 'U' :: a :: b :: c :: d :: e :: f :: g :: h :: rest => do
    return (← numbered? [a, b, c, d, e, f, g, h]) :: (← unescape rest)
  | '\\' :: c :: rest => do return (← simpleEscape? c) :: (← unescape rest)
  | c :: rest => if c = '\\' then none else (unescape rest).map (c :: ·)

/-- A basic string up to its closing quote, and what follows that. -/
def basicExtent : List Char → Option (List Char × List Char)
  | [] => none
  | '"' :: rest => some ([], rest)
  | '\\' :: c :: rest => (basicExtent rest).map fun (s, r) => ('\\' :: c :: s, r)
  | c :: rest => (basicExtent rest).map fun (s, r) => (c :: s, r)

/-- A literal string up to its closing quote, and what follows that. -/
def literalExtent : List Char → Option (List Char × List Char)
  | [] => none
  | '\'' :: rest => some ([], rest)
  | c :: rest => (literalExtent rest).map fun (s, r) => (c :: s, r)

/-- What a text begins with when a string over several lines ends there: up to two quotes that
belong to the string, and what follows the closing ones. -/
def closing? (quote : Char) (s : List Char) : Option (List Char × List Char) :=
  let n := (s.takeWhile (· == quote)).length
  if n < 3 then none
  else
    let own := min (n - 3) 2
    some (List.replicate own quote, s.drop (own + 3))

/-- A string over several lines up to its closing quotes, and what follows those. Where escapes
count, no quote after a backslash closes it. -/
def linesExtent (quote : Char) (escapes : Bool) : List Char → Option (List Char × List Char)
  | [] => none
  | [_] => none
  | c :: d :: rest =>
    match closing? quote (c :: d :: rest) with
    | some found => some found
    | none =>
      if escapes && c == '\\' then
        (linesExtent quote escapes rest).map fun (s, r) => (c :: d :: s, r)
      else (linesExtent quote escapes (d :: rest)).map fun (s, r) => (c :: s, r)

/-- Whether a text of several lines may stand in a string. -/
def printableLines : List Char → Bool
  | [] => true
  | '\x0d' :: rest => rest.head? == some '\n' && printableLines rest
  | c :: rest => (c == '\n' || isPrintable c) && printableLines rest

/-- A text without the end of a line that it begins with. -/
def dropFirstNewline : List Char → List Char
  | '\n' :: rest => rest
  | '\x0d' :: '\n' :: rest => rest
  | s => s

/-- Where the joining of lines stands. -/
inductive Joining where
  | outside
  /-- After a backslash. -/
  | escaped
  /-- After a backslash and blanks; the line has to end. -/
  | ending
  /-- Among the white space after the end of the line. -/
  | joining
deriving DecidableEq, Repr

/-- One character of a text whose lines are joined: what is left of it. -/
def Joining.next (j : Joining) (c : Char) : Option (List Char × Joining) :=
  let plain : List Char × Joining := if c = '\\' then ([], .escaped) else ([c], .outside)
  let white := isSpace c || c == '\x0d'
  match j with
  | .outside => some plain
  | .escaped =>
    if c = '\n' then some ([], .joining)
    else if white then some ([], .ending)
    else some (['\\', c], .outside)
  | .ending => if c = '\n' then some ([], .joining) else if white then some ([], .ending) else none
  | .joining => if c = '\n' || white then some ([], .joining) else some plain

/-- A text whose lines are joined where one ends in a backslash. -/
def joinLines : Joining → List Char → Option (List Char)
  | .escaped, [] => none
  | .ending, [] => none
  | _, [] => some []
  | j, c :: rest => do
    let (s, j) ← j.next c
    return s ++ (← joinLines j rest)

/-- A token from what has been found of it, if its text is in order. -/
def stringToken (multiline : Bool) (read : List Char → Option (List Char))
    (found : Option (List Char × List Char)) : Option (Token × List Char) := do
  let (raw, rest) ← found
  let text ← if (if multiline then printableLines raw else raw.all isPrintable) then read raw else none
  return (.string multiline text, rest)

/-- The string at the start of a text, after its first quote. -/
def scanString : Char → List Char → Option (Token × List Char)
  | '"', '"' :: '"' :: rest =>
    stringToken true (fun raw => (joinLines .outside (dropFirstNewline raw)).bind unescape)
      (linesExtent '"' true rest)
  | '"', rest => stringToken false unescape (basicExtent rest)
  | _, '\'' :: '\'' :: rest =>
    stringToken true (some ∘ dropFirstNewline) (linesExtent '\'' false rest)
  | _, rest => stringToken false some (literalExtent rest)

/-! ## Tokens -/

/-- The token that starts with a given character, and what follows it. -/
def scanToken (c : Char) (rest : List Char) : Option (Token × List Char) :=
  match c with
  | '\n' => some (.newline, rest)
  | '\x0d' => match rest with
    | '\n' :: r => some (.newline, r)
    | _ => none
  | '=' => some (.equals, rest)
  | ',' => some (.comma, rest)
  | '.' => some (.dot, rest)
  | '[' => some (.openBracket, rest)
  | ']' => some (.closeBracket, rest)
  | '{' => some (.openBrace, rest)
  | '}' => some (.closeBrace, rest)
  | '"' => scanString '"' rest
  | '\'' => scanString '\'' rest
  | '#' => some (.comment, rest.dropWhile isPrintable)
  | c =>
    if isSpace c then some (.blank (c :: rest.takeWhile isSpace), rest.dropWhile isSpace)
    else some (.word (c :: rest.takeWhile isWordChar), rest.dropWhile isWordChar)

/-- The tokens of a document, given at least as much fuel as it has characters. -/
def tokensWithin : Nat → List Char → Option (List Token)
  | _, [] => some []
  | 0, _ :: _ => none
  | fuel + 1, c :: rest =>
    (scanToken c rest).bind fun (t, r) => (tokensWithin fuel r).map (t :: ·)

/-- The tokens of a document, or none where some part of it is no token. A byte order mark at its
start is dropped. -/
def tokens? (s : List Char) : Option (List Token) :=
  match s with
  | '\uFEFF' :: rest => tokensWithin rest.length rest
  | _ => tokensWithin s.length s

end JobWatch.Toml

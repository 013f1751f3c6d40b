import JobWatch.Text.Decimal
import JobWatch.Text.Hex
import JobWatch.Toml.Value

/-!
# Writing TOML

A document of tables with plain values. A string is written in the first of these forms that holds it
without an escape: basic, literal, basic over several lines, literal over several lines; and with
escapes, as a basic string, when none does.
-/

namespace JobWatch.Toml

/-- A value that can be written. -/
inductive Literal where
  | string (s : String)
  | integer (n : Int)
  | boolean (b : Bool)
deriving DecidableEq, Repr

/-- The value that a literal reads as. -/
def Literal.value : Literal → Value
  | .string s => .string s
  | .integer n => .integer n
  | .boolean b => .boolean b

/-! ## Strings -/

/-- The form of a written string. -/
inductive Quoting where
  | basic | literal | basicLines | literalLines
deriving DecidableEq, Repr

/-- Whether a character is a control character other than a tab or a line feed. -/
def needsCode (c : Char) : Bool := (c < ' ' && c != '\t' && c != '\n') || c == '\x7f'

/-- The length of the longest run of a character, where `run` of them come right before. -/
def longestRun (q : Char) (run : Nat) : List Char → Nat
  | [] => run
  | c :: rest => if c = q then longestRun q (run + 1) rest else max run (longestRun q 0 rest)

/-- The form in which a string is written. -/
def Quoting.of (s : List Char) : Quoting :=
  let coded := s.any needsCode
  let backslash := s.contains '\\'
  let newline := s.contains '\n'
  let doubles := longestRun '"' 0 s
  let singles := longestRun '\'' 0 s
  if !coded && !backslash && doubles = 0 && !newline then .basic
  else if !coded && singles = 0 && !newline then .literal
  else if !coded && !backslash && doubles ≤ 2 then .basicLines
  else if !coded && singles ≤ 2 then .literalLines
  else if newline then .basicLines
  else .basic

/-- The escape of a character that cannot stand as it is. -/
def escapeChar (c : Char) : List Char :=
  match c with
  | '\x08' => ['\\', 'b']
  | '\t' => ['\\', 't']
  | '\n' => ['\\', 'n']
  | '\x0c' => ['\\', 'f']
  | '\x0d' => ['\\', 'r']
  | '"' => ['\\', '"']
  | '\\' => ['\\', '\\']
  | c => ['\\', 'u', '0', '0', Text.Hex.upper (c.toNat / 16), Text.Hex.upper (c.toNat % 16)]

/-- Whether a character has to be escaped in a basic string. -/
def needsEscape (lines : Bool) (c : Char) : Bool :=
  needsCode c || c == '\t' || c == '\\' || (c == '\n' && !lines)

/-- The inside of a basic string. So many quotes as `limit` may follow one another; `run` of them
come right before. -/
def escapeFrom (lines : Bool) (limit run : Nat) : List Char → List Char
  | [] => []
  | c :: rest =>
    if c = '"' then
      if limit ≤ run then escapeChar c ++ escapeFrom lines limit 0 rest
      else c :: escapeFrom lines limit (run + 1) rest
    else if needsEscape lines c then escapeChar c ++ escapeFrom lines limit 0 rest
    else c :: escapeFrom lines limit 0 rest

/-- A string as it is written. One over several lines starts on a line of its own. -/
def quoted (s : List Char) : List Char :=
  let opening := if s.contains '\n' then ['\n'] else []
  match Quoting.of s with
  | .basic => '"' :: escapeFrom false 0 0 s ++ ['"']
  | .literal => '\'' :: s ++ ['\'']
  | .basicLines => '"' :: '"' :: '"' :: opening ++ escapeFrom true 2 0 s ++ ['"', '"', '"']
  | .literalLines => '\'' :: '\'' :: '\'' :: opening ++ s ++ ['\'', '\'', '\'']

/-! ## Documents -/

def Literal.text : Literal → List Char
  | .string s => quoted s.toList
  | .integer n => (Text.Decimal.ofInt n).toList
  | .boolean b => if b then "true".toList else "false".toList

/-- A member of a table on a line of its own. -/
def memberLine (m : String × Literal) : List Char := m.1.toList ++ " = ".toList ++ m.2.text ++ ['\n']

def section' (t : String × List (String × Literal)) : List Char :=
  '[' :: t.1.toList ++ "]\n".toList ++ t.2.flatMap memberLine

def document (ts : List (String × List (String × Literal))) : List Char :=
  ['\n'].intercalate (ts.map section')

end JobWatch.Toml

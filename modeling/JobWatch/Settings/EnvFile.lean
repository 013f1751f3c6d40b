import JobWatch.Settings.Environment
import JobWatch.Text.Alphanumeric

/-!
# Files of variables

A file named `.env`, in the working directory or the nearest one above it, adds variables to the
environment; those that are there already stay as they are. Each line has a name, an equals sign and
a value. In a value single quotes keep everything as it is, double quotes keep blanks, a backslash
keeps one character, and a dollar sign puts in the value of another variable. A quoted value may go
on over several lines. At the first line that cannot be read, reading stops.
-/

namespace JobWatch.EnvFile

/-! ## Lines -/

/-- Where in a value the end of a line is looked for. -/
inductive Quoting where
  | plain | blank | escape | weak | weakEscape | strong | strongEscape | comment
deriving DecidableEq, Repr

/-- What a character outside of quotes begins, if anything. -/
def Quoting.ofChar (c : Char) : Quoting :=
  if c = '\\' then .escape else if c = '"' then .weak else if c = '\'' then .strong else .plain

/-- One character further. -/
def Quoting.next (q : Quoting) (c : Char) : Quoting :=
  match q with
  | .blank => if c = '#' then .comment else ofChar c
  | .plain => if Text.isBlank c && c ≠ '\n' && c ≠ '\x0d' then .blank else ofChar c
  | .escape => .plain
  | .weak => if c = '\\' then .weakEscape else if c = '"' then .plain else .weak
  | .weakEscape => .weak
  | .strong => if c = '\\' then .strongEscape else if c = '\'' then .plain else .strong
  | .strongEscape => .strong
  | .comment => .comment

/-- The text without the characters from the start of a comment on, and where it ends. -/
def cutComment (q : Quoting) : List Char → List Char × Quoting
  | [] => ([], q)
  | c :: rest =>
    let q := q.next c
    if q = .comment then ([], q)
    else
      let (kept, q) := cutComment q rest
      (c :: kept, q)

def chomp (line : List Char) : List Char :=
  match line.reverse with
  | '\n' :: '\x0d' :: rest | '\n' :: rest => rest.reverse
  | _ => line

/-- The lines of a text, each with its end. -/
def physicalLines (s : List Char) : List (List Char) :=
  s.foldr (fun c lines =>
    match lines with
    | [] => [[c]]
    | l :: ls => if c = '\n' then [c] :: l :: ls else (c :: l) :: ls) []

/-- The lines of a file, where a quoted value holds several lines together; `none` stands for a
value that never ends. -/
def logicalLines (before : List Char) (q : Quoting) : List (List Char) → List (Option (List Char))
  | [] => if q = .plain then [] else [none]
  | line :: rest =>
    let whole := before ++ line
    if (Text.skipBlanks whole).head? = some '#' then some [] :: logicalLines [] .plain rest
    else
      let (kept, q) := cutComment q line
      if q = .comment then some (before ++ kept) :: logicalLines [] .plain rest
      else if q = .plain then some (chomp whole) :: logicalLines [] .plain rest
      else logicalLines whole q rest

/-! ## Values -/

/-- How the name of another variable is being read. -/
inductive Naming where
  | no | bare | braced
deriving DecidableEq, Repr

/-- The state of reading a value. -/
structure Reader where
  /-- What has been read, last character first. -/
  done : List Char
  strong : Bool
  weak : Bool
  escaped : Bool
  /-- Whether the value is over, and only a comment may follow. -/
  ended : Bool
  naming : Naming
  /-- The name that is being read, last character first. -/
  name : List Char
deriving Repr

def Reader.start : Reader := ⟨[], false, false, false, false, .no, []⟩

/-- Puts in the value of the variable whose name was read. -/
def Reader.substitute (value : String → String) (r : Reader) : Reader :=
  { r with
    done := (value (String.ofList r.name.reverse)).toList.reverse ++ r.done
    naming := .no
    name := [] }

/-- Takes a character in. -/
def Reader.keep (r : Reader) (c : Char) : Reader := { r with done := c :: r.done }

/-- One character of a value; `none` if it cannot stand there. -/
def Reader.next? (value : String → String) (r : Reader) (c : Char) : Option Reader :=
  if r.escaped then
    let r := { r with escaped := false }
    if c = '\\' || c = '\'' || c = '"' || c = '$' || c = ' ' then some (r.keep c)
    else if c = 'n' then some (r.keep '\n')
    else none
  else if r.strong then
    if c = '\'' then some { r with strong := false } else some (r.keep c)
  else
    match r.naming with
    | .bare =>
      if Text.isAlphanumeric c then some { r with name := c :: r.name }
      else if c = '\x7b' && r.name.isEmpty then some { r with naming := .braced }
      else
        let r := r.substitute value
        if c = '$' then some { r with naming := .bare } else some (r.keep c)
    | .braced =>
      if Text.isAlphanumeric c then some { r with name := c :: r.name }
      else if c = '\x7d' then some (r.substitute value)
      else some { r with name := c :: r.name }
    | .no =>
      if c = '$' then some { r with naming := .bare }
      else if r.weak then
        if c = '"' then some { r with weak := false }
        else if c = '\\' then some { r with escaped := true }
        else some (r.keep c)
      else if c = '\'' then some { r with strong := true }
      else if c = '"' then some { r with weak := true }
      else if c = '\\' then some { r with escaped := true }
      else if c = ' ' || c = '\t' then some { r with ended := true }
      else some (r.keep c)

/-- The value that a text is, read on from some state. -/
def readValue? (value : String → String) (r : Reader) : List Char → Option String
  | [] =>
    if r.naming = .braced || r.strong || r.weak then none
    else some (String.ofList (r.substitute value).done.reverse)
  | c :: rest =>
    if r.ended then
      if c = ' ' || c = '\t' then readValue? value r rest
      else if c = '#' then readValue? value r []
      else none
    else (r.next? value c).bind fun r => readValue? value r rest

/-! ## Lines of a file -/

/-- Whether a character may begin a name. -/
def isNameStart (c : Char) : Bool :=
  ('a' ≤ c && c ≤ 'z') || ('A' ≤ c && c ≤ 'Z') || c == '_'

/-- Whether a character may stand in a name. -/
def isNameChar (c : Char) : Bool := isNameStart c || ('0' ≤ c && c ≤ '9') || c == '.'

/-- The name at the start of a text, and the rest after blanks. -/
def splitName? (s : List Char) : Option (String × List Char) :=
  if s.head?.any isNameStart then
    some (String.ofList (s.takeWhile isNameChar), Text.skipBlanks (s.dropWhile isNameChar))
  else none

/-- What follows an equals sign. -/
def afterEquals? : List Char → Option (List Char)
  | '=' :: rest => some rest
  | _ => none

/-- The name and the text of the value in a line; a word `export` may stand before them. -/
def splitLine? (s : List Char) : Option (String × List Char) := do
  let (name, rest) ← splitName? s
  match afterEquals? rest with
  | some value => some (name, Text.skipBlanks value)
  | none =>
    if name = "export" then
      let (name, rest) ← splitName? rest
      let value ← afterEquals? rest
      some (name, Text.skipBlanks value)
    else none

/-- The value of a variable as it is put into another one: that of the environment, or the one that
was read last. -/
def lookUp (env read : Environment) (name : String) : String :=
  ((env.lookup name).or (read.lookup name)).getD ""

/-- Adds the variables of some lines to those of the environment; `read` holds all that was read,
last first. -/
def load (env read : Environment) : List (Option (List Char)) → Environment
  | [] => env
  | none :: _ => env
  | some line :: rest =>
    let s := Text.skipBlanks (Text.trimEnd Text.isBlank line)
    if s.isEmpty || s.head? = some '#' then load env read rest
    else
      match splitLine? s with
      | none => env
      | some (name, text) =>
        let value :=
          if text.isEmpty || text.head? = some '#' then some ""
          else readValue? (lookUp env read) .start text
        match value with
        | none => env
        | some value =>
          let env := if (env.lookup name).isSome then env else env ++ [(name, value)]
          load env ((name, value) :: read) rest

/-- The environment with the variables of a file. A mark at the start of the file is skipped. -/
def extend (env : Environment) (text : String) : Environment :=
  let s := match text.toList with
    | '\uFEFF' :: rest => rest
    | s => s
  load env [] (logicalLines [] .plain (physicalLines s))

def fileName : String := ".env"

/-- The text of the file in a directory, if there is one. -/
def textIn? (files : FileTree) (directory : List String) : Option String :=
  match files.kind (directory ++ [fileName]) with
  | .file text => some text
  | _ => none

/-- The text of the nearest file from a directory upwards, whose names are given last first. -/
def nearest? (files : FileTree) : List String → Option String
  | [] => textIn? files []
  | name :: above => (textIn? files (name :: above).reverse).or (nearest? files above)

/-- The text of the nearest file from a working directory upwards. -/
def find? (files : FileTree) (cwd : FilePath) : Option String :=
  nearest? files (FilePath.names cwd).reverse

/-- The environment with the variables of the nearest file, if there is one. -/
def extendFrom (files : FileTree) (cwd : FilePath) (env : Environment) : Environment :=
  match find? files cwd with
  | some text => extend env text
  | none => env

/-- Where a file is looked for from a working directory on. -/
def places (cwd : FilePath) : List (List String) :=
  (FilePath.places "/" cwd).map (· ++ [fileName])

/-- What may be the name of a variable in a text. -/
def mentioned (text : String) : List String :=
  (text.split fun c => !(c.isAlphanum || c == '_')).toList.map (·.toString)

end JobWatch.EnvFile

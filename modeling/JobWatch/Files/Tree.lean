/-!
# Files and directories

A tree of text files. A path is absolute when it starts with a slash, and otherwise leads on from a
working directory. A directory exists when it was made or when something lies in it; the root always
exists.
-/

namespace JobWatch

/-- Why a file cannot be read or written. -/
inductive FileError where
  | notFound | isDirectory | notDirectory | exists | denied | notText
deriving DecidableEq, Repr

/-- What the operating system says of the error. -/
def FileError.message : FileError → String
  | .notFound => "No such file or directory (os error 2)"
  | .isDirectory => "Is a directory (os error 21)"
  | .notDirectory => "Not a directory (os error 20)"
  | .exists => "File exists (os error 17)"
  | .denied => "Permission denied (os error 13)"
  | .notText => "stream did not contain valid UTF-8"

/-- A tree of files: the names that lead to each, and its text. An entry without a text is a
directory. -/
structure FileTree where
  entries : List (List String × Option String)
deriving DecidableEq, Repr

/-- Paths as they are written. -/
abbrev FilePath := String

namespace FilePath

def isAbsolute (p : FilePath) : Bool := p.startsWith "/"

def names (p : FilePath) : List String := (p.splitOn "/").filter fun n => n ≠ "" && n ≠ "."

/-- A path that leads on from another one. -/
def join (p q : FilePath) : FilePath :=
  if isAbsolute q then q else if p.isEmpty || p.endsWith "/" then p ++ q else p ++ "/" ++ q

/-- The path that leads from the root along some names. -/
def ofNames (names : List String) : FilePath := "/" ++ "/".intercalate names

/-- The places that a path leads through, each as names from the root. -/
def places (cwd p : FilePath) : List (List String) :=
  go (if isAbsolute p then [] else names cwd) (names p)
where
  go (at' : List String) : List String → List (List String)
    | [] => [at']
    | n :: ns => at' :: go (if n = ".." then at'.dropLast else at' ++ [n]) ns

/-- A path, last character first, without what adds nothing at its end: slashes, and steps to the
same directory. The root and a lone step stay. -/
def trimReversed : List Char → List Char
  | ['/'] => ['/']
  | '/' :: rest => trimReversed rest
  | '.' :: '/' :: rest => trimReversed ('/' :: rest)
  | s => s

/-- The path without its last name; none for the root and for no path at all. -/
def parent? (p : FilePath) : Option FilePath :=
  match trimReversed p.toList.reverse with
  | [] | ['/'] => none
  | s => some (String.ofList (trimReversed (s.dropWhile (· ≠ '/'))).reverse)

/-- The last name of a path; none if that is no name. -/
def fileName? (p : FilePath) : Option String :=
  match (names p).getLast? with
  | none => none
  | some n => if n = ".." then none else some n

end FilePath

namespace FileTree

/-- What lies at a place. -/
inductive Kind where
  | file (text : String)
  | directory
  | missing
deriving DecidableEq, Repr

/-- What lies where some names lead from the root. -/
def kind (t : FileTree) (names : List String) : Kind :=
  match t.entries.lookup names with
  | some (some text) => .file text
  | some none => .directory
  | none =>
    if names.isEmpty || t.entries.any (fun e => names.isPrefixOf e.1) then .directory else .missing

/-- Follows names from a directory; all but the last have to lead to directories. -/
def follow (t : FileTree) : List String → List String → Except FileError (List String)
  | at', [] => .ok at'
  | at', n :: ns =>
    match t.kind at' with
    | .file _ => .error .notDirectory
    | .missing => .error .notFound
    | .directory => follow t (if n = ".." then at'.dropLast else at' ++ [n]) ns

/-- The names from the root that a path stands for. -/
def locate (t : FileTree) (cwd p : FilePath) : Except FileError (List String) :=
  t.follow (if FilePath.isAbsolute p then [] else FilePath.names cwd) (FilePath.names p)

/-- What lies at a path. -/
def kindAt (t : FileTree) (cwd p : FilePath) : Kind :=
  match t.locate cwd p with
  | .ok names => t.kind names
  | .error _ => .missing

def isFile (t : FileTree) (cwd p : FilePath) : Bool :=
  match t.kindAt cwd p with
  | .file _ => true
  | _ => false

def pathExists (t : FileTree) (cwd p : FilePath) : Bool := t.kindAt cwd p ≠ .missing

def read (t : FileTree) (cwd p : FilePath) : Except FileError String := do
  match t.kind (← t.locate cwd p) with
  | .file text => .ok text
  | .directory => .error .isDirectory
  | .missing => .error .notFound

/-- The tree with an entry in place of what was there. -/
def put (t : FileTree) (names : List String) (text : Option String) : FileTree :=
  ⟨(names, text) :: t.entries.filter (·.1 ≠ names)⟩

/-- Makes a directory, and those it lies in. -/
def createDirectories (t : FileTree) (cwd p : FilePath) : Except FileError FileTree :=
  let start := if FilePath.isAbsolute p then [] else FilePath.names cwd
  go t start (FilePath.names p)
where
  go (t : FileTree) (at' : List String) : List String → Except FileError FileTree
    | [] => .ok t
    | n :: ns =>
      let next := if n = ".." then at'.dropLast else at' ++ [n]
      match t.kind next with
      | .file _ => .error (if ns.isEmpty then .exists else .notDirectory)
      | .directory => go t next ns
      | .missing => go (t.put next none) next ns

def write (t : FileTree) (cwd p : FilePath) (text : String) : Except FileError FileTree := do
  let names ← t.locate cwd p
  match t.kind names with
  | .directory => .error .isDirectory
  | _ => .ok (t.put names (some text))

/-- What was put into a tree since it was another one, first things first. -/
def since (t old : FileTree) : List (List String × Option String) :=
  (t.entries.filter fun e => !old.entries.contains e).reverse

end FileTree

/-- What can be asked about files from a working directory: whether a path leads to a file, and for
the text there. A file need not be one that can be read, and not only files can be. -/
structure FileView where
  isFile : FilePath → Bool
  read : FilePath → Except FileError String

/-- A tree as it is seen from a working directory. -/
def FileTree.view (t : FileTree) (cwd : FilePath) : FileView := ⟨t.isFile cwd, t.read cwd⟩

end JobWatch

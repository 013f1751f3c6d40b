import JobWatch.Settings.Environment
import JobWatch.Settings.Schema
import JobWatch.Url.Parser

/-!
# Layers of settings

The settings that count are made in layers: what is standard, then the file, then the variables of
the environment, then what was given on the command line. A layer changes what it names and leaves
the rest alone.

Of three files one is read: the one that was asked for, even if it is missing; else that of the
project in the working directory; else that of the user.
-/

namespace JobWatch

/-- What was given on the command line. -/
structure Overrides where
  configPath : Option FilePath
  apiUrl : Option String
  token : Option String
  verbose : Bool
  jsonLogs : Bool
deriving DecidableEq, Repr

/-- Nothing was given. -/
def Overrides.none : Overrides := ⟨.none, .none, .none, false, false⟩

/-- Why a file holds no settings. -/
inductive LoadError where
  /-- It cannot be read. -/
  | unreadable (path : FilePath) (cause : FileError)
  /-- What it says is not understood. -/
  | invalid (path : FilePath) (cause : SettingsError)
deriving DecidableEq, Repr

namespace LoadError

def message : LoadError → String
  | unreadable path _ => "Failed to read config file: " ++ path
  | invalid path _ => "Invalid config file: " ++ path

/-- What is said of a key that is not known. -/
def detail? : LoadError → Option String
  | unreadable _ _ => none
  | invalid _ cause => cause.detail?

end LoadError

def SettingsError.message : String := "Failed to parse buildwatch config"

namespace Settings

/-- The settings with what the environment says. -/
def withEnvironment (s : Settings) (env : Environment) : Settings where
  api := { s.api with
    baseUrl := (env.filled? Environment.apiUrl).getD s.api.baseUrl
    token := (env.filled? Environment.token).or s.api.token }
  timing := s.timing
  logging := { s.logging with level := (env.filled? Environment.level).getD s.logging.level }

/-- The settings with what the command line says. -/
def withOverrides (s : Settings) (o : Overrides) : Settings where
  api := { s.api with baseUrl := o.apiUrl.getD s.api.baseUrl, token := o.token.or s.api.token }
  timing := s.timing
  logging := { s.logging with
    level := if o.verbose then "debug" else s.logging.level
    json := o.jsonLogs || s.logging.json }

/-- The project's file of settings, in a working directory. -/
def projectPath (cwd : FilePath) : FilePath :=
  FilePath.join (FilePath.join cwd ".buildwatch") "config.toml"

/-- The user's file of settings, in the directory of the user's settings. -/
def userPath (directory : FilePath) : FilePath :=
  FilePath.join (FilePath.join directory "buildwatch") "config.toml"

/-- The file to read, for a user whose settings are in the directory `user`, if there is one. -/
def discover? (view : FileView) (user : Option FilePath) (cwd : FilePath)
    (asked : Option FilePath) : Option FilePath :=
  match asked with
  | some path => some path
  | none =>
    if view.isFile (projectPath cwd) then some (projectPath cwd)
    else (user.map userPath).filter view.isFile

def load (view : FileView) (path : FilePath) : Except LoadError Settings :=
  match view.read path with
  | .error e => .error (.unreadable path e)
  | .ok text =>
    match parse text with
    | .error e => .error (.invalid path e)
    | .ok s => .ok s

/-- The settings that count, as far as the files are seen, and the file that was read for them. -/
def resolveIn (view : FileView) (user : Option FilePath) (env : Environment) (cwd : FilePath)
    (o : Overrides) : Except LoadError (Settings × Option FilePath) :=
  let path := discover? view user cwd o.configPath
  let base := match path with
    | some path => load view path
    | none => .ok standard
  base.map fun s => ((s.withEnvironment env).withOverrides o, path)

/-- The settings that count in a tree of files, which has no account of the user in it. -/
def resolve (files : FileTree) (env : Environment) (cwd : FilePath) (o : Overrides) :
    Except LoadError (Settings × Option FilePath) :=
  resolveIn (files.view cwd) (env.configDirectory? none) env cwd o

/-- What is wrong with settings that are still used. -/
def warnings (s : Settings) : List String :=
  (if (Url.parse? s.api.baseUrl).isNone then ["Invalid api.base_url '" ++ s.api.baseUrl ++ "'"]
    else []) ++
  (if s.api.token.isNone then
    ["No API token configured (set api.token or " ++ Environment.token ++ ")"] else []) ++
  (if s.timing.resumeMaxAttempts = 0 then
    ["timing.resume_max_attempts is 0; resume will never be attempted"] else []) ++
  (if s.timing.backfillLimit = 0 then
    ["timing.backfill_limit is 0; earlier logs cannot be loaded"] else [])

end Settings

/-- The user's file of settings where the user's account is not known. -/
def Environment.userPath? (env : Environment) : Option FilePath :=
  (env.configDirectory? none).map Settings.userPath

end JobWatch

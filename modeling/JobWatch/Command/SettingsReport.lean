import JobWatch.Command.Report
import JobWatch.Settings.Layers

/-!
# Commands about settings

The settings that count can be shown and checked, and a file with the standard settings can be
written. A file that is there is overwritten only on demand.
-/

namespace JobWatch

/-- What a file operation comes to, with what is said when it fails. -/
def FileError.orFailure {α : Type} (message : String) : Except FileError α → Except Failure α
  | .ok a => .ok a
  | .error e => .error ⟨message, [e.message]⟩

namespace LoadError

/-- What came before the error, nearest first. -/
def causes : LoadError → List String
  | unreadable _ cause => [cause.message]
  | invalid _ cause => SettingsError.message :: cause.detail?.toList

/-- The failure of a command that finds no settings. -/
def failure (e : LoadError) : Failure := ⟨e.message, e.causes⟩

end LoadError

namespace Settings

def warningReport (s : Settings) : List String :=
  if s.warnings.isEmpty then [] else "Warnings:" :: s.warnings.map ("  - " ++ ·)

def report (s : Settings) (path : Option FilePath) : List String :=
  ["", "Buildwatch Configuration", "========================", "",
    match path with
    | some path => "Config file: " ++ path
    | none => "No config file found; using defaults",
    "Effective values (file, env and CLI overrides applied):", "", s.redacted.text] ++
  s.warningReport

def checkReport (s : Settings) : List String :=
  if s.warnings.isEmpty then ["Configuration is valid"] else s.warningReport

/-- Writes settings to a file, and makes the directories that lead to it. -/
def save (s : Settings) (files : FileTree) (cwd path : FilePath) : Except Failure FileTree := do
  let files ← match (FilePath.parent? path).filter (· ≠ "") with
    | some directory =>
      FileError.orFailure ("Failed to create directory: " ++ directory)
        (files.createDirectories cwd directory)
    | none => .ok files
  FileError.orFailure ("Failed to write config file: " ++ path) (files.write cwd path s.text)

/-- Writes the standard settings to a file, that of the project if no other is asked for. -/
def init (files : FileTree) (cwd : FilePath) (asked : Option FilePath) (force : Bool) :
    Except Failure (FileTree × List String) :=
  let path := asked.getD (projectPath cwd)
  if files.pathExists cwd path && !force then .ok (files, ["Init cancelled"])
  else (standard.save files cwd path).map fun files =>
    (files, ["Wrote default configuration to " ++ path])

end Settings

namespace LoggingSettings

/-- Makes the directory of the file that reports go to. -/
def prepare (s : LoggingSettings) (files : FileTree) (cwd : FilePath) : Except Failure FileTree :=
  match s.file with
  | none => .ok files
  | some path =>
    let directory := ((FilePath.parent? path).filter (· ≠ "")).getD "."
    if (FilePath.fileName? path).isNone then .error (.plain "Log file path has no file name")
    else
      FileError.orFailure ("Failed to create log directory: " ++ directory)
        (files.createDirectories cwd directory)

end LoggingSettings

end JobWatch

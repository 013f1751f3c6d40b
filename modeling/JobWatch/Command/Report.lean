import JobWatch.Display.LogLine
import JobWatch.Display.Message

/-!
# What a command says

A command says things while it runs, and ends well or badly. What is said is kept as what it is
about; the lines for a terminal are made of that at the very end.
-/

namespace JobWatch

/-- Why a command failed: what went wrong, and what that came of, nearest first. -/
structure Failure where
  message : String
  causes : List String
deriving DecidableEq, Repr

namespace Failure

/-- A failure that came of nothing else. -/
def plain (message : String) : Failure := ⟨message, []⟩

/-- A text whose further lines are indented. -/
def indented (columns : Nat) (s : String) : String :=
  ("\n" ++ String.ofList (List.replicate columns ' ')).intercalate (s.splitOn "\n")

/-- The causes, numbered if there are several. -/
def causeLines (causes : List String) : List String :=
  match causes with
  | [cause] => ["    " ++ indented 4 cause]
  | _ => causes.mapIdx fun i cause => "    " ++ Text.Decimal.text i ++ ": " ++ indented 7 cause

def text (f : Failure) : String :=
  "Error: " ++ f.message ++ "\n" ++
    if f.causes.isEmpty then ""
    else "\n" ++ "\n".intercalate ("Caused by:" :: causeLines f.causes) ++ "\n"

end Failure

/-- How a command ends. -/
inductive Ending where
  | success
  | failure (f : Failure)
  /-- It was stopped from outside before it could end by itself. -/
  | stopped
deriving DecidableEq, Repr

/-- The code that the program ends with. -/
def Ending.code : Ending → Nat
  | success => 0
  | failure _ => 1
  | stopped => 130

/-- Something that a command says. -/
inductive Said where
  | text (s : String)
  | logLine (line : LogLine)
  | autoFix (attempt max : Option Nat)
  | warning (s : String)
  /-- The last word, on success or failure. -/
  | summary (good : Bool) (s : String)
  /-- The status of a job, and the seconds that remain to its sandbox. -/
  | status (job : String) (remaining : Option Int) (r : StatusResponse)
deriving DecidableEq, Repr

namespace Display

/-- A label and what it labels, if there is anything. -/
def labelled (label : String) (value : Option String) : List String :=
  (value.map fun v => "  " ++ label ++ v).toList

/-- The state of a sandbox. -/
def sandbox? (remaining? : Option Int) (paused : Bool) : Option String :=
  match remaining?, paused with
  | some s, true => some ("paused, expires in " ++ remaining s)
  | some s, false => some ("expires in " ++ remaining s)
  | none, true => some "paused"
  | none, false => none

def status (p : Palette) (job : String) (remaining? : Option Int) (r : StatusResponse) :
    List String :=
  ["", "Job " ++ p.paint [.bold] job,
    "  Status:   " ++ p.paint [.cyan] r.status.name ++ " (" ++
      Text.Decimal.text (r.status.stageIndex + 1) ++ "/" ++
      Text.Decimal.text JobStatus.stages.length ++ ")"] ++
  labelled "Stage:    " (if r.stageLabel.isEmpty then none else some r.stageLabel) ++
  labelled "Version:  " r.buildVersion ++
  labelled "Preview:  " r.previewUrl ++
  labelled "Sandbox:  " (sandbox? remaining? r.sandboxPaused) ++
  labelled "Error:    " (r.errorMessage.map (p.paint [.red])) ++
  labelled "Debug id: " r.debugId ++ [""]

end Display

def Said.lines (p : Display.Palette) (columns : Nat) : Said → List String
  | text s => [s]
  | logLine line => [Display.logLine p columns line]
  | autoFix attempt max => (Display.autoFix p attempt max).toList
  | warning s => [p.icon .warning ++ p.paint [.yellow] s]
  | summary good s =>
    [p.icon (if good then .check else .cross) ++ p.paint [if good then .green else .red, .bold] s]
  | status job remaining? r => Display.status p job remaining? r

end JobWatch

import JobWatch.Display.Icon
import JobWatch.Preview.State
import JobWatch.Status.Tracker

/-!
# Messages

One line each on the stage of a job, on an attempt at fixing it and on its preview.
-/

namespace JobWatch.Display

/-- A span of time by its two largest units. A span below zero counts as none. -/
def remaining (seconds : Int) : String :=
  let s := seconds.toNat
  let unit (n : Nat) (u : String) := Text.Decimal.text n ++ u
  if 3600 ≤ s then unit (s / 3600) "h" ++ " " ++ unit (s % 3600 / 60) "m"
  else if 60 ≤ s then unit (s / 60) "m" ++ " " ++ unit (s % 60) "s"
  else unit s "s"

/-- The label of a stage, or its name when it has none. -/
def stageLabel (t : Tracker) : String := if t.label.isEmpty then t.status.name else t.label

def stage (p : Palette) (t : Tracker) : String :=
  if t.connectionFailed then
    p.icon .offline ++ p.paint [.yellow] "Connection lost, retrying..."
  else if !t.hasData then p.paint [.dim] "Waiting for status..."
  else
    match t.status with
    | .failed =>
      p.icon .cross ++ p.paint [.red] (stageLabel t) ++
        (t.error.map fun e => ": " ++ e).getD "" ++
        (t.debugId.map fun id => " " ++ p.paint [.dim] ("(debug id " ++ id ++ ")")).getD ""
    | .ready => p.paint [.green] (stageLabel t)
    | _ => stageLabel t

def autoFix (p : Palette) (attempt max : Option Nat) : Option String :=
  attempt.map fun n =>
    p.icon .autoFix ++ p.paint [.yellow]
      ("Auto-fix attempt " ++ Text.Decimal.text n ++
        (max.map fun m => " of " ++ Text.Decimal.text m).getD "")

def preview (p : Palette) (s : PreviewState) : String :=
  let url := s.activePreviewUrl.getD "-"
  match s.phase with
  | .checking => p.paint [.dim] "Checking preview..."
  | .loading => p.icon .preview ++ "Loading " ++ url
  | .active =>
    p.icon .preview ++ p.paint [.green] url ++
      (s.timeRemaining.map fun r => " " ++ p.icon .clock ++ remaining r ++ " left").getD ""
  | .blocked =>
    p.icon .blocked ++ "Preview cannot be embedded: " ++ s.blockReason.getD "no reason given"
  | .expired => p.icon .cross ++ p.paint [.red] "Preview sandbox expired"
  | .paused => p.icon .paused ++ "Preview sandbox is paused"
  | .resuming => p.icon .paused ++ "Resuming sandbox..."
  | .resumeFailed =>
    p.icon .cross ++ p.paint [.red] "Could not resume sandbox" ++
      " (" ++ (s.resumeErrorKind.map (·.name)).getD "unknown" ++ ")"
  | .error => p.icon .cross ++ p.paint [.red] (s.errorMessage.getD "Preview failed")

end JobWatch.Display

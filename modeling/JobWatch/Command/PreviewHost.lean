import JobWatch.Command.Report
import JobWatch.Preview.Driver

/-!
# Showing a preview on a terminal

A terminal cannot show a preview. Its host prints where the preview is, opens it in a browser if it
is asked to, and then counts it as loaded. A sandbox that is paused is resumed once; if that fails,
the rest is left to the user. The host reacts to a phase when it is entered.
-/

namespace JobWatch

/-- The host of a preview. -/
structure PreviewHost where
  /-- Whether the preview is opened in a browser. -/
  browse : Bool
  /-- Whether the sandbox was asked to resume. -/
  resumed : Bool
  /-- What was opened last. -/
  opened : Option String
  /-- The phase at the last look. -/
  phase : Option PreviewPhase
deriving DecidableEq, Repr

/-- What a host does about a preview. -/
structure HostReaction where
  said : List Said
  /-- What the driver of the preview is told. -/
  signals : List PreviewDriver.Event
  /-- What the browser is told to open. -/
  opens : List String

namespace PreviewHost

/-- A host that has seen nothing yet. -/
def start (browse : Bool) : PreviewHost := ⟨browse, false, none, none⟩

/-- Shows a preview that is to be loaded. `canOpen` tells what a browser can open. -/
def showPreview (canOpen : String → Bool) (h : PreviewHost) (url : Option String) :
    PreviewHost × HostReaction :=
  match url with
  | none => (h, ⟨[], [.reportError "No preview URL available"], []⟩)
  | some url =>
    let shown : HostReaction := ⟨[.text ("Preview: " ++ url)], [.markLoaded], []⟩
    if h.browse && h.opened ≠ some url then
      if canOpen url then ({ h with opened := some url }, { shown with opens := [url] })
      else (h, ⟨[], [.reportError "Could not open browser"], [url]⟩)
    else (h, shown)

def look (canOpen : String → Bool) (h : PreviewHost) (s : PreviewState) :
    PreviewHost × HostReaction :=
  if h.phase = some s.phase then (h, ⟨[], [], []⟩)
  else
    let h := { h with phase := some s.phase }
    match s.phase with
    | .paused =>
      if h.resumed then (h, ⟨[], [], []⟩)
      else ({ h with resumed := true }, ⟨[.text "Sandbox is paused, resuming..."], [.resume], []⟩)
    | .loading => h.showPreview canOpen s.activePreviewUrl
    | _ => (h, ⟨[], [], []⟩)

/-- Whether nothing more happens in a phase unless the user asks for it. -/
def isSettled : PreviewPhase → Bool
  | .blocked | .expired | .resumeFailed | .error => true
  | _ => false

/-- How following a preview ends, once it does. Only a preview that has expired has been shown. -/
def ending? (job : String) (s : PreviewState) : Option (List Said × Ending) :=
  if isSettled s.phase then
    let good := s.phase = .expired
    some ([.summary good ("Preview " ++ s.phase.name)],
      if good then .success
      else .failure (.plain ("Preview for job " ++ job ++ " ended in " ++ s.phase.name)))
  else none

def notice (remaining : Int) : Said :=
  .warning ("Preview sandbox expires in " ++ Display.remaining remaining)

end PreviewHost

end JobWatch

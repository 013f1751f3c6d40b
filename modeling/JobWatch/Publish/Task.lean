/-!
# Background tasks

A task runs for a set time, or until it is disposed of.
-/

namespace JobWatch

/-- A task and its age. -/
structure BackgroundTask where
  /-- How long the task runs by itself, in milliseconds; `none` is for ever. -/
  duration : Option Nat
  /-- Milliseconds since the task began. -/
  age : Nat
  disposed : Bool
deriving DecidableEq, Repr

namespace BackgroundTask

def spawn (duration : Option Nat) : BackgroundTask := ⟨duration, 0, false⟩

def advance (t : BackgroundTask) (ms : Nat) : BackgroundTask := ⟨t.duration, t.age + ms, t.disposed⟩

/-- Stops the task, for good. -/
def dispose (t : BackgroundTask) : BackgroundTask := ⟨t.duration, t.age, true⟩

def isFinished (t : BackgroundTask) : Bool := t.disposed || t.duration.any (· ≤ t.age)

end BackgroundTask

end JobWatch

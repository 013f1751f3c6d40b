import JobWatch.Wire.Codec

/-!
# Events of the log stream

The three kinds of events that the stream of a build log carries. An event of another kind and a
line that does not decode are dropped; the end of the stream counts even when its payload says
nothing that can be read.
-/

namespace JobWatch

/-- An event of the log stream. -/
inductive StreamEvent where
  /-- A sign of life. -/
  | heartbeat
  | log (line : LogLine)
  /-- The build has ended, if it can be read how. -/
  | done (status : Option DoneStatus)
deriving DecidableEq, Repr

namespace StreamEvent

/-- How the build ended, from the payload of the last event. -/
def doneStatus? (data : String) : Option DoneStatus := do
  let document ← Json.parse? data
  let fields ← document.fields? ["status"]
  fields.required "status" Wire.decode?

/-- The event with a given type and payload. -/
def parse? (event data : String) : Option StreamEvent :=
  if event = "heartbeat" then some .heartbeat
  else if event = "log" then (Wire.ofString? data).map .log
  else if event = "done" then some (.done (doneStatus? data))
  else none

end StreamEvent

end JobWatch

import JobWatch.Command.Report
import JobWatch.Logs.Buffer

/-!
# Printing a log that grows

A log is looked at from time to time, and what is new in it is printed: the lines beyond those that
were printed, and an attempt at fixing that was not reported yet. How often the log is looked at
does not matter, since its lines only grow at the end while it is followed.
-/

namespace JobWatch

/-- What was printed of a log. -/
structure LogPrinter where
  /-- The number of lines. -/
  printed : Nat
  /-- The attempt at fixing. -/
  attempt : Option Nat
deriving DecidableEq, Repr

namespace LogPrinter

def start : LogPrinter := ⟨0, none⟩

def look (p : LogPrinter) (b : LogBuffer) : LogPrinter × List Said :=
  (⟨b.lines.length, b.autoFixAttempt⟩,
    (b.lines.drop p.printed).map .logLine ++
      if b.autoFixAttempt = p.attempt then [] else [.autoFix b.autoFixAttempt b.autoFixMax])

/-- How following a log ends, once it does: by its last event, or because it broke off. -/
def ending? (job : String) (b : LogBuffer) : Option (List Said × Ending) :=
  if b.isDone then
    match b.doneStatus with
    | some .failed => some ([], .failure (.plain ("Build " ++ job ++ " failed")))
    | some .ready => some ([.summary true "Build ready"], .success)
    | none => some ([.summary true "Log stream finished"], .success)
  else if b.isClosed then
    some ([], .failure
      (.plain ("Log stream for job " ++ job ++ " closed before the build finished")))
  else none

end LogPrinter

end JobWatch

import JobWatch.Command.Report
import JobWatch.Logs.Buffer

/-!
# Stored log lines

A job's stored log lines are fetched page by page, from the end backwards, until there are no
earlier ones or enough pages have come. Each page is asked for by the id that the ones before it
have left as the cursor.
-/

namespace JobWatch

namespace LogBuffer

/-- Fetches so many pages, from the end backwards. A page that cannot be had ends it. -/
def fetchPages {m : Type → Type} [Monad m] (fetch : Option String → m (Except ApiError LogsPage)) :
    Nat → LogBuffer → m (Except ApiError LogBuffer)
  | 0, b => pure (.ok b)
  | pages + 1, b => do
    match ← fetch b.cursor with
    | .error e => return .error e
    | .ok page =>
      let b := b.apply (.backfill page)
      if b.hasEarlierLines then fetchPages fetch pages b else return .ok b

/-- The stored lines of a job, as far back as the pages go. At least one page is fetched. -/
def fetchStored {m : Type → Type} [Monad m] (fetch : Option String → m (Except ApiError LogsPage))
    (job : String) (pages : Nat) : m (Except ApiError LogBuffer) :=
  fetchPages fetch (max pages 1) (.forJob job)

def storedReport (b : LogBuffer) : List Said :=
  b.lines.map .logLine ++
    if b.hasEarlierLines then
      [.warning "Earlier lines exist; pass --earlier N to load more pages"] else []

end LogBuffer

end JobWatch

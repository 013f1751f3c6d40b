import JobWatch.Api.Endpoint
import JobWatch.Logs.Buffer
import JobWatch.Logs.EventStream
import JobWatch.Publish.Cell

/-!
# Following a job's log

A feed opens the log stream of a job once and holds the lines that come; on request it also fetches
pages of earlier lines. A stream that has ended, by its last event or otherwise, is not opened
again. A page goes to the log as it is when the page comes, and a request that fails changes
nothing; a page for a log that has been given up is dropped.

The feed is a machine: `Feed.step` takes an event at a time. Answers and parts of a stream carry the
number of the request that they belong to.
-/

namespace JobWatch

namespace Feed

/-- What the feed is doing with the stream of its job. -/
inductive Stage where
  | opening (request : Nat)
  | reading (request : Nat) (position : EventStream.State)
  | closed
deriving DecidableEq, Repr

/-- The following of one job. -/
structure Run where
  job : String
  writer : Writer
  stage : Stage
deriving DecidableEq, Repr

/-- A request for earlier lines that is under way. -/
structure PageCall where
  request : Nat
  job : String
  writer : Writer
deriving DecidableEq, Repr

/-- What happens to a feed. -/
inductive Event where
  /-- Follow a job, and forget every line of the one before. -/
  | start (job : String)
  /-- Stop, and forget every line. -/
  | dispose
  /-- Fetch a page of earlier lines. -/
  | loadEarlier
  /-- The stream is open, or is not to be had. -/
  | opened (request : Nat) (outcome : Except ApiError Unit)
  /-- A part of the stream. -/
  | chunk (request : Nat) (bytes : List UInt8)
  /-- The stream has ended, or broken down. -/
  | ended (request : Nat)
  /-- The answer to a request for earlier lines. -/
  | page (request : Nat) (reply : Reply)

/-- What comes out of a feed. -/
inductive Output where
  | openStream (request : Nat) (job : String)
  | fetchPage (request : Nat) (job : String) (cursor : Option String) (limit : Nat)
  | publish (b : LogBuffer)
  /-- A request for earlier lines is done: how many lines it has added. -/
  | loaded (request : Nat) (added : Except ApiError Nat)

end Feed

/-- A feed. -/
structure Feed where
  /-- The most lines that a page may hold. -/
  limit : Nat
  cell : Cell LogBuffer
  writer : Option Writer
  run : Option Feed.Run
  /-- The requests for earlier lines that are under way. -/
  calls : List Feed.PageCall
  /-- The number of requests so far. -/
  requests : Nat

namespace Feed

/-- The most lines of a page where nothing else is said. -/
def standardLimit : Nat := 100

def new (limit : Nat) : Feed := ⟨limit, Cell.new .empty, none, none, [], 0⟩

/-- Starts over with a job. -/
def start (f : Feed) (job : String) : Feed × List Output :=
  let (cell, writer) := f.cell.reset (.forJob job)
  ({ f with
      cell := cell
      writer := some writer
      run := some ⟨job, writer, .opening f.requests⟩
      requests := f.requests + 1 },
    [.publish (.forJob job), .openStream f.requests job])

/-- Stops, and forgets every line. -/
def dispose (f : Feed) : Feed × List Output :=
  ({ f with cell := (f.cell.reset .empty).1, writer := none, run := none }, [.publish .empty])

def record (f : Feed) (r : Run) (event : LogEvent) : Option Feed :=
  (f.cell.update r.writer fun b => (b.apply event, ())).map fun (cell, _) => { f with cell := cell }

/-- Asks for the page before the cursor; without a job there is nothing to load. -/
def loadEarlier (f : Feed) : Feed × List Output :=
  match f.writer, f.cell.value.jobId with
  | some writer, some job =>
    ({ f with calls := f.calls ++ [⟨f.requests, job, writer⟩], requests := f.requests + 1 },
      [.fetchPage f.requests job f.cell.value.cursor f.limit])
  | _, _ => ({ f with requests := f.requests + 1 }, [.loaded f.requests (.ok 0)])

/-- Ends a run: the log is closed. -/
def close (f : Feed) (r : Run) : Feed × List Output :=
  let f := { f with run := some { r with stage := .closed } }
  match f.record r .disconnected with
  | some f => (f, [.publish f.cell.value])
  | none => (f, [])

/-- The stream is open, or is not to be had. -/
def opened (f : Feed) (r : Run) (request : Nat) : Except ApiError Unit → Feed × List Output
  | .error _ => f.close r
  | .ok () =>
    match f.record r .connected with
    | some f =>
      ({ f with run := some { r with stage := .reading request .start } }, [.publish f.cell.value])
    | none => ({ f with run := some { r with stage := .closed } }, [])

/-- Octets of the stream. Nothing is read after its last event. -/
def readBytes (f : Feed) (r : Run) (request : Nat) (position : EventStream.State) :
    List UInt8 → Feed × List Output
  | [] => ({ f with run := some { r with stage := .reading request position } }, [])
  | b :: bytes =>
    let (position, event) := position.read b
    match event.bind fun e => StreamEvent.parse? e.type e.data with
    | none => readBytes f r request position bytes
    | some event =>
      match f.record r (.stream event) with
      | none => ({ f with run := some { r with stage := .closed } }, [])
      | some f =>
        let published := Output.publish f.cell.value
        match event with
        | .done _ =>
          let (f, out) := f.close r
          (f, published :: out)
        | _ =>
          let (f, out) := readBytes f r request position bytes
          (f, published :: out)

def received (f : Feed) (c : PageCall) (reply : Reply) : Feed × List Output :=
  let f := { f with calls := f.calls.filter (·.request != c.request) }
  match (reply.read : Except ApiError LogsPage) with
  | .error e => (f, [.loaded c.request (.error e)])
  | .ok page =>
    match f.cell.update c.writer fun b => (b.apply (.backfill page), b.added (.backfill page)) with
    | some (cell, added) =>
      ({ f with cell := cell }, [.publish cell.value, .loaded c.request (.ok added)])
    | none => (f, [.loaded c.request (.ok 0)])

def step (f : Feed) : Event → Feed × List Output
  | .start job => f.start job
  | .dispose => f.dispose
  | .loadEarlier => f.loadEarlier
  | .opened id outcome =>
    match f.run with
    | some r => if r.stage = .opening id then f.opened r id outcome else (f, [])
    | none => (f, [])
  | .chunk id bytes =>
    match f.run with
    | some r =>
      match r.stage with
      | .reading request position => if request = id then f.readBytes r id position bytes else (f, [])
      | _ => (f, [])
    | none => (f, [])
  | .ended id =>
    match f.run with
    | some r =>
      match r.stage with
      | .reading request _ => if request = id then f.close r else (f, [])
      | _ => (f, [])
    | none => (f, [])
  | .page id reply =>
    match f.calls.find? (·.request == id) with
    | some c => f.received c reply
    | none => (f, [])

def isOpening (f : Feed) (request : Nat) : Bool :=
  f.run.any fun r => r.stage = .opening request

/-- Whether the parts of a stream are still read. -/
def isReading (f : Feed) (request : Nat) : Bool :=
  match f.run with
  | some r => match r.stage with
    | .opening id => id == request
    | .reading id _ => id == request
    | .closed => false
  | none => false

end Feed

end JobWatch

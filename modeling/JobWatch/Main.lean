import JobWatch.Command.Program
import JobWatch.Http.Call
import Std.Async.DNS
import Std.Async.Signal
import Std.Async.TCP
import Std.Async.Timer
import Std.Sync.Channel

/-!
# At the terminal

Here the program meets files, clocks, the network and the user. It finds the files and variables it
may ask for, follows its plan, and leaves behind what the plan says. Answers come over plain
connections only, and there is no browser.
-/

open Std Async

namespace JobWatch.Terminal

/-! ## Files and variables -/

/-- The files with what lies at some places. -/
def lookAt (files : FileTree) (places : List (List String)) : IO FileTree := do
  let here ← IO.currentDir
  places.foldlM (fun files names => do
    let place := here / FilePath.ofNames names
    if ← place.isDir then return files.put names none
    else if ← place.pathExists then return files.put names (some (← IO.FS.readFile place))
    else return files) files

/-- What the program finds when it starts. What it looks at depends on what it has found, in at most
three steps: the files of variables, those of settings, and the file for reports. -/
def look (words : List String) : IO Surroundings := do
  let mut found : Surroundings := ⟨⟨[]⟩, (← IO.currentDir).toString, []⟩
  for _ in [0:3] do
    found := { found with files := ← lookAt found.files (Program.places found words) }
    let env ← (Program.consulted found).filterMapM fun name => do
      return (← IO.getEnv name).map fun value => (name, value)
    found := { found with env := env }
  return found

/-- Leaves the files behind. -/
def leave (before after : FileTree) : IO Unit :=
  (after.since before).forM fun (names, text) =>
    match text with
    | none => IO.FS.createDirAll (FilePath.ofNames names)
    | some text => IO.FS.writeFile (FilePath.ofNames names) text

/-! ## Connections -/

def connect (u : Url) : Async TCP.Socket.Client := do
  if u.scheme ≠ "http".toList then throw (IO.userError "no plain connection")
  let host := ((u.host.map Url.Host.render).getD []).filter fun c => c ≠ '[' && c ≠ ']'
  let port := (u.port.or (Url.usualPort? u.scheme)).getD 0
  let addresses ← DNS.getAddrInfo (String.ofList host) (Text.Decimal.text port)
  let some address := addresses[0]? | throw (IO.userError "no address")
  let socket ← TCP.Socket.Client.mk
  socket.connect (match address with
    | .v4 a => .v4 ⟨a, port.toUInt16⟩
    | .v6 a => .v6 ⟨a, port.toUInt16⟩)
  return socket

/-- Lets a call go on, and hands on the parts that come of it; says where it connects to next. -/
def advance (call : IO.Ref Http.Call) (emit : Http.Part → IO Unit)
    (f : Http.Call → Http.Call × List Http.Call.Output) : IO (Option Http.Outgoing) := do
  let out ← call.modifyGet fun c => ((f c).2, (f c).1)
  out.foldlM (fun next o => do
    match o with
    | .connect o => return some o
    | .part p => emit p; return next) none

/-- Sends a request out on a new connection, and again as often as it is sent on. -/
partial def carry (call : IO.Ref Http.Call) (emit : Http.Part → IO Unit) (o : Http.Outgoing) :
    Async Unit := do
  let next ← try
      let socket ← connect o.url
      socket.send ⟨(o.octets Program.agent).toArray⟩
      hear socket
    catch _ => advance call emit (·.fail)
  match next with
  | some o => carry call emit o
  | none => return
where
  /-- Hears what comes on a connection until it is over or given up. -/
  hear (socket : TCP.Socket.Client) : Async (Option Http.Outgoing) := do
    match ← socket.recv? 4096 with
    | none => advance call emit (·.close)
    | some bytes =>
      match ← advance call emit (·.hear bytes.toList) with
      | some o => return some o
      | none => if (← call.get).done then return none else hear socket

/-- Makes a call that may take so many milliseconds, and hands on the parts that come of it. -/
def make (client : Http.Client) (r : Request) (accept : String) (limit : Option Nat)
    (emit : Http.Part → IO Unit) : Async Unit := do
  match Http.Call.start client r accept with
  | .error e => emit (.opened (.error e))
  | .ok c =>
    let call ← IO.mkRef c
    match limit with
    | none => carry call emit c.outgoing
    | some ms => Async.race (carry call emit c.outgoing) (do
        sleep (.ofNat ms)
        discard (advance call emit (·.late)))

def request (client : Http.Client) (r : Request) (emit : Reply → IO Unit) : Async Unit := do
  let parts ← IO.mkRef []
  make client r Http.anyKind client.timeout fun p => do
    parts.modify (· ++ [p])
    (Http.reply? (← parts.get)).forM emit

/-- Makes a request and waits for the reply. -/
def ask (client : Http.Client) (r : Request) : IO Reply := do
  let reply ← IO.mkRef (.error .timeout)
  (request client r reply.set).block
  reply.get

/-! ## Work -/

def say (palette : Display.Palette) (s : Said) : IO Unit :=
  (s.lines palette Program.columns).forM fun line => IO.println line

/-- How much time has passed since some time, in milliseconds. -/
def passed (start : Nat) : IO Nat := return (← IO.monoMsNow) - start

def wallClock : IO Timestamp := do
  let ms := (← Std.Time.Timestamp.now).toMillisecondsSinceUnixEpoch.val.toNat
  return (Timestamp.epoch.addMillis? ms).getD .epoch

/-- Does what a command asks for. Its events come back through the inbox. -/
def perform (client : Http.Client) (palette : Display.Palette)
    (inbox : CloseableChannel Run.Event) : Run.Output → IO Unit
  | .ask r => send r .answered
  | .tell e => give (.session e)
  | .say s => say palette s
  | .browse _ => return
  | .session out =>
    match out.request?, out.stream? with
    | some (r, event), _ => send r fun reply => .session (event reply)
    | none, some (id, r) =>
      (background (make client r Http.eventStreamKind none fun p =>
        give (.session (Program.streamEvent id p)))).block
    | none, none => return
where
  give (e : Run.Event) : IO Unit := discard (inbox.trySend e)
  send (r : Request) (event : Reply → Run.Event) : IO Unit :=
    (background (request client r fun reply => give (event reply))).block

/-- Lets a command go on until it ends. -/
partial def attend (client : Http.Client) (palette : Display.Palette)
    (inbox : CloseableChannel Run.Event) (interrupts : Signal.Waiter) (start : Nat)
    (clock : Nat → Timestamp) (r : Run) : Async Ending := do
  match r.ending? with
  | some ending => return ending
  | none =>
    let now ← passed start
    let timers : List (Selector Unit × Run.Event) ← (r.timers clock).mapM fun (due, e) => do
      return (← Selector.sleep (.ofNat (due - now)), e)
    let e ← Selectable.one (
      [Selectable.case inbox.recvSelector pure,
        Selectable.case interrupts.selector fun _ => pure (some .interrupted)] ++
      timers.map fun t => Selectable.case t.1 fun (_ : Unit) => pure (some t.2)).toArray
    match e with
    | none => return .stopped
    | some e =>
      let (r, out) := r.step (fun _ => false) (← passed start) e
      out.forM fun o => perform client palette inbox o
      attend client palette inbox interrupts start clock r

def follow (client : Http.Client) (palette : Display.Palette) (timing : SessionTiming)
    (goal : Goal) (job : String) (earlier : Nat) : IO Ending := do
  let start ← IO.monoMsNow
  let epoch ← wallClock
  let inbox ← CloseableChannel.new
  let interrupts ← Signal.Waiter.mk .sigint true
  let (r, out) := Run.start (fun _ => false) timing 0 goal job earlier
  out.forM fun o => perform client palette inbox o
  (attend client palette inbox interrupts start (fun t => (epoch.addMillis? t).getD epoch) r).block

def work (palette : Display.Palette) (s : Settings) : Work → IO Ending
  | .status job => do
    let reply ← ask client (.status job)
    report (Program.statusReport (← wallClock) job reply)
  | .storedLogs job pages => do
    let page (cursor : Option String) : IO (Except ApiError LogsPage) := do
      return (← ask client (.logs job cursor s.timing.backfillLimit)).read
    report (Program.logReport job (← LogBuffer.fetchStored page job pages))
  | .follow goal job earlier => follow client palette s.timing.session goal job earlier
where
  client : Http.Client := Program.client s
  report (r : List Said × Ending) : IO Ending := do
    r.1.forM fun s => say palette s
    return r.2

def conclude (ending : Ending) : IO UInt32 := do
  match ending with
  | .failure f => IO.eprint f.text
  | _ => pure ()
  return ending.code.toUInt32

end JobWatch.Terminal

open JobWatch Terminal in
def main (words : List String) : IO UInt32 := do
  let found ← look words
  match Program.plan found words with
  | .refuse =>
    IO.eprintln Program.usage
    return 2
  | .help =>
    IO.println Program.usage
    return 0
  | .done files said ending =>
    leave found.files files
    said.forM fun line => IO.println line
    conclude ending
  | .work files s w =>
    leave found.files files
    conclude (← work found.complete.env.palette s w)

import JobWatch.Command.Arguments
import JobWatch.Command.Run
import JobWatch.Command.SettingsReport
import JobWatch.Http.Head
import JobWatch.Settings.EnvFile

/-!
# The program

From the words of the command line, the files and the environment it follows what is to be done:
either everything is said at once, or there is work to do that asks the backend.
-/

namespace JobWatch

/-- What the program finds when it starts. -/
structure Surroundings where
  files : FileTree
  cwd : FilePath
  env : Environment

/-- Work that asks the backend. -/
inductive Work where
  /-- Fetch the status of a job and print it. -/
  | status (job : String)
  /-- Fetch so many pages of a job's stored log and print them. -/
  | storedLogs (job : String) (pages : Nat)
  /-- Follow something of a job, after so many pages of earlier log lines. -/
  | follow (goal : Goal) (job : String) (earlier : Nat)
deriving DecidableEq, Repr

/-- What the program does. -/
inductive Plan where
  /-- The command line makes no sense. -/
  | refuse
  /-- Explain the command line. -/
  | help
  /-- Nothing is left to do but to say something and to leave the files behind. -/
  | done (files : FileTree) (said : List String) (ending : Ending)
  | work (files : FileTree) (settings : Settings) (work : Work)

/-- The surroundings, with the variables of the nearest file of variables. -/
def Surroundings.complete (found : Surroundings) : Surroundings :=
  { found with env := EnvFile.extendFrom found.files found.cwd found.env }

namespace Program

def name : String := "buildwatch"

def version : String := "0.1.0"

def usage : String :=
  "Usage: " ++ name ++ " [OPTIONS] <COMMAND>\n\nCommands: " ++
    ", ".intercalate (Arguments.grammar.commands.map (·.name))

/-- How the program calls itself to the backend. -/
def agent : String := name ++ "/" ++ version

/-- The width that lines are laid out for where there is no terminal. -/
def columns : Nat := 100

def client (s : Settings) : Http.Client :=
  ⟨s.api.baseUrl, s.api.token, some (s.api.requestTimeout * 1000)⟩

/-- What a command does once the settings are known. -/
def perform (files : FileTree) (s : Settings) (path : Option FilePath) : Command → Plan
  | .status job true => .work files s (.follow .status job 0)
  | .status job false => .work files s (.status job)
  | .logs job earlier true => .work files s (.follow .logs job earlier)
  | .logs job earlier false => .work files s (.storedLogs job earlier)
  | .preview job browse => .work files s (.follow (.preview browse) job 0)
  | .watch job => .work files s (.follow .watch job 0)
  | .checkSettings => .done files s.checkReport .success
  | .showSettings | .initSettings _ => .done files (s.report path) .success

/-- What the program does for an invocation. A file of settings is written without a look at the
settings that count. -/
def invoke (found : Surroundings) (i : Invocation) : Plan :=
  let failed (f : Failure) : Plan := .done found.files [] (.failure f)
  match i.command with
  | .initSettings force =>
    match Settings.init found.files found.cwd i.overrides.configPath force with
    | .ok (files, said) => .done files said .success
    | .error f => failed f
  | command =>
    match Settings.resolve found.files found.env found.cwd i.overrides with
    | .error e => failed e.failure
    | .ok (s, path) =>
      match s.logging.prepare found.files found.cwd with
      | .error f => failed f
      | .ok files => perform files s path command

/-- What the program does. -/
def plan (found : Surroundings) (words : List String) : Plan :=
  match Arguments.parse words with
  | .error .wrong => .refuse
  | .error .help => .help
  | .error .version => .done found.files [name ++ " " ++ version] .success
  | .ok i => invoke found.complete i

/-- The places that the program looks at, as far as that is known from what was found. -/
def places (found : Surroundings) (words : List String) : List (List String) :=
  EnvFile.places found.cwd ++
    match Arguments.parse words with
    | .error _ => []
    | .ok i =>
      let found := found.complete
      let paths := i.overrides.configPath.toList ++ Settings.projectPath found.cwd ::
        found.env.userPath?.toList ++
        match Settings.resolve found.files found.env found.cwd i.overrides with
        | .ok (s, _) => s.logging.file.toList
        | .error _ => []
      paths.flatMap (FilePath.places found.cwd)

/-- The variables that the program looks at, as far as that is known from the files that were
found. -/
def consulted (found : Surroundings) : List String :=
  Environment.names ++ ((EnvFile.find? found.files found.cwd).map EnvFile.mentioned).getD []

/-- What a part of a stream is to the session. -/
def streamEvent (id : Nat) : Http.Part → Session.Event
  | .opened outcome => .logs (.opened id outcome)
  | .chunk bytes => .logs (.chunk id bytes)
  | .ended _ => .logs (.ended id)

/-- What is said of a job's status, or how fetching it failed. -/
def statusReport (now : Timestamp) (job : String) (reply : Reply) : List Said × Ending :=
  match (reply.read : Except ApiError StatusResponse) with
  | .ok r => ([.status job (r.sandboxExpiresAt.map now.secondsUntil) r], .success)
  | .error e => ([], Run.requestFailed ("Failed to fetch status for job " ++ job) e)

/-- What is said of a job's stored log, or how fetching it failed. -/
def logReport (job : String) (fetched : Except ApiError LogBuffer) : List Said × Ending :=
  match fetched with
  | .ok b => (b.storedReport, .success)
  | .error e => ([], Run.requestFailed ("Failed to fetch logs for job " ++ job) e)

end Program

end JobWatch

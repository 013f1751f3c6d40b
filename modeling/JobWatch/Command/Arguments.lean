import JobWatch.Settings.Layers

/-!
# The command line

A command line is a list of words. Some of them choose a command, which may have commands of its
own; some are options, written `--name value`, `--name=value` or `-n`; the rest are operands. After
`--` every word is an operand. An option is given at most once for each command on the way to the
last one, and where several commands are given the same one, the last of them counts.

Words are read from left to right, and the first that cannot stand where it does makes the whole
wrong, unless help or the version was asked for before it.
-/

namespace JobWatch

namespace Arguments

/-- An option. -/
structure Switch where
  name : String
  letter : Option Char
  /-- Whether a value belongs to it, and which values are allowed. -/
  value : Option (String → Bool)

/-- What may be said of a command. -/
inductive Grammar where
  /-- A command with the given name, options and number of operands. -/
  | leaf (name : String) (switches : List Switch) (operands : Nat)
  /-- A command that has commands of its own, one of which may have to be given. -/
  | group (name : String) (switches : List Switch) (commands : List Grammar) (required : Bool)

def Grammar.name : Grammar → String
  | leaf name _ _ => name
  | group name _ _ _ => name

def Grammar.switches : Grammar → List Switch
  | leaf _ switches _ => switches
  | group _ switches _ _ => switches

def Grammar.commands : Grammar → List Grammar
  | leaf _ _ _ => []
  | group _ _ commands _ => commands

/-- What was said of one command. -/
structure Level where
  command : String
  /-- The options that were given, with their values. -/
  given : List (String × String)
  operands : List String
deriving DecidableEq, Repr

/-- Why there is nothing to run. -/
inductive Refusal where
  | help | version
  /-- The words make no sense. -/
  | wrong
deriving DecidableEq, Repr

/-- Where reading has come to. -/
structure Reading where
  /-- The commands before the current one, last first. -/
  before : List Level
  grammar : Grammar
  level : Level
  /-- The option whose value comes next. -/
  pending : Option Switch
  /-- Whether every word is an operand. -/
  literal : Bool
  /-- Whether the words name a command that help is wanted on. -/
  helping : Bool

namespace Reading

def start (g : Grammar) : Reading := ⟨[], g, ⟨g.name, [], []⟩, none, false, false⟩

/-- The options that can be given here. Only the first command tells the version. -/
def switches (r : Reading) : List Switch :=
  r.grammar.switches ++ ⟨"help", some 'h', none⟩ ::
    (if r.before.isEmpty then [⟨"version", some 'V', none⟩] else [])

/-- Notes an option down. -/
def give (r : Reading) (s : Switch) (value : String) : Except Refusal Reading :=
  if r.level.given.any (·.1 == s.name) || s.value.any (! · value) then .error .wrong
  else .ok { r with
    level := { r.level with given := r.level.given ++ [(s.name, value)] }
    pending := none }

def flag (r : Reading) (s : Switch) : Except Refusal Reading :=
  if s.name = "help" then .error .help
  else if s.name = "version" then .error .version
  else r.give s ""

/-- An option by its name, with the value after an equals sign if there is one. -/
def named (r : Reading) (name : String) (value : Option String) : Except Refusal Reading :=
  match r.switches.find? (·.name == name) with
  | none => .error .wrong
  | some s =>
    match s.value, value with
    | some _, some v => r.give s v
    | some _, none => .ok { r with pending := some s }
    | none, some _ => .error .wrong
    | none, none => r.flag s

/-- Options by their letters. -/
def lettered (r : Reading) : List Char → Except Refusal Reading
  | [] => .ok r
  | c :: rest =>
    match r.switches.find? (·.letter == some c) with
    | none => .error .wrong
    | some s => (r.flag s).bind fun r => lettered r rest

/-- A word that is no option. -/
def operand (r : Reading) (word : String) : Except Refusal Reading :=
  match r.grammar with
  | .leaf _ _ most =>
    if r.level.operands.length < most then
      .ok { r with level := { r.level with operands := r.level.operands ++ [word] } }
    else .error .wrong
  | .group _ _ commands _ =>
    if r.literal then .error .wrong
    else if word = "help" then .ok { r with helping := true }
    else
      match commands.find? (·.name == word) with
      | some g => .ok { r with before := r.level :: r.before, grammar := g, level := ⟨g.name, [], []⟩ }
      | none => .error .wrong

/-- A word among those that name what help is wanted on. -/
def subject (r : Reading) (word : String) : Except Refusal Reading :=
  if word = "help" && !r.grammar.commands.isEmpty then .ok r
  else
    match r.grammar.commands.find? (·.name == word) with
    | some g => .ok { r with grammar := g }
    | none => .error .wrong

def next (r : Reading) (word : String) : Except Refusal Reading :=
  if r.helping then r.subject word
  else if r.literal then r.operand word
  else
    let isOption := word.startsWith "-" && word ≠ "-"
    match r.pending with
    | some s => if isOption then .error .wrong else r.give s word
    | none =>
      if word = "--" then .ok { r with literal := true }
      else
        match word.toList with
        | '-' :: '-' :: s =>
          let name := s.takeWhile (· ≠ '=')
          r.named (String.ofList name)
            (if name.length = s.length then none else some (String.ofList (s.drop (name.length + 1))))
        | '-' :: letters => if isOption then r.lettered letters else r.operand word
        | _ => r.operand word

/-- What was said of each command, first to last, once all words are read. -/
def finish (r : Reading) : Except Refusal (List Level) :=
  if r.helping then .error .help
  else if r.pending.isSome then .error .wrong
  else
    match r.grammar with
    | .leaf _ _ operands =>
      if r.level.operands.length = operands then .ok (r.level :: r.before).reverse else .error .wrong
    | .group _ _ _ required => if required then .error .wrong else .ok (r.level :: r.before).reverse

def words (g : Grammar) (ws : List String) : Except Refusal (List Level) :=
  (ws.foldlM next (start g)).bind finish

end Reading

/-! ## The commands -/

/-- The number of a word, if it is one of 64 bits; a plus sign may stand before it. -/
def count? (word : String) : Option Nat :=
  let digits := match word.toList with
    | '+' :: rest => rest
    | s => s
  (Text.Decimal.toNat? digits).filter (· < 18446744073709551616)

/-- The options that every command has. -/
def everywhere : List Switch := [
  ⟨"config", none, some fun v => !v.isEmpty⟩,
  ⟨"api-url", none, some fun _ => true⟩,
  ⟨"token", none, some fun _ => true⟩,
  ⟨"verbose", some 'v', none⟩,
  ⟨"json-logs", none, none⟩]

def grammar : Grammar :=
  .group "buildwatch" everywhere [
    .leaf "status" (⟨"follow", some 'f', none⟩ :: everywhere) 1,
    .leaf "logs" (⟨"earlier", none, some fun v => (count? v).isSome⟩ ::
      ⟨"no-follow", none, none⟩ :: everywhere) 1,
    .leaf "preview" (⟨"open", none, none⟩ :: everywhere) 1,
    .leaf "watch" everywhere 1,
    .group "config" everywhere [
      .leaf "show" everywhere 0,
      .leaf "validate" everywhere 0,
      .leaf "init" (⟨"force", none, none⟩ :: everywhere) 0] false] true

end Arguments

/-- What is to be done. -/
inductive Command where
  /-- Show the status of a job, or follow it. -/
  | status (job : String) (follow : Bool)
  /-- Print the log of a job, with so many pages of earlier lines, and follow it or not. -/
  | logs (job : String) (earlier : Nat) (follow : Bool)
  /-- Follow the preview of a job, and open it in a browser or not. -/
  | preview (job : String) (browse : Bool)
  /-- Follow all of a job. -/
  | watch (job : String)
  | showSettings
  | checkSettings
  /-- Write the standard settings, over a file that is there or not. -/
  | initSettings (force : Bool)
deriving DecidableEq, Repr

/-- A command and what was given with it. -/
structure Invocation where
  overrides : Overrides
  command : Command
deriving DecidableEq, Repr

namespace Arguments

/-- The value of an option where it was given last. -/
def value? (levels : List Level) (name : String) : Option String :=
  levels.reverse.findSome? fun l => l.given.lookup name

/-- What was given for any command. -/
def overrides (levels : List Level) : Overrides where
  configPath := value? levels "config"
  apiUrl := value? levels "api-url"
  token := value? levels "token"
  verbose := (value? levels "verbose").isSome
  jsonLogs := (value? levels "json-logs").isSome

def command (last : Level) : Command :=
  let job := last.operands.head?.getD ""
  let given (name : String) : Bool := (last.given.lookup name).isSome
  match last.command with
  | "status" => .status job (given "follow")
  | "logs" =>
    .logs job (((last.given.lookup "earlier").bind count?).getD 0) (!given "no-follow")
  | "preview" => .preview job (given "open")
  | "watch" => .watch job
  | "validate" => .checkSettings
  | "init" => .initSettings (given "force")
  | _ => .showSettings

/-- What the words of a command line ask for. -/
def parse (words : List String) : Except Refusal Invocation :=
  (Reading.words grammar words).map fun levels =>
    ⟨overrides levels, command (levels.getLast?.getD ⟨"", [], []⟩)⟩

end Arguments

end JobWatch

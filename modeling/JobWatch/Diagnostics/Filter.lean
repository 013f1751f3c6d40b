import JobWatch.Text.Alphanumeric
import JobWatch.Text.Blank
import JobWatch.Text.Decimal
import JobWatch.Text.Utf8

/-!
# Filters for diagnostic messages

Which of its own diagnostic messages the program writes. A filter is a list of directives, separated
by commas. A directive names a level, or a target, a span and fields of it with a level after `=`;
without a level it lets everything through. The text of a filter lists its directives with the most
specific ones first: those that need no span or value of a field, then those that look at spans.
-/

namespace JobWatch.Diagnostics

/-- How much is let through. -/
inductive Level where
  | off | error | warn | info | debug | trace
deriving DecidableEq, Repr

namespace Level

/-- Every level, in the order of their numbers. -/
def all : List Level := [off, error, warn, info, debug, trace]

def name : Level → String
  | off => "off" | error => "error" | warn => "warn" | info => "info" | debug => "debug"
  | trace => "trace"

/-- A level by its number, or by its name in letters of either case. -/
def ofText? (s : List Char) : Option Level :=
  let digits := match s with
    | '+' :: rest => rest
    | _ => s
  match (Text.Decimal.toNat? digits).bind (all[·]?) with
  | some l => some l
  | none => all.find? fun l => l.name.toList = s.map Char.toLower

end Level

/-- A field of a span that a directive asks for, with its value if that matters. -/
structure Field where
  name : List Char
  value : Option (List Char)
deriving DecidableEq, Repr

/-- One rule of a filter. -/
structure Directive where
  level : Level
  target : Option (List Char)
  span : Option (List Char)
  fields : List Field
deriving DecidableEq, Repr

namespace Field

/-- A field as it is written in a directive. -/
def ofText (s : List Char) : Field :=
  match s.dropWhile (· ≠ '=') with
  | [] => ⟨s, none⟩
  | _ :: rest => ⟨s.takeWhile (· ≠ '='), some (rest.takeWhile (· ≠ '='))⟩

def text (f : Field) : List Char := f.name ++ (f.value.map ('=' :: ·)).getD []

end Field

namespace Directive

/-- What has been read of a directive. -/
inductive Stage where
  | start
  /-- A level or a target, with the characters so far, last first. -/
  | word (read : List Char)
  | span (read : List Char)
  | field (read : List Char)
  | afterFields
  | afterSpan
  | level (read : List Char)
deriving DecidableEq, Repr

/-- The next character of a directive. -/
def read : Directive × Stage → Char → Option (Directive × Stage)
  | (d, .start), c =>
    if c = '[' then some (d, .span [])
    else if c = '-' ∨ c = ':' ∨ c = '_' ∨ Text.isAlphanumeric c then some (d, .word [c])
    else none
  | (d, .word r), c =>
    if c = '=' then some ({ d with target := some r.reverse }, .level [])
    else if c = '[' then some ({ d with target := some r.reverse }, .span [])
    else some (d, .word (c :: r))
  | (d, .span r), c =>
    if c = ']' then some ({ d with span := some r.reverse }, .afterSpan)
    else if c = '\x7b' then
      some ({ d with span := if r.isEmpty then none else some r.reverse }, .field [])
    else some (d, .span (c :: r))
  | (d, .field r), c =>
    if c = '\x7d' then
      if r.isEmpty then none
      else some ({ d with fields := d.fields ++ [.ofText r.reverse] }, .afterFields)
    else some (d, .field (c :: r))
  | (d, .afterFields), c => if c = ']' then some (d, .afterSpan) else none
  | (d, .afterSpan), c => if c = '=' then some (d, .level []) else none
  | (d, .level r), c => some (d, .level (c :: r))

/-- The directive that a text is. A word that is no level is a target. -/
def ofText? (s : List Char) : Option Directive := do
  let (d, stage) ← (Text.trimBlanks s).foldlM read (⟨.trace, none, none, []⟩, .start)
  match stage with
  | .word r =>
    match Level.ofText? r.reverse with
    | some l => some { d with level := l }
    | none => some { d with target := some r.reverse }
  | .level [] => some d
  | .level r => (Level.ofText? r.reverse).map fun l => { d with level := l }
  | .afterSpan => some d
  | _ => none

def text (d : Directive) : List Char :=
  let fields :=
    if d.fields.isEmpty then []
    else '\x7b' :: ([','].intercalate (d.fields.map Field.text)) ++ ['\x7d']
  let span := if d.span.isNone && d.fields.isEmpty then [] else '[' :: d.span.getD [] ++ fields ++ [']']
  let scope := d.target.getD [] ++ span
  (if d.target.isNone && span.isEmpty then [] else scope ++ ['=']) ++ d.level.name.toList

/-- Whether a directive looks at spans. -/
def isDynamic (d : Directive) : Bool := d.span.isSome || !d.fields.isEmpty

/-- A directive that can be decided without a span's name or values, with the names of its fields
alone. -/
def toStatic? (d : Directive) : Option Directive :=
  if d.span.isSome || d.fields.any (·.value.isSome) then none else some d

/-- A key that grows with how specific a directive is: the lengths of what it names, then the names
themselves. -/
def key (d : Directive) : List Nat × List (List Char) :=
  let size (s : Option (List Char)) := (s.map fun t => (Text.Utf8.encode t).length + 1).getD 0
  ([size d.target, size d.span, d.fields.length],
    d.target.getD [] :: d.span.getD [] :: d.fields.map Field.text)

/-- Whether a directive comes before another one. -/
def before (a b : Directive) : Bool :=
  decide (b.key.1 < a.key.1) || (a.key.1 == b.key.1 && decide (b.key.2 < a.key.2))

/-- Puts a directive in its place, instead of one for the same scope. -/
def insert (d : Directive) : List Directive → List Directive
  | [] => [d]
  | e :: es =>
    if d.key == e.key then d :: es else if d.before e then d :: e :: es else e :: insert d es

end Directive

/-- A filter: its directives in the order of their text. -/
structure Filter where
  statics : List Directive
  dynamics : List Directive
deriving DecidableEq, Repr

namespace Filter

def parts : List Char → List (List Char)
  | [] => [[]]
  | c :: rest =>
    if c = ',' then [] :: parts rest
    else
      match parts rest with
      | [] => [[c]]
      | p :: ps => (c :: p) :: ps

def ofDirectives (ds : List Directive) : Filter :=
  let dynamics := ds.filter (·.isDynamic)
  let statics := (ds.filter (!·.isDynamic) ++ dynamics).filterMap (·.toStatic?)
  ⟨statics.foldl (fun es d => d.insert es) [], dynamics.foldl (fun es d => d.insert es) []⟩

/-- The filter that a text is. -/
def ofText? (s : String) : Option Filter :=
  (((parts s.toList).filter (!·.isEmpty)).mapM Directive.ofText?).map ofDirectives

def text (f : Filter) : String :=
  String.ofList ([','].intercalate ((f.statics ++ f.dynamics).map Directive.text))

/-- The filter that lets informative messages through. -/
def info : Filter := ⟨[⟨.info, none, none, []⟩], []⟩

/-- The filter of the environment if it has a valid one, else the configured one, else the one for
informative messages. -/
def choose (environment : Option String) (level : String) : Filter :=
  match environment.bind ofText? with
  | some f => f
  | none => (ofText? level).getD info

end Filter

end JobWatch.Diagnostics

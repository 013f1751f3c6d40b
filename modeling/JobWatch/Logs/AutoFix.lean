import JobWatch.Text.Blank
import JobWatch.Text.CaseFold
import JobWatch.Text.Decimal
import JobWatch.Text.DecimalDigit

/-!
# Signs of automatic repair

The backend repairs some builds by itself and says so only in the wording of its system lines. A
line announces an attempt (`Auto-fix attempt 2 of 3`) or a stage that follows a repair (`Running
health checks`, `Starting dev server`). Letters are compared without regard to case, and white space
and digits are those of Unicode. Each phrase is recognised at the first place where it occurs.
-/

namespace JobWatch

/-- What a line says about automatic repair. -/
inductive AutoFixSignal where
  /-- An attempt is under way, of so many. -/
  | attempt (attempt max : Nat)
  /-- Repair is over. -/
  | cleared
deriving DecidableEq, Repr

namespace AutoFix

open Text

/-- A way to read the start of a text: what follows the part that is read. -/
abbrev Reader := List Char → Option (List Char)

def word (w : String) : Reader := word? w.toList

def blanks : Reader
  | c :: s => if isBlank c then some (skipBlanks s) else none
  | [] => none

/-- A part that may be missing. -/
def optional (p : Reader) (s : List Char) : List Char := (p s).getD s

/-- One character of the given ones. -/
def oneOf (cs : List Char) : Reader
  | c :: s => if cs.contains c then some s else none
  | [] => none

/-- One or more digits of any script: the digits, and what follows them. -/
def digits (s : List Char) : Option (List Char × List Char) :=
  let ds := s.takeWhile isDecimalDigit
  if ds.isEmpty then none else some (ds, s.dropWhile isDecimalDigit)

/-- The number of an attempt and the number of attempts, as they stand at the start of a text. -/
def attemptAt (s : List Char) : Option (List Char × List Char) := do
  let s ← word "auto" s
  let s ← word "fix" (optional (oneOf ['-', ' ']) s)
  let s ← blanks (optional (word "ing") s)
  let s ← word "attempt" s
  let s ← blanks s
  let (attempt, s) ← digits (optional (oneOf ['#']) s)
  let s := skipBlanks s
  let s ← oneOf ['/'] s <|> word "of" s
  let (max, _) ← digits (skipBlanks s)
  return (attempt, max)

/-- The words of a phrase, with blanks between them. -/
def phrase : List String → Reader
  | [] => some
  | [w] => word w
  | w :: ws => fun s => (word w s).bind fun s => (blanks s).bind (phrase ws)

/-- Whether a text starts with a phrase that ends a repair. -/
def clearsAt (s : List Char) : Bool :=
  (phrase ["running", "health", "check"] s).isSome ||
  ((phrase ["health", "check"] s).bind fun s => (blanks (optional (word "s") s)).bind fun s =>
    word "starting" s <|> word "running" s <|> word "started" s).isSome ||
  ((phrase ["starting"] s).bind fun s => (blanks s).bind fun s =>
    phrase ["dev", "server"] (optional (fun s => (word "the" s).bind blanks) s)).isSome ||
  (phrase ["dev", "server", "starting"] s).isSome

/-- The result of a reading at the first place of a text where there is one. -/
def firstSome {α : Type} (f : List Char → Option α) : List Char → Option α
  | [] => f []
  | c :: s => f (c :: s) <|> firstSome f s

/-- A number of at most 32 bits, spelled in ASCII digits. -/
def small? (ds : List Char) : Option Nat := (Decimal.toNat? ds).filter (· < 4294967296)

/-- What a line says about automatic repair. An attempt goes before a phrase that ends one, also
when its numbers are out of range and it says nothing. -/
def detect (text : String) : Option AutoFixSignal :=
  match firstSome attemptAt text.toList with
  | some (attempt, max) => do return .attempt (← small? attempt) (← small? max)
  | none =>
    if (firstSome (fun s => if clearsAt s then some () else none) text.toList).isSome then
      some .cleared
    else none

end AutoFix

end JobWatch

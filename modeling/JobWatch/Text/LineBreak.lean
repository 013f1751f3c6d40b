import JobWatch.Text.BreakClass

/-!
# Where a line may be broken

The line-breaking algorithm of Unicode (UAX 14) with its default rules for numbers. A text is read
once, from left to right; what the rules ask about the text before a place is gathered in a
`BreakContext`, so that the next class alone decides whether a break may come before it.
-/

namespace JobWatch.Text

/-- What the rules ask about the text before a place. -/
structure BreakContext where
  /-- The class before the place, spaces not counted and combining characters taken with what they
  belong to; none at the start. -/
  before : Option BreakClass
  /-- Whether spaces follow it. -/
  spaces : Bool
  /-- Whether the last character is a zero-width joiner. -/
  afterJoiner : Bool
  /-- Whether the class before is a hyphen or the like after a Hebrew letter. -/
  afterHebrew : Bool
  /-- Whether an odd number of regional indicators comes before the place. -/
  oddRegional : Bool
deriving DecidableEq, Repr

namespace BreakContext

open BreakClass

def start : BreakContext := ⟨none, false, false, false, false⟩

/-- Whether a class ends a line whatever follows. -/
def endsLine (k : BreakClass) : Bool :=
  k == .mandatory || k == .carriageReturn || k == .lineFeed || k == .nextLine

/-- Whether a combining character joins the text before the place. -/
def takesCombining (x : BreakContext) : Bool :=
  !x.spaces && x.before.any fun k => !endsLine k && k != .zeroWidthSpace

/-- Whether two classes stay together, whatever stands before them. -/
def together (a b : BreakClass) : Bool :=
  let letter (k : BreakClass) := k == .alphabetic || k == .hebrewLetter
  let syllable (k : BreakClass) :=
    k == .jamoL || k == .jamoV || k == .jamoT || k == .hangulLV || k == .hangulLVT
  let ideograph (k : BreakClass) := k == .ideographic || k == .emojiBase || k == .emojiModifier
  let unit (k : BreakClass) := k == .unitBefore || k == .unitAfter
  let closing (k : BreakClass) := k == .closePunctuation || k == .closeParenthesis
  let opening (k : BreakClass) := k == .openPunctuation || k == .wideOpenPunctuation
  (b == .breakAfter || b == .hyphen || b == .nonstarter || a == .breakBefore) ||
  (a == .slash && b == .hebrewLetter) ||
  b == .inseparable ||
  (letter a && b == .numeric) || (a == .numeric && letter b) ||
  (a == .unitBefore && ideograph b) || (ideograph a && b == .unitAfter) ||
  (unit a && letter b) || (letter a && unit b) ||
  ((closing a || a == .numeric) && unit b) ||
  (unit a && (opening b || b == .numeric)) ||
  ((a == .hyphen || a == .numericSeparator || a == .numeric || a == .slash) && b == .numeric) ||
  (a == .jamoL && (b == .jamoL || b == .jamoV || b == .hangulLV || b == .hangulLVT)) ||
  ((a == .jamoV || a == .hangulLV) && (b == .jamoV || b == .jamoT)) ||
  ((a == .jamoT || a == .hangulLVT) && b == .jamoT) ||
  (syllable a && b == .unitAfter) || (a == .unitBefore && syllable b) ||
  (letter a && letter b) ||
  (a == .numericSeparator && letter b) ||
  ((letter a || a == .numeric) && b == .openPunctuation) ||
  (a == .closeParenthesis && (letter b || b == .numeric)) ||
  (a == .emojiBase && b == .emojiModifier)

/-- Whether a break may come before a character of the given class, where `a` is the class before
the place. -/
def allowsAfter (x : BreakContext) (a b : BreakClass) : Bool :=
  let opening (k : BreakClass) := k == .openPunctuation || k == .wideOpenPunctuation
  let closing (k : BreakClass) := k == .closePunctuation || k == .closeParenthesis
  if !x.spaces && endsLine a then !(a == .carriageReturn && b == .lineFeed)
  else if endsLine b || b == .space || b == .zeroWidthSpace then false
  else if a == .zeroWidthSpace then true
  else if x.afterJoiner then false
  else if b == .wordJoiner || (!x.spaces && a == .wordJoiner) then false
  else if !x.spaces && a == .glue then false
  else if b == .glue && !x.spaces && a != .breakAfter && a != .hyphen then false
  else if closing b || b == .exclamation || b == .numericSeparator || b == .slash then false
  else if opening a then false
  else if a == .quotation && opening b then false
  else if closing a && b == .nonstarter then false
  else if a == .breakBoth && b == .breakBoth then false
  else if x.spaces then true
  else if a == .quotation || b == .quotation then false
  else if a == .contingent || b == .contingent then true
  else if x.afterHebrew then false
  else if a == .regional && b == .regional && x.oddRegional then false
  else !together a b

/-- The context after a character that stands by itself. -/
def push (x : BreakContext) (k : BreakClass) : BreakContext where
  before := some k
  spaces := false
  afterJoiner := false
  afterHebrew :=
    (k == .hyphen || k == .breakAfter) && !x.spaces && x.before == some .hebrewLetter
  oddRegional :=
    k == .regional && !(!x.spaces && x.before == some .regional && x.oddRegional)

/-- Whether a break may come before a character of the given class, and the context after it. -/
def next (x : BreakContext) (k : BreakClass) : Bool × BreakContext :=
  if (k == .combining || k == .joiner) && x.takesCombining then
    (false, { x with afterJoiner := k == .joiner })
  else
    let class' := if k == .combining || k == .joiner then .alphabetic else k
    let allowed := match x.before with
      | none => x.spaces && !(endsLine class' || class' == .space || class' == .zeroWidthSpace ||
          class' == .wordJoiner || class' == .closePunctuation || class' == .closeParenthesis ||
          class' == .exclamation || class' == .numericSeparator || class' == .slash)
      | some a => x.allowsAfter a class'
    let after :=
      if k == .space then { x with spaces := true, afterJoiner := false }
      else { x.push class' with afterJoiner := k == .joiner }
    (allowed, after)

end BreakContext

/-- For each character, whether a line may be broken before it. -/
def breaksFrom : BreakContext → List Char → List Bool
  | _, [] => []
  | x, c :: rest =>
    let (allowed, x) := x.next (.ofChar c)
    allowed :: breaksFrom x rest

/-- For each character of a text, whether a line may be broken before it. -/
def breaks (s : List Char) : List Bool := breaksFrom .start s

theorem length_breaksFrom (x : BreakContext) (s : List Char) :
    (breaksFrom x s).length = s.length := by
  induction s generalizing x with
  | nil => rfl
  | cons c rest ih => simp [breaksFrom, ih]

/-- There is one answer for each character. -/
@[simp] theorem length_breaks (s : List Char) : (breaks s).length = s.length :=
  length_breaksFrom _ s

end JobWatch.Text

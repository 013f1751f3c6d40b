/-!
# Styles

Text for a terminal may be coloured, bold or dim, and signs may be pictures. A `Palette` says which
of this a terminal shows; a text in styles that are not shown is the text.
-/

namespace JobWatch.Display

/-- A style. -/
inductive Style where
  | bold | dim | red | green | yellow | cyan
deriving DecidableEq, Repr

def Style.code : Style → String
  | .bold => "1"
  | .dim => "2"
  | .red => "31"
  | .green => "32"
  | .yellow => "33"
  | .cyan => "36"

/-- What a terminal shows. -/
structure Palette where
  /-- Whether styles are written. -/
  coloured : Bool
  /-- Whether signs are pictures. -/
  pictured : Bool
deriving DecidableEq, Repr

namespace Palette

/-- Pictures and no styles. -/
def plain : Palette := ⟨false, true⟩

/-- The control sequence with the given parameter. -/
def control (parameter : String) : String := "\x1b[" ++ parameter ++ "m"

/-- A text in some styles. -/
def paint (p : Palette) (styles : List Style) (s : String) : String :=
  if p.coloured then String.join (styles.map fun k => control k.code) ++ s ++ control "0" else s

@[simp] theorem paint_plain (styles : List Style) (s : String) : plain.paint styles s = s := rfl

end Palette

end JobWatch.Display

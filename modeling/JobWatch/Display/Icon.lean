import JobWatch.Display.Style

/-!
# Icons

The signs that open a message. A picture brings the space that sets it off; where no pictures are
shown, a word in brackets stands in its place.
-/

namespace JobWatch.Display

/-- A sign at the start of a message. -/
inductive Icon where
  | check | cross | warning | offline | system | autoFix | preview | paused | blocked | clock
deriving DecidableEq, Repr

namespace Icon

def picture : Icon → String
  | check => "✅ "
  | cross => "❌ "
  | warning => "⚠️  "
  | offline => "🔌 "
  | system => "⚙️  "
  | autoFix => "🔧 "
  | preview => "🌐 "
  | paused => "⏸️  "
  | blocked => "🚧 "
  | clock => "⏱️  "

def word : Icon → String
  | check => "[OK]"
  | cross => "[ERR]"
  | warning => "[!]"
  | offline => "[OFFLINE]"
  | system => "[sys]"
  | autoFix => "[FIX]"
  | preview => "[WEB]"
  | paused => "[||]"
  | blocked => "[BLOCK]"
  | clock => "[T]"

end Icon

def Palette.icon (p : Palette) (i : Icon) : String := if p.pictured then i.picture else i.word

end JobWatch.Display

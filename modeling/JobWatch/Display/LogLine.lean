import JobWatch.Display.Icon
import JobWatch.Text.Wrap
import JobWatch.Wire.Messages

/-!
# Log lines on a terminal

A log line is printed with its time of day in front. A line that does not fit is wrapped, and what
follows is indented to stand under the text. Lines of the system carry a sign, and the source decides
the colour.
-/

namespace JobWatch.Display

/-- The columns of the time of day and the space after it. -/
def timeColumns : Nat := 9

/-- The least columns that a log line is laid out for. -/
def leastColumns : Nat := timeColumns + 20

/-- What stands in front of the text of a line. -/
def marker (p : Palette) : LogSource → String
  | .system => p.icon .system
  | _ => ""

def sourceStyle : LogSource → List Style
  | .stdout => []
  | .stderr => [.red]
  | .system => [.cyan]

/-- The marker and the text of a line, wrapped and indented, without the first indent. -/
def logBody (p : Palette) (columns : Nat) (l : LogLine) : List Char :=
  (['\n'].intercalate
    (Text.wrap (max columns leastColumns) timeColumns
      ((marker p l.source).toList ++ l.text.toList))).drop timeColumns

/-- A log line for a terminal of the given width. -/
def logLine (p : Palette) (columns : Nat) (l : LogLine) : String :=
  let body := String.ofList (logBody p columns l)
  let styles := sourceStyle l.source
  p.paint [.dim] (String.ofList l.timestamp.clockText) ++ " " ++
    if styles.isEmpty then body else p.paint styles body

end JobWatch.Display

import JobWatch.Display.Style
import JobWatch.Files.Tree
import JobWatch.Text.Blank

/-!
# The environment

The variables that the program finds, and what they say: settings, where the user keeps settings,
and what the terminal shows.
-/

namespace JobWatch

/-- The variables of the environment. The first of a name counts. -/
abbrev Environment := List (String × String)

namespace Environment

def apiUrl : String := "BUILDWATCH_API_URL"

def token : String := "BUILDWATCH_TOKEN"

def level : String := "BUILDWATCH_LOG"

/-- The variables that say something. -/
def names : List String :=
  [apiUrl, token, level, "XDG_CONFIG_HOME", "HOME", "CLICOLOR_FORCE", "LANG"]

/-- The value of a variable, unless it is blank. -/
def filled? (env : Environment) (name : String) : Option String :=
  (env.lookup name).filter fun v => !Text.allBlank v

/-- The directory of the user's settings: the one that is named for them, if it is named from the
root, or the usual one in the user's home. The home is the one in the environment, or else the one
that the user's account has. -/
def configDirectory? (env : Environment) (account : Option FilePath) : Option FilePath :=
  match (env.lookup "XDG_CONFIG_HOME").filter FilePath.isAbsolute with
  | some d => some d
  | none =>
    (((env.lookup "HOME").filter (· ≠ "")).or account).map fun home => FilePath.join home ".config"

/-- Whether the name of a language asks for UTF-8. -/
def spellsUtf8 (language : String) : Bool := (language.map Char.toUpper).endsWith "UTF-8"

/-- What is shown where the output is no terminal: styles only if they are forced, and pictures if
the language is written in UTF-8. -/
def palette (env : Environment) : Display.Palette where
  coloured := (env.lookup "CLICOLOR_FORCE").any (· ≠ "0")
  pictured := (env.lookup "LANG").any spellsUtf8

end Environment

end JobWatch

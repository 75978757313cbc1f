import StagedAnalysis.Log
import StagedAnalysis.Path
import StagedAnalysis.Text.Blank

/-!
# Settings

Settings come from the environment; each has a default for a variable that is not set. A variable
that is set and empty counts as set.
-/

namespace StagedAnalysis

/-- The variables that are looked at. -/
structure Environment where
  logLevel : Option String := none
  encoding : Option String := none
  samplesDir : Option String := none
  richEditor : Option String := none
  deriving DecidableEq, Repr

namespace Environment

/-- The values that are set. -/
def values (env : Environment) : List String :=
  [env.logLevel, env.encoding, env.samplesDir, env.richEditor].filterMap id

/-- The environment itself, if the system can hold it. -/
def checked (env : Environment) : Except Fault Environment :=
  if env.values.any hasNul then .error .nulForSystem else .ok env

end Environment

structure Settings where
  /-- In upper case. -/
  logLevel : String
  encoding : String
  samplesDir : Path
  richEditor : Bool
  deriving DecidableEq, Repr

/-- The words for no, in any case and between blanks. No letter beyond ASCII has one of theirs as
its lower case. -/
def negatives : List String := ["0", "false", "no", "off", ""]

def isAffirmative (s : String) : Bool :=
  !negatives.contains (String.ofList ((Text.trim s.toList).map Char.toLower))

namespace Settings

/-- The settings of a program that is installed at `home`. -/
def load (home : Path) (env : Environment) : Settings where
  logLevel := Text.upperCase (env.logLevel.getD "WARNING")
  encoding := env.encoding.getD "utf-8"
  samplesDir := Path.ofString (env.samplesDir.getD (home.child "samples").toString)
  richEditor := isAffirmative (env.richEditor.getD "1")

/-- The logger that the settings ask for. -/
def logger (settings : Settings) : Except Fault Logger :=
  match Logger.configure {} settings.logLevel with
  | .ok l => .ok l
  | .error e => .error (.badLevel e)

end Settings

end StagedAnalysis

import StagedAnalysis.Stage
import StagedAnalysis.Text.UpperCase

/-!
# Log

What happens on the way is recorded as events, each of a level and from a channel. A logger has a
level and shows the events at or above it; a logger of no level takes the ambient one, a warning.
What nothing goes on after is not recorded: it is a fault, and ends everything.
-/

namespace StagedAnalysis

/-! ## Levels -/

inductive Level where
  | notSet
  | debug
  | info
  | warning
  | error
  | critical
  deriving DecidableEq, Repr

namespace Level

def severity : Level → Nat
  | notSet => 0
  | debug => 10
  | info => 20
  | warning => 30
  | error => 40
  | critical => 50

def tag : Level → String
  | notSet => "NOTSET"
  | debug => "DEBUG"
  | info => "INFO"
  | warning => "WARNING"
  | error => "ERROR"
  | critical => "CRITICAL"

/-- The level in force where none is set. -/
def ambient : Level := warning

/-- Every upper-case name of a level. -/
def names : List (String × Level) :=
  [("CRITICAL", critical), ("FATAL", critical), ("ERROR", error), ("WARNING", warning),
    ("WARN", warning), ("INFO", info), ("DEBUG", debug), ("NOTSET", notSet)]

end Level

/-! ## Names that are taken -/

/-- A way to write a format, which is known by the mark that opens a field. -/
structure FormatStyle where
  mark : String
  name : String
  /-- The format that is used where none is given. -/
  basic : String
  deriving DecidableEq, Repr

namespace FormatStyle

def percent : FormatStyle := ⟨"%", "PercentStyle", "%(levelname)s:%(name)s:%(message)s"⟩

def brace : FormatStyle :=
  ⟨"\x7b", "StrFormatStyle", "\x7blevelname\x7d:\x7bname\x7d:\x7bmessage\x7d"⟩

def dollar : FormatStyle :=
  ⟨"$", "StringTemplateStyle", "$\x7blevelname\x7d:$\x7bname\x7d:$\x7bmessage\x7d"⟩

def all : List FormatStyle := [percent, brace, dollar]

/-- The style as an entry of the table of styles. -/
def entry (s : FormatStyle) : String :=
  Text.quoted s.mark ++ ": (<class 'logging." ++ s.name ++ "'>, " ++ Text.quoted s.basic ++ ")"

/-- The table of styles. -/
def table : String := "\x7b" ++ ", ".intercalate (all.map entry) ++ "\x7d"

end FormatStyle

/-- What is found under a name where a level is asked for. -/
inductive NotALevel where
  /-- A text, which might still have been the name of a level. -/
  | format (text : String)
  /-- The table of styles, which is not even a text. -/
  | styles
  deriving DecidableEq, Repr

namespace NotALevel

def message : NotALevel → String
  | format text => "Unknown level: " ++ Text.quoted text
  | styles => "Level not an integer or a valid string: " ++ FormatStyle.table

/-- The upper-case names that are taken, but by no level. -/
def names : List (String × NotALevel) :=
  [("BASIC_FORMAT", format FormatStyle.percent.basic), ("_STYLES", styles)]

end NotALevel

/-- The level of a name in any case. A name that is taken by nothing means a warning. -/
def Level.ofName (name : String) : Except NotALevel Level :=
  let name := Text.upperCase name
  match NotALevel.names.lookup name with
  | some e => .error e
  | none => .ok ((names.lookup name).getD warning)

/-! ## Events -/

inductive Channel where
  | lexer
  | structural
  | names
  | pipeline
  deriving DecidableEq, Repr

def Channel.name : Channel → String
  | lexer => "minicompiler.lexical.lexer"
  | structural => "minicompiler.parsing.syntax_checker"
  | names => "minicompiler.semantic.checker"
  | pipeline => "minicompiler.pipeline"

inductive Event where
  | lineRejected (line : Int) (reason : String)
  | documentRead (lines tokens errors : Nat)
  | structureChecked (tokens messages : Nat)
  | namesChecked (symbols messages : Nat)
  | sourceChanged
  | stageRefused (stage : Stage) (progress : Progress)
  deriving DecidableEq, Repr

namespace Event

def level : Event → Level
  | stageRefused _ _ => .info
  | _ => .debug

def channel : Event → Channel
  | lineRejected _ _ | documentRead _ _ _ => .lexer
  | structureChecked _ _ => .structural
  | namesChecked _ _ => .names
  | sourceChanged | stageRefused _ _ => .pipeline

def message : Event → String
  | lineRejected line reason => "line " ++ toString line ++ " rejected: " ++ reason
  | documentRead lines tokens errors =>
    "tokenized " ++ toString lines ++ " lines, " ++ toString tokens ++ " tokens, " ++
      toString errors ++ " errors"
  | structureChecked tokens messages =>
    "syntax pass over " ++ toString tokens ++ " tokens: " ++ toString messages ++ " messages"
  | namesChecked symbols messages =>
    "semantic pass: " ++ toString symbols ++ " symbols, " ++ toString messages ++ " messages"
  | sourceChanged => "source changed, pipeline reset"
  | stageRefused stage progress =>
    stage.label ++ " stage refused in state " ++ progress.label

/-- The event as a line of the log, without its time. -/
def line (e : Event) : String :=
  "[" ++ e.level.tag ++ "] " ++ e.channel.name ++ ": " ++ e.message

end Event

/-! ## Loggers -/

structure Logger where
  level : Level := .notSet
  /-- The format of each handler. -/
  formats : List String := []
  deriving DecidableEq, Repr

namespace Logger

def name : String := "minicompiler"

def format : String := "%(asctime)s [%(levelname)s] %(name)s: %(message)s"

/-- The level of a logger that is configured without one. -/
def defaultLevel : String := "WARNING"

/-- Sets the level; the first time it also installs the one handler. -/
def configure (l : Logger) (level : String) : Except NotALevel Logger := do
  let level ← Level.ofName level
  return ⟨level, if l.formats.isEmpty then [format] else l.formats⟩

/-- The level in force. -/
def threshold (l : Logger) : Level := if l.level = .notSet then .ambient else l.level

def shows (l : Logger) (e : Event) : Bool := l.threshold.severity ≤ e.level.severity

/-- The lines of the events that are shown. -/
def lines (l : Logger) (es : List Event) : List String := (es.filter l.shows).map Event.line

end Logger

/-! ## Faults -/

/-- What was asked for and cannot be: a level that is none, an encoding that is not known, a text
that something does not take. -/
inductive Fault where
  | badLevel (e : NotALevel)
  | unknownEncoding (name : String)
  | nulInEncoding
  /-- In a path, or in the value of a variable. -/
  | nulForSystem
  /-- Said by a codec, or by a stream, of what it was given. -/
  | refused (message : String)
  deriving DecidableEq, Repr

def Fault.message : Fault → String
  | badLevel e => e.message
  | unknownEncoding name => "unknown encoding: " ++ name
  | nulInEncoding => "embedded null character"
  | nulForSystem => "embedded null byte"
  | refused message => message

/-- The system takes a NUL for the end of a text, so it takes no text with one inside. -/
def hasNul (s : String) : Bool := s.toList.contains (Char.ofNat 0)

end StagedAnalysis

import StagedAnalysis.Reading
import StagedAnalysis.Session
import StagedAnalysis.Settings

/-!
# Command line

The program takes one file and may be told its encoding. It runs all stages on the text, prints the
transcript, and exits with a code that says how far the analysis came. What a file cannot be opened
or decoded for is reported on the error stream; a fault is not caught and ends it.

The codecs, the files and the output stream are those of the system. The error stream takes every
text; the output stream may refuse one that its encoding has no characters for.
-/

namespace StagedAnalysis

def version : String := "1.0.0"

namespace CommandLine

/-! ## Arguments -/

def usage : String := "Uso: python -m minicompiler.cli <archivo> [--encoding ENC]"

def encodingOption : String := "--encoding"

structure Request where
  file : String
  encoding : String
  deriving DecidableEq, Repr

/-- Takes the first encoding option out, with its value. There is no answer where the value is
missing. -/
def splitOption : List String → Option (Option String × List String)
  | [] => some (none, [])
  | a :: as =>
    if a = encodingOption then
      match as with
      | [] => none
      | e :: rest => some (some e, rest)
    else (splitOption as).map fun r => (r.1, a :: r.2)

/-- The request of arguments that name exactly one file. -/
def request? (encoding : String) (args : List String) : Option Request :=
  match splitOption args with
  | some (e?, [file]) => some ⟨file, e?.getD encoding⟩
  | _ => none

/-! ## Running -/

/-- What the program leaves behind. -/
structure Exit where
  code : Nat
  stdout : String
  stderr : String
  events : List Event
  deriving DecidableEq, Repr

def rejected (message : String) : Exit := ⟨1, "", message ++ "\n", []⟩

/-- One: there was no code. Two: some line failed. Three: the structure is wrong. Zero: all stages
ran, whatever the last one found. -/
def exitCode (s : Session) : Nat :=
  if s.lexical?.all LexicalOutcome.noCode then 1
  else match s.progress with
    | .notStarted => 2
    | .lexPassed => 3
    | .syntaxPassed => 0

/-- The session on the text of a file, after all stages. -/
def analysis (file source : String) : Session :=
  (((Session.start "").load source (some (Path.ofString file).name)).runAll).1

def finish (file source : String) : Exit :=
  let s := analysis file source
  ⟨exitCode s, s.transcript ++ "\n", "", s.events⟩

/-- The exit of a program with these arguments, its own name first. -/
def run (codecs : Registry) (settings : Settings) (opener : Path → Except OpenError Bytes)
    (argv : List String) : Except Fault Exit :=
  match request? settings.encoding (argv.drop 1) with
  | none => .ok (rejected usage)
  | some r =>
    match readFile codecs opener r.file r.encoding with
    | .error f => .error f
    | .ok (.error u) => .ok (rejected ("Could not read file: " ++ u.message))
    | .ok (.ok source) => .ok (finish r.file source)

/-- The whole program up to its output: the logger is set up before the arguments are looked at. -/
def execute (codecs : Registry) (home : Path) (env : Environment)
    (opener : Path → Except OpenError Bytes) (argv : List String) :
    Except Fault (Logger × Exit) := do
  let settings := Settings.load home env
  let l ← settings.logger
  let exit ← run codecs settings opener argv
  return (l, exit)

/-- Writes the output, if there is any, to a stream that may not take it. -/
def Exit.deliver (takes : String → Except Fault Unit) (exit : Exit) : Except Fault Unit :=
  if exit.stdout = "" then .ok () else takes exit.stdout

/-- The whole program with its output. -/
def perform (codecs : Registry) (home : Path) (env : Environment)
    (opener : Path → Except OpenError Bytes) (takes : String → Except Fault Unit)
    (argv : List String) : Except Fault (Logger × Exit) := do
  let (l, exit) ← execute codecs home env opener argv
  exit.deliver takes
  return (l, exit)

end CommandLine

end StagedAnalysis

import Std.Time
import StagedAnalysis.CommandLine

/-!
# Program

The only module that touches the world: it reads the environment and the file that the arguments
name, and leaves everything else to `CommandLine.perform`. It has no codecs but those that are built
in, and its output stream takes every text.
-/

namespace StagedAnalysis

/-- The number of a system error; it is reported as it is or as its negative. -/
def errorNumber : IO.Error → Nat
  | .noFileOrDirectory _ code _ | .inappropriateType _ code _ | .invalidArgument _ code _ =>
    min code.toNat (0 - code).toNat
  | _ => 0

/-- A failure that is none of `OpenError` is left to the caller. -/
def openFile (path : Path) : IO (Except OpenError Bytes) := do
  try
    return .ok (← IO.FS.readBinFile ⟨path.toString⟩).toList
  catch e =>
    match OpenError.all.find? (·.number == errorNumber e) with
    | some known => return .error known
    | none => throw e

def environment : IO Environment :=
  return ⟨← IO.getEnv "MINICOMPILER_LOG_LEVEL", ← IO.getEnv "MINICOMPILER_ENCODING",
    ← IO.getEnv "MINICOMPILER_SAMPLES_DIR", ← IO.getEnv "MINICOMPILER_IDE_ACE"⟩

/-- Writes events to the error stream, each with the time. -/
def writeLog (l : Logger) (es : List Event) : IO Unit := do
  let now ← Std.Time.PlainDateTime.now
  for line in l.lines es do
    IO.eprintln (now.format "uuuu-MM-dd HH:mm:ss,SSS" ++ " " ++ line)

def program (args : List String) : IO UInt32 := do
  let env ← environment
  let home := Path.ofString "."
  let opened ← match CommandLine.request? (Settings.load home env).encoding args with
    | some r => openFile (Path.ofString r.file)
    | none => pure (.error .notFound)
  match CommandLine.perform .builtIn home env (fun _ => opened) (fun _ => .ok ())
      (Logger.name :: args) with
  | .error f =>
    IO.eprintln f.message
    return 1
  | .ok (logger, exit) =>
    writeLog logger exit.events
    IO.print exit.stdout
    IO.eprint exit.stderr
    return exit.code.toUInt32

end StagedAnalysis

def main (args : List String) : IO UInt32 := StagedAnalysis.program args

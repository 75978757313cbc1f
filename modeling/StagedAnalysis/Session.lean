import StagedAnalysis.Outcome

/-!
# Sessions

A session analyzes one text that may change. It remembers the outcome of every stage that has run
on the text, and everything that was written to the console and to the log. A change of the text
through `load` or `setSource` sends the analysis back to its start.
-/

namespace StagedAnalysis

structure Session where
  source : String
  console : List String := []
  progress : Progress := .notStarted
  tokens : List Token := []
  lexical? : Option LexicalOutcome := none
  syntactic? : Option SyntacticOutcome := none
  semantic? : Option SemanticOutcome := none
  events : List Event := []

namespace Session

/-- A session on a text that nothing has been done with. -/
def start (source : String) : Session := { source }

/-! ## Writing -/

def print (s : Session) (lines : List String) : Session := { s with console := s.console ++ lines }

def record (s : Session) (es : List Event) : Session := { s with events := s.events ++ es }

/-- The console as one text. -/
def transcript (s : Session) : String := Text.unlines s.console

/-! ## The text -/

/-- Forgets every outcome. -/
def reset (s : Session) : Session where
  source := s.source
  console := s.console
  events := s.events

def openedLine (name : String) : String := "Opened file: " ++ name

/-- Takes the text of a file; a name is announced unless it is empty. -/
def load (s : Session) (source : String) (name? : Option String) : Session :=
  let announced := match name? with
    | some name => if name = "" then s else s.print [openedLine name]
    | none => s
  { announced.reset with source }

/-- Takes a text; the same text changes nothing. The answer says whether it was another. -/
def setSource (s : Session) (source : String) : Session × Bool :=
  if source = s.source then (s, false)
  else ({ s.reset with source }.record [.sourceChanged], true)

/-- Puts a text in place of the present one and keeps the outcomes. -/
def assignSource (s : Session) (source : String) : Session := { s with source }

/-- Empties text and console. -/
def clear (s : Session) : Session where
  source := ""
  events := s.events

/-! ## Stages -/

/-- A stage that is worth running now. -/
def canRun (s : Session) : Stage → Bool
  | .lexical => !decide (Text.Blank s.source.toList) && s.progress == .notStarted
  | .syntactic => s.progress == .lexPassed
  | .semantic => s.progress == .syntaxPassed && s.semantic?.isNone

def lexical (s : Session) : Session × LexicalOutcome :=
  let o := runLexical s.source
  let s := (s.reset.print o.console).record o.events
  ({ s with progress := o.progress, tokens := o.tokens, lexical? := some o }, o)

/-- What the console says of a stage that cannot run yet. -/
def gateMessage : Stage → String
  | .lexical => ""
  | .syntactic => "Syntax Error: Lexical analysis not completed or failed."
  | .semantic => "Semantic Error: Syntax analysis not completed or failed."

def refuse (s : Session) (stage : Stage) : Session :=
  (s.print [gateMessage stage]).record [.stageRefused stage s.progress]

/-- A new run of the check drops the outcome of the stage after it. -/
def syntactic (s : Session) : Session × Option SyntacticOutcome :=
  match runSyntactic s.progress s.tokens with
  | .error e => (s.refuse e.stage, none)
  | .ok o =>
    let s := (s.print o.console).record o.events
    ({ s with progress := o.progress, syntactic? := some o, semantic? := none }, some o)

def semantic (s : Session) : Session × Option SemanticOutcome :=
  match runSemantic s.progress s.tokens with
  | .error e => (s.refuse e.stage, none)
  | .ok o =>
    let s := (s.print o.console).record o.events
    ({ s with semantic? := some o }, some o)

/-- The stages in order, up to the first that does not pass. -/
def runAll (s : Session) : Session × Progress :=
  let s := s.lexical.1
  let s := if s.progress = .lexPassed then s.syntactic.1 else s
  let s := if s.progress = .syntaxPassed then s.semantic.1 else s
  (s, s.progress)

/-! ## Operations -/

inductive Op where
  | lexical
  | syntactic
  | semantic
  | runAll
  | load (source : String) (name? : Option String)
  | setSource (source : String)
  | assignSource (source : String)
  | clear
  | reset
  | transcript
  deriving DecidableEq, Repr

inductive Reply where
  | lexical (o : LexicalOutcome)
  | syntactic (o : Option SyntacticOutcome)
  | semantic (o : Option SemanticOutcome)
  | progress (p : Progress)
  | changed (b : Bool)
  | text (s : String)
  | done

def apply (s : Session) : Op → Session × Reply
  | .lexical => let r := s.lexical; (r.1, .lexical r.2)
  | .syntactic => let r := s.syntactic; (r.1, .syntactic r.2)
  | .semantic => let r := s.semantic; (r.1, .semantic r.2)
  | .runAll => let r := s.runAll; (r.1, .progress r.2)
  | .load source name? => (s.load source name?, .done)
  | .setSource source => let r := s.setSource source; (r.1, .changed r.2)
  | .assignSource source => (s.assignSource source, .done)
  | .clear => (s.clear, .done)
  | .reset => (s.reset, .done)
  | .transcript => (s, .text s.transcript)

/-- The session after operations in order. -/
def applyAll (s : Session) (ops : List Op) : Session := ops.foldl (fun s op => (s.apply op).1) s

end Session

end StagedAnalysis

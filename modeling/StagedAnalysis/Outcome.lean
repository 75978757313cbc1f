import StagedAnalysis.Document
import StagedAnalysis.Log
import StagedAnalysis.Names.Analysis
import StagedAnalysis.Stage
import StagedAnalysis.Structure.Check

/-!
# Outcomes of the stages

Each stage is a function of the progress and the tokens it starts from. Its outcome holds what was
found, the progress reached, and the lines for the console; `events` is what it leaves in the log.
-/

namespace StagedAnalysis

/-! ## Lexical stage -/

structure LexicalOutcome where
  progress : Progress
  /-- Absent only where there was no text at all. -/
  document : Option Document
  tokens : List Token
  console : List String

namespace LexicalOutcome

def ok (o : LexicalOutcome) : Bool := o.progress == .lexPassed

/-- There was nothing to analyze: no text, or blank text only. -/
def noCode (o : LexicalOutcome) : Bool :=
  match o.document with
  | none => true
  | some d => d.ok && d.tokens.isEmpty

end LexicalOutcome

def Document.events (d : Document) : List Event :=
  d.errors.map (fun e => .lineRejected e.line e.message) ++
    [.documentRead d.lines.length d.tokens.length d.errors.length]

def LexicalOutcome.events (o : LexicalOutcome) : List Event :=
  match o.document with
  | none => []
  | some d => d.events

def lexicalTitle : String := "--- Lexical Analysis ---"

/-- A document with a failing line hands no tokens on, nor does one without tokens. -/
def Document.outcome (d : Document) : LexicalOutcome :=
  if d.ok = false then
    ⟨.notStarted, some d, [], lexicalTitle :: d.errors.map fun e =>
      "Lexical Error (line " ++ toString e.line ++ "): " ++ e.message⟩
  else if d.tokens.isEmpty then
    ⟨.notStarted, some d, [], [lexicalTitle, "No tokens found (empty or whitespace-only file)."]⟩
  else
    ⟨.lexPassed, some d, d.tokens, lexicalTitle :: "Tokens:" :: d.tokens.map Token.listing⟩

def runLexical (source : String) : LexicalOutcome :=
  if source = "" then
    ⟨.notStarted, none, [], [lexicalTitle, "Error: No code loaded. Please open a file first."]⟩
  else (Document.ofText source).outcome

/-! ## Syntactic stage -/

structure SyntacticOutcome where
  progress : Progress
  findings : List Finding
  console : List String
  events : List Event

namespace SyntacticOutcome

def ok (o : SyntacticOutcome) : Bool := o.findings.isEmpty

end SyntacticOutcome

def syntacticTitle : String := "--- Syntax Analysis ---"

/-- The outcome of the check, whatever the progress. -/
def checkStructure (ts : List Token) : SyntacticOutcome :=
  let fs := Structure.check ts
  let events := [Event.structureChecked ts.length fs.length]
  if fs.isEmpty then ⟨.syntaxPassed, fs, [syntacticTitle, "Syntax OK."], events⟩
  else ⟨.lexPassed, fs, syntacticTitle :: "Syntax Errors:" :: fs.map Finding.message, events⟩

def runSyntactic (p : Progress) (ts : List Token) : Except StageOrderError SyntacticOutcome := do
  Stage.syntactic.require p
  return checkStructure ts

/-! ## Semantic stage -/

structure SemanticOutcome where
  progress : Progress
  analysis : Names.Analysis
  console : List String
  events : List Event

namespace SemanticOutcome

def messages (o : SemanticOutcome) : List String := o.analysis.findings.map Finding.message

end SemanticOutcome

def semanticTitle : String := "--- Semantic Analysis ---"

/-- The outcome of the analysis; it makes no progress and loses none. -/
def checkNames (p : Progress) (ts : List Token) : SemanticOutcome :=
  let a := Names.analyze ts
  let events := [Event.namesChecked a.table.size a.findings.length]
  if a.findings.isEmpty then ⟨p, a, [semanticTitle, "Semantic OK. No issues found."], events⟩
  else
    ⟨p, a, semanticTitle :: "Semantic Warnings/Errors:" :: a.findings.map Finding.message, events⟩

def runSemantic (p : Progress) (ts : List Token) : Except StageOrderError SemanticOutcome := do
  Stage.semantic.require p
  return checkNames p ts

end StagedAnalysis

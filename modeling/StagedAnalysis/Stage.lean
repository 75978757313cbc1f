import StagedAnalysis.Text.Quoted

/-!
# Stages and progress

An analysis goes through three stages in order. Progress is how far it has come: each stage but the
first can run only from certain progress.
-/

namespace StagedAnalysis

inductive Stage where
  | lexical
  | syntactic
  | semantic
  deriving DecidableEq, Repr

namespace Stage

def all : List Stage := [lexical, syntactic, semantic]

def label : Stage → String
  | lexical => "Lexical"
  | syntactic => "Syntax"
  | semantic => "Semantic"

def tag : Stage → String
  | lexical => "LEXICAL"
  | syntactic => "SYNTAX"
  | semantic => "SEMANTIC"

end Stage

inductive Progress where
  | notStarted
  | lexPassed
  | syntaxPassed
  deriving DecidableEq, Repr

namespace Progress

def all : List Progress := [notStarted, lexPassed, syntaxPassed]

def label : Progress → String
  | notStarted => "not-started"
  | lexPassed => "lex-passed"
  | syntaxPassed => "syntax-passed"

def tag : Progress → String
  | notStarted => "NOT_STARTED"
  | lexPassed => "LEX_PASSED"
  | syntaxPassed => "SYNTAX_PASSED"

end Progress

/-- A name that no progress has. -/
structure UnknownProgress where
  name : String
  deriving DecidableEq, Repr

def UnknownProgress.message (e : UnknownProgress) : String :=
  Text.quoted e.name ++ " is not a valid PipelineState"

def Progress.ofLabel (name : String) : Except UnknownProgress Progress :=
  match all.find? (·.label == name) with
  | some p => .ok p
  | none => .error ⟨name⟩

/-! ## The gate -/

/-- The progress that a stage can run from. Reading the text is always possible. -/
def Stage.admits : Stage → Progress → Bool
  | lexical, _ => true
  | syntactic, .notStarted => false
  | syntactic, _ => true
  | semantic, .syntaxPassed => true
  | semantic, _ => false

structure StageOrderError where
  stage : Stage
  progress : Progress
  deriving DecidableEq, Repr

def StageOrderError.message (e : StageOrderError) : String :=
  e.stage.label ++ " stage cannot run from state '" ++ e.progress.label ++ "'"

def Stage.require (s : Stage) (p : Progress) : Except StageOrderError Unit :=
  if s.admits p then .ok () else .error ⟨s, p⟩

end StagedAnalysis

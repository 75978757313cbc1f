import StagedAnalysis.Diagnostic

/-!
# Findings

What the checks report. Each finding fixes its phase, code and text; `toDiagnostic` is the form in
which it is shown.
-/

namespace StagedAnalysis

inductive Delimiter where
  | parenthesis
  | brace
  deriving DecidableEq, Repr

def Delimiter.name : Delimiter → String
  | parenthesis => "parenthesis"
  | brace => "brace"

inductive Finding where
  | missingSemicolon (line : Int)
  | unmatchedCloser (delimiter : Delimiter) (line : Int)
  /-- `count` openers were still open at the end. -/
  | unmatchedOpener (delimiter : Delimiter) (count : Nat)
  | undeclared (name : String) (line : Int)
  /-- `line` is that of the string. -/
  | stringToInt (name : String) (line : Int)
  /-- `line` is that of the last declaration. -/
  | unused (name : String) (line : Int)
  deriving DecidableEq, Repr

namespace Finding

def phase : Finding → String
  | missingSemicolon _ | unmatchedCloser _ _ | unmatchedOpener _ _ => "syntax"
  | undeclared _ _ | stringToInt _ _ | unused _ _ => "semantic"

def code : Finding → String
  | missingSemicolon _ => "S001"
  | unmatchedCloser _ _ => "S002"
  | unmatchedOpener _ _ => "S003"
  | undeclared _ _ => "E002"
  | stringToInt _ _ => "E101"
  | unused _ _ => "W001"

def message : Finding → String
  | missingSemicolon line =>
    "Missing semicolon at or after assignment on line " ++ toString line ++ "."
  | unmatchedCloser delimiter line =>
    "Unmatched closing " ++ delimiter.name ++ " at line " ++ toString line ++ "."
  | unmatchedOpener delimiter _ => "Unmatched opening " ++ delimiter.name ++ "."
  | undeclared name line =>
    "Variable '" ++ name ++ "' assigned before declaration (line " ++ toString line ++ ")."
  | stringToInt name line =>
    "Type error: cannot assign string to int variable '" ++ name ++ "' (line " ++
      toString line ++ ")."
  | unused name line =>
    "Warning: variable '" ++ name ++ "' declared at line " ++ toString line ++ " but not used."

/-- The line it stands on; what is missing at the end stands on none. -/
def line? : Finding → Option Int
  | missingSemicolon line | unmatchedCloser _ line | undeclared _ line | stringToInt _ line
  | unused _ line => some line
  | unmatchedOpener _ _ => none

def details : Finding → Row
  | missingSemicolon _ | unmatchedCloser _ _ => []
  | unmatchedOpener _ count => [("open", .number count)]
  | undeclared name _ | unused name _ => [("name", .text name)]
  | stringToInt name _ => [("name", .text name), ("declared", .text "int")]

def toDiagnostic (f : Finding) : Diagnostic Cell :=
  ⟨.text f.phase, .text f.code, .text f.message, f.line?.map .number, f.details⟩

end Finding

end StagedAnalysis

import StagedAnalysis.Finding
import StagedAnalysis.Text.Lines
import StagedAnalysis.Token.Basic

/-!
# Structure of a token stream

Every assignment has to meet a semicolon before its line ends. The search goes through the tokens
in order and stops at the first one of another line, so a semicolon that comes back to the line
later does not count. Parentheses and braces are counted apart from each other. A closer with
nothing open is reported and opens no debt: the count stays at zero. What is open at the end is
reported once for each kind. The check never stops early: the assignments are reported first, then
the delimiters.
-/

namespace StagedAnalysis.Structure

/-! ## Assignments -/

/-- A semicolon stands among the tokens that follow on the line. -/
def terminated (line : Int) (after : List Token) : Bool :=
  (after.takeWhile (·.line == line)).any (·.isPunct ";")

/-- One finding for each assignment that is not terminated. -/
def unterminated : List Token → List Finding
  | [] => []
  | t :: ts =>
    if t.kind = .assignment ∧ terminated t.line ts = false then
      .missingSemicolon t.line :: unterminated ts
    else unterminated ts

/-! ## Delimiters -/

inductive Side where
  | opening
  | closing
  deriving DecidableEq, Repr

/-- Only punctuation delimits; a string that holds a brace does not. -/
def delimiter? (t : Token) : Option (Side × Delimiter) :=
  if t.isPunct "(" then some (.opening, .parenthesis)
  else if t.isPunct ")" then some (.closing, .parenthesis)
  else if t.isPunct "\x7b" then some (.opening, .brace)
  else if t.isPunct "\x7d" then some (.closing, .brace)
  else none

/-- How many delimiters of each kind are open. -/
structure Depths where
  parenthesis : Nat := 0
  brace : Nat := 0
  deriving DecidableEq, Repr

namespace Depths

def get (d : Depths) : Delimiter → Nat
  | .parenthesis => d.parenthesis
  | .brace => d.brace

def set (d : Depths) (k : Delimiter) (n : Nat) : Depths :=
  match k with
  | .parenthesis => { d with parenthesis := n }
  | .brace => { d with brace := n }

@[simp] theorem get_set_self (d : Depths) (k : Delimiter) (n : Nat) : (d.set k n).get k = n := by
  cases k <;> rfl

theorem get_set_of_ne (d : Depths) {j k : Delimiter} (n : Nat) (h : j ≠ k) :
    (d.set k n).get j = d.get j := by
  cases j <;> cases k <;> simp_all [set, get]

/-- What one token does to the counts. -/
def step (d : Depths) (t : Token) : Depths :=
  match delimiter? t with
  | none => d
  | some (.opening, k) => d.set k (d.get k + 1)
  | some (.closing, k) => d.set k (d.get k - 1)

/-- The token closes what is not open. -/
def unmatched? (d : Depths) (t : Token) : Option Finding :=
  match delimiter? t with
  | some (.closing, k) => if d.get k = 0 then some (.unmatchedCloser k t.line) else none
  | _ => none

end Depths

/-- The closers that meet nothing open, from the given counts on. -/
def unmatchedClosers : Depths → List Token → List Finding
  | _, [] => []
  | d, t :: ts => (d.unmatched? t).toList ++ unmatchedClosers (d.step t) ts

/-- What is open after all tokens. -/
def finalDepths (ts : List Token) : Depths := ts.foldl Depths.step {}

def unmatchedOpeners (d : Depths) : List Finding :=
  [Delimiter.parenthesis, .brace].filterMap fun k =>
    if 0 < d.get k then some (.unmatchedOpener k (d.get k)) else none

/-- Closers in the order of the tokens, then what is still open. -/
def unbalanced (ts : List Token) : List Finding :=
  unmatchedClosers {} ts ++ unmatchedOpeners (finalDepths ts)

/-! ## The check -/

def check (ts : List Token) : List Finding := unterminated ts ++ unbalanced ts

/-- The messages of findings, one a line. -/
def report (fs : List Finding) : String := Text.unlines (fs.map Finding.message)

end StagedAnalysis.Structure

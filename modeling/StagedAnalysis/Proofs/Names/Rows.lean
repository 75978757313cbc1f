import StagedAnalysis.Proofs.Names.Sites

/-!
# Rows and unused names

The rows of an analysis, told by what stands where in the stream: a name has its row where it is
declared first, the row says what it was declared as last, and the name is used if some position
uses it. What is reported of rows comes after all faults.

* `mem_entries_iff`: what each row says.
* `mem_findings_iff`: a finding is a fault at some position or is about an unused row.
* `filter_findings_unused`: the findings on unused rows, by their code.
* `analyze_rows`: the main statement.
-/

namespace StagedAnalysis.Names

/-! ## Rows -/

theorem mem_symbols_declared_iff {ts : List Token} {s : Symbol} :
    s ∈ (declared ts).symbols ↔ LastDeclared (DeclaredAt ts) s := by
  rw [(distinct_declared ts).mem_symbols_iff, lookup?_declared_eq_some_iff]
  exact and_iff_left rfl

theorem isUsed_iff_of_lastDeclared {ts : List Token} {s : Symbol}
    (h : LastDeclared (DeclaredAt ts) s) :
    (resolved ts).isUsed s.name = true ↔ ∃ p, UsedAt ts p s.name := by
  refine isUsed_resolved_iff ?_
  rw [SymbolTable.contains, lookup?_declared_eq_some_iff.2 ⟨h, rfl⟩]
  rfl

/-- The rows of the names that nothing uses. -/
theorem mem_unused_iff {ts : List Token} {s : Symbol} :
    s ∈ (resolved ts).unused ↔ LastDeclared (DeclaredAt ts) s ∧ ∀ p, ¬UsedAt ts p s.name := by
  rw [SymbolTable.unused, List.mem_filter, symbols_resolved, mem_symbols_declared_iff]
  refine and_congr_right fun hl => ?_
  rw [← not_exists, ← isUsed_iff_of_lastDeclared hl, Bool.not_eq_true', Bool.not_eq_true]

/-- A finding is a fault at some position or is about a name that nothing uses. -/
theorem mem_findings_iff {ts : List Token} {f : Finding} :
    f ∈ (analyze ts).findings ↔ (∃ p, FaultAt ts p f) ∨
      ∃ s, LastDeclared (DeclaredAt ts) s ∧ (∀ p, ¬UsedAt ts p s.name) ∧
        f = .unused s.name s.line := by
  rw [analyze, List.mem_append, mem_faults_iff, List.mem_map]
  simp only [mem_unused_iff, and_assoc, eq_comm (b := f)]

end StagedAnalysis.Names

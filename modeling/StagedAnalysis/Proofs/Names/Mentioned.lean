import StagedAnalysis.Proofs.Names.Declared

/-!
# Names in findings

The checks of names make up no name: what a finding is about stands in the stream.

* `fault?_eq_some_iff`: what is wrong with an assignment.
* `exists_token_of_mem_findings`: the main statement.
-/

namespace StagedAnalysis

/-- The name that a finding is about. -/
def Finding.name? : Finding → Option String
  | .missingSemicolon _ | .unmatchedCloser _ _ | .unmatchedOpener _ _ => none
  | .undeclared name _ | .stringToInt name _ | .unused name _ => some name

namespace Names

theorem token_mem_of_mem_occurrencesAfter {previous? : Option Token} {ts : List Token}
    {o : Occurrence} (h : o ∈ occurrencesAfter previous? ts) : o.token ∈ ts := by
  induction ts generalizing previous? with
  | nil => cases h
  | cons t ts ih =>
    rcases List.mem_cons.1 h with rfl | h
    · exact .head _
    · exact .tail _ (ih h)

/-- What is wrong with an assignment, case by case. -/
theorem fault?_eq_some_iff {table : SymbolTable} {o : Occurrence} {f : Finding} :
    o.fault? table = some f ↔ o.isAssigned = true ∧
      (table.lookup? o.token.lexeme = none ∧ f = .undeclared o.token.lexeme o.token.line ∨
        ∃ s r, table.lookup? o.token.lexeme = some s ∧ o.afterNext? = some r ∧ s.type = "int" ∧
          r.kind = .string ∧ f = .stringToInt o.token.lexeme r.line) := by
  unfold Occurrence.fault?
  cases o.isAssigned with
  | false => simp
  | true =>
    cases table.lookup? o.token.lexeme with
    | none => simp [eq_comm (a := f)]
    | some s =>
      cases o.afterNext? with
      | none => simp
      | some r => simp [eq_comm (a := f), and_assoc]

/-- A fault is found at an identifier and is about its name. -/
theorem name?_of_fault? {table : SymbolTable} {o : Occurrence} {f : Finding}
    (h : o.fault? table = some f) :
    o.token.kind = .identifier ∧ f.name? = some o.token.lexeme := by
  obtain ⟨ha, hf⟩ := fault?_eq_some_iff.1 h
  simp only [Occurrence.isAssigned, Bool.and_eq_true, beq_iff_eq] at ha
  refine ⟨ha.1, ?_⟩
  rcases hf with ⟨-, rfl⟩ | ⟨s, r, -, -, -, -, rfl⟩
  · rfl
  · rfl

/-- Every finding is about the name of an identifier in the stream. -/
theorem exists_token_of_mem_findings {ts : List Token} {f : Finding}
    (h : f ∈ (analyze ts).findings) :
    ∃ t ∈ ts, t.kind = .identifier ∧ f.name? = some t.lexeme := by
  rcases List.mem_append.1 h with h | h
  · obtain ⟨o, ho, hf⟩ := List.mem_filterMap.1 h
    exact ⟨o.token, token_mem_of_mem_occurrencesAfter ho, name?_of_fault? hf⟩
  · obtain ⟨s, hs, rfl⟩ := List.mem_map.1 h
    have hm : s ∈ (declared ts).symbols := symbols_resolved ts ▸ (List.mem_filter.1 hs).1
    obtain ⟨before, k, i, after, rfl, -, hi, hn⟩ :=
      declares_of_lookup? ((distinct_declared ts).mem_symbols_iff.1 hm)
    exact ⟨i, by simp, hi, by rw [hn]; rfl⟩

end Names

end StagedAnalysis

import StagedAnalysis.Proofs.Names.Table

/-!
# What a stream declares

The tables of a stream in terms of its tokens: which names are declared, what is found under a name,
and which names are used.

* `Declares`, `declares_iff`: what a stream declares, said without collecting it.
* `lookup?_declared`: the last declaration of a name is found.
* `isUsed_resolved`: the used names are those of the uses.
-/

namespace StagedAnalysis.Names

/-- The name stands right after a keyword. -/
def Declares (ts : List Token) (name : String) : Prop :=
  ∃ before k i after, ts = before ++ k :: i :: after ∧ k.kind = .keyword ∧ i.kind = .identifier ∧
    i.lexeme = name

theorem mem_declarations_cons {ts : List Token} {s : Symbol} (h : s ∈ declarations ts) (t : Token) :
    s ∈ declarations (t :: ts) := by
  cases ts with
  | nil => cases h
  | cons u ts =>
    rw [declarations]
    split
    · exact .tail _ h
    · exact h

theorem declares_iff {ts : List Token} {name : String} :
    Declares ts name ↔ ∃ s ∈ declarations ts, s.name = name := by
  constructor
  · rintro ⟨before, k, i, after, rfl, hk, hi, rfl⟩
    refine ⟨⟨i.lexeme, k.lexeme, i.line⟩, ?_, rfl⟩
    induction before with
    | nil =>
      rw [List.nil_append, declarations, if_pos ⟨hk, hi⟩]
      exact .head _
    | cons t before ih => exact mem_declarations_cons ih t
  · rintro ⟨s, h, rfl⟩
    fun_induction declarations ts with
    | case1 a b ts hk ih =>
      rcases List.mem_cons.1 h with rfl | h
      · exact ⟨[], a, b, ts, rfl, hk.1, hk.2, rfl⟩
      · obtain ⟨before, k, i, after, he, hd⟩ := ih h
        exact ⟨a :: before, k, i, after, by rw [he]; rfl, hd⟩
    | case2 a b ts _ ih =>
      obtain ⟨before, k, i, after, he, hd⟩ := ih h
      exact ⟨a :: before, k, i, after, by rw [he]; rfl, hd⟩
    | case3 => cases h

/-! ## Tables -/

theorem distinct_declared (ts : List Token) : (declared ts).Distinct :=
  SymbolTable.distinct_empty.declareAll _

theorem lookup?_declared (ts : List Token) (name : String) :
    (declared ts).lookup? name = (declarations ts).reverse.find? (·.name == name) := by
  rw [declared, SymbolTable.lookup?_declareAll]
  exact Option.or_none

theorem declares_of_lookup? {ts : List Token} {name : String} {s : Symbol}
    (h : (declared ts).lookup? name = some s) : Declares ts name := by
  rw [lookup?_declared] at h
  refine declares_iff.2 ⟨s, List.mem_reverse.1 (List.mem_of_find?_eq_some h), ?_⟩
  simpa using List.find?_some h

theorem symbols_resolved (ts : List Token) : (resolved ts).symbols = (declared ts).symbols :=
  SymbolTable.symbols_markAll _ _

theorem isUsed_resolved (ts : List Token) (name : String) :
    (resolved ts).isUsed name = true ↔
      name ∈ (occurrences ts).filterMap (Occurrence.use? (declared ts)) := by
  rw [resolved, SymbolTable.isUsed_markAll, or_iff_left]
  rw [declared, SymbolTable.isUsed_declareAll]
  exact Bool.false_ne_true

end StagedAnalysis.Names

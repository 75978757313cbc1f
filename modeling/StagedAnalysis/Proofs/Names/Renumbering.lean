import StagedAnalysis.Proofs.Names.Relabelling

/-!
# The analysis under other line numbers

The analysis of names copies the lines of tokens and never compares them. So it goes along with any
renumbering: where the tokens have other lines, its rows and findings have those lines, and nothing
else is different. This is the case of a relabelling that leaves all names as they are.

* `relabel_id`: renumbering is relabelling with all names kept.
* `analyze_map`, `mapLine_analyze`: the whole analysis, and that it shows no lines but those of the
  tokens.
-/

namespace StagedAnalysis

/-- The symbol with another number for its line. -/
def Symbol.mapLine (f : Int → Int) (s : Symbol) : Symbol := { s with line := f s.line }

/-! ## Tables -/

namespace SymbolTable

def mapLine (f : Int → Int) (t : SymbolTable) : SymbolTable :=
  { t with symbols := t.symbols.map (Symbol.mapLine f) }

theorem relabel_id (f : Int → Int) (t : SymbolTable) : t.relabel f id = t.mapLine f :=
  congrArg (SymbolTable.mk _) t.used.map_id

theorem entries_mapLine (f : Int → Int) (t : SymbolTable) :
    (t.mapLine f).entries = t.entries.map fun e => { e with symbol := e.symbol.mapLine f } := by
  unfold entries mapLine
  rw [List.map_map, List.map_map]
  rfl

end SymbolTable

/-! ## Findings -/

theorem Finding.rename_id (x : Finding) : x.rename id = x := by
  cases x <;> rfl

theorem Finding.line?_mapLine (f : Int → Int) (x : Finding) :
    (x.mapLine f).line? = x.line?.map f := by
  cases x <;> rfl

theorem Finding.code_mapLine (f : Int → Int) (x : Finding) : (x.mapLine f).code = x.code := by
  cases x <;> rfl

theorem Finding.details_mapLine (f : Int → Int) (x : Finding) :
    (x.mapLine f).details = x.details := by
  cases x <;> rfl

/-- Only the line that a finding shows matters. -/
theorem Finding.mapLine_eq_self {f : Int → Int} {x : Finding}
    (h : ∀ line, x.line? = some line → f line = line) : x.mapLine f = x := by
  cases x <;> simp_all [mapLine, line?]

theorem Finding.mapLine_mapLine (f g : Int → Int) (x : Finding) :
    (x.mapLine f).mapLine g = x.mapLine (g ∘ f) := by
  cases x <;> rfl

namespace Names

def Analysis.mapLine (f : Int → Int) (a : Analysis) : Analysis :=
  ⟨a.table.mapLine f, a.findings.map (Finding.mapLine f)⟩

theorem Analysis.mapLine_mapLine (f g : Int → Int) (a : Analysis) :
    (a.mapLine f).mapLine g = a.mapLine (g ∘ f) := by
  simp only [mapLine, SymbolTable.mapLine, List.map_map, Function.comp_def,
    Finding.mapLine_mapLine, Symbol.mapLine]
  rfl

theorem Analysis.relabel_id (f : Int → Int) (a : Analysis) : a.relabel f id = a.mapLine f := by
  have hf : Finding.relabel f id = Finding.mapLine f :=
    funext fun x => congrArg (Finding.mapLine f) x.rename_id
  rw [relabel, SymbolTable.relabel_id, hf, mapLine]

/-- Other lines for the tokens, and the analysis is the same with these lines. -/
theorem analyze_map {f : Int → Int} {g : Token → Token} (hg : Token.Moves f g) (ts : List Token) :
    analyze (ts.map g) = (analyze ts).mapLine f := by
  have hname : ∀ t ∈ ts, t.kind = .identifier → t.lexeme ∈ Set.univ := fun _ _ _ => trivial
  rw [analyze_relabel hname hg.relabels (Set.injOn_id _), Analysis.relabel_id]

/-- Rows and findings show no lines but those of the tokens. -/
theorem mapLine_analyze {f : Int → Int} {ts : List Token} (h : ∀ t ∈ ts, f t.line = t.line) :
    (analyze ts).mapLine f = analyze ts := by
  have hts : ts.map (Token.mapLine f) = ts := by
    refine (List.map_congr_left fun t ht => ?_).trans (List.map_id' ts)
    rw [Token.mapLine, h t ht]
  rw [← analyze_map (Token.moves_mapLine f), hts]

end Names

end StagedAnalysis

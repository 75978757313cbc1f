import Mathlib.Data.Set.Function
import StagedAnalysis.Proofs.Names.TableHistory
import StagedAnalysis.Proofs.Structure.Parts

/-!
# The analysis under other names and lines

The analysis of names compares names only with each other, and copies the lines of tokens without
looking at them. So it goes along with any renumbering of lines, and with a renaming that keeps the
names of the stream apart: its rows and findings have the new names and lines, and nothing else is
different. That names are kept apart is needed where they are compared: when a declaration takes its
place, when a name is looked up, and when it is asked whether one is used.

* `Symbol.relabel`, `SymbolTable.relabel`, `Finding.relabel`, `Analysis.relabel`: what becomes of
  the results.
* `apply_relabel`, `applyAll_relabel`: one step of a history, and the whole of it.
* `declarations_map`, `occurrences_map`: what is collected from a stream.
* `use?_relabel`, `fault?_relabel`: one occurrence.
* `declared_relabel`, `resolved_relabel`, `analyze_relabel`: the tables and the whole analysis.
-/

namespace StagedAnalysis

variable {f : Int → Int} {n : String → String} {names : Set String}

/-- The symbol with another name and another number for its line. -/
def Symbol.relabel (f : Int → Int) (n : String → String) (s : Symbol) : Symbol :=
  { s with name := n s.name, line := f s.line }

/-- The finding about another name. -/
def Finding.rename (n : String → String) : Finding → Finding
  | undeclared name line => undeclared (n name) line
  | stringToInt name line => stringToInt (n name) line
  | unused name line => unused (n name) line
  | x => x

def Finding.relabel (f : Int → Int) (n : String → String) (x : Finding) : Finding :=
  (x.rename n).mapLine f

namespace SymbolTable

/-- The table with other names and lines in it. -/
def relabel (f : Int → Int) (n : String → String) (t : SymbolTable) : SymbolTable :=
  ⟨t.symbols.map (Symbol.relabel f n), t.used.map n⟩

/-- The names that the table knows, as rows or as used. -/
structure Within (t : SymbolTable) (names : Set String) : Prop where
  symbols : ∀ s ∈ t.symbols, s.name ∈ names
  used : ∀ name ∈ t.used, name ∈ names

/-! ## Questions to a table -/

section
variable (hn : Set.InjOn n names) {t : SymbolTable} (ht : t.Within names)
include hn ht

theorem lookup?_relabel {name : String} (h : name ∈ names) :
    (t.relabel f n).lookup? (n name) = (t.lookup? name).map (Symbol.relabel f n) := by
  rw [lookup?, lookup?, relabel, List.find?_map, ← List.head?_filter, ← List.head?_filter]
  refine congrArg (fun ss => Option.map _ (List.head? ss)) (List.filter_congr fun s hs => ?_)
  rw [Bool.eq_iff_iff, Function.comp_apply, beq_iff_eq, beq_iff_eq]
  exact hn.eq_iff (ht.symbols s hs) h

theorem contains_relabel {name : String} (h : name ∈ names) :
    (t.relabel f n).contains (n name) = t.contains name := by
  rw [contains, contains, lookup?_relabel hn ht h, Option.isSome_map]

theorem isUsed_relabel {name : String} (h : name ∈ names) :
    (t.relabel f n).isUsed (n name) = t.isUsed name := by
  rw [isUsed, isUsed, Bool.eq_iff_iff, List.contains_iff_mem, List.contains_iff_mem]
  exact List.mem_map.trans (hn.mem_image_iff ht.used h)

theorem unused_relabel : (t.relabel f n).unused = t.unused.map (Symbol.relabel f n) := by
  rw [unused, unused, relabel, List.filter_map]
  refine congrArg _ (List.filter_congr fun s hs => ?_)
  exact congrArg _ (isUsed_relabel hn ht (ht.symbols s hs))

theorem entries_relabel :
    (t.relabel f n).entries = t.entries.map fun e => { e with symbol := e.symbol.relabel f n } := by
  rw [entries, entries, List.map_map, relabel, List.map_map]
  refine List.map_congr_left fun s hs => ?_
  exact congrArg (Entry.mk _) (isUsed_relabel hn ht (ht.symbols s hs))

end

/-! ## Histories -/

/-- The name that a step is about. -/
def Op.name : Op → String
  | .declare s => s.name
  | .markUsed name => name

def Op.relabel (f : Int → Int) (n : String → String) : Op → Op
  | .declare s => .declare (s.relabel f n)
  | .markUsed name => .markUsed (n name)

/-- A table knows no names but those of its history. -/
theorem within_applyAll {ops : List Op} (h : ∀ op ∈ ops, op.name ∈ names) :
    (applyAll ops).Within names where
  symbols s hs := by
    obtain ⟨p, hp, -⟩ := mem_symbols_applyAll.1 hs
    exact h _ (List.mem_of_getElem? hp)
  used name hu := h _ (isUsed_applyAll.1 (List.contains_iff_mem.2 hu))

section
variable (hn : Set.InjOn n names)
include hn

/-- A symbol takes the place of the one whose name it has, under the other names as before. -/
theorem put_relabel {s : Symbol} (hs : s.name ∈ names) {es : List Symbol}
    (h : ∀ e ∈ es, e.name ∈ names) :
    put (s.relabel f n) (es.map (Symbol.relabel f n)) = (put s es).map (Symbol.relabel f n) := by
  induction es with
  | nil => rfl
  | cons e es ih =>
    have he : (e.relabel f n).name = (s.relabel f n).name ↔ e.name = s.name :=
      hn.eq_iff (h e (.head _)) hs
    rw [List.map_cons, put, put, ih fun e he => h e (.tail _ he)]
    simp only [he]
    split <;> rfl

theorem apply_relabel {t : SymbolTable} (ht : t.Within names) {op : Op} (ho : op.name ∈ names) :
    (t.relabel f n).apply (op.relabel f n) = (t.apply op).relabel f n := by
  cases op with
  | declare s =>
    exact congrArg (SymbolTable.mk · (t.used.map n)) (put_relabel hn ho ht.symbols)
  | markUsed name =>
    have hu : n name ∈ t.used.map n ↔ name ∈ t.used :=
      List.mem_map.trans (hn.mem_image_iff ht.used ho)
    simp only [Op.relabel, apply, markUsed, relabel, hu]
    split <;> rfl

theorem applyAll_relabel {ops : List Op} (h : ∀ op ∈ ops, op.name ∈ names) :
    applyAll (ops.map (Op.relabel f n)) = (applyAll ops).relabel f n := by
  induction ops using List.reverseRecOn with
  | nil => rfl
  | append_singleton ops op ih =>
    have hops : ∀ o ∈ ops, o.name ∈ names := fun o ho => h o (List.mem_append_left _ ho)
    have hop : op.name ∈ names := h op (List.mem_append_right _ (.head _))
    rw [List.map_append, List.map_singleton, applyAll_concat, applyAll_concat, ih hops,
      apply_relabel hn (within_applyAll hops) hop]

end

end SymbolTable

namespace Names

/-! ## Streams -/

def Analysis.relabel (f : Int → Int) (n : String → String) (a : Analysis) : Analysis :=
  ⟨a.table.relabel f n, a.findings.map (Finding.relabel f n)⟩

/-- The occurrence with each of its tokens changed. -/
def Occurrence.map (g : Token → Token) (o : Occurrence) : Occurrence :=
  ⟨o.previous?.map g, g o.token, o.next?.map g, o.afterNext?.map g⟩

theorem occurrencesAfter_map (g : Token → Token) (previous? : Option Token) (ts : List Token) :
    occurrencesAfter (previous?.map g) (ts.map g) =
      (occurrencesAfter previous? ts).map (Occurrence.map g) := by
  induction ts generalizing previous? with
  | nil => rfl
  | cons t ts ih =>
    have hi := ih (some t)
    simp only [List.map_cons, occurrencesAfter, Occurrence.map, List.head?_map, ← List.map_tail]
    rw [← hi]
    rfl

theorem occurrences_map (g : Token → Token) (ts : List Token) :
    occurrences (ts.map g) = (occurrences ts).map (Occurrence.map g) :=
  occurrencesAfter_map g none ts

section
variable {g : Token → Token} (hg : Token.Relabels f n g)
include hg

theorem lexeme_of_identifier {t : Token} (ht : t.kind = .identifier) :
    (g t).lexeme = n t.lexeme := by
  rw [hg.lexeme, if_pos ht]

theorem isKind_map (k : Kind) (t? : Option Token) : isKind k (t?.map g) = isKind k t? := by
  cases t? with
  | none => rfl
  | some t => simp only [Option.map_some, isKind, hg.kind]

/-- The type of a declaration is the lexeme of a keyword, so it stays. -/
theorem declarations_map (ts : List Token) :
    declarations (ts.map g) = (declarations ts).map (Symbol.relabel f n) := by
  fun_induction declarations ts with
  | case1 a b ts hk ih =>
    have ha : (g a).lexeme = a.lexeme := by rw [hg.lexeme, hk.1, if_neg (by decide)]
    rw [List.map_cons] at ih
    rw [List.map_cons, List.map_cons, declarations, hg.kind, hg.kind, if_pos hk, ih, List.map_cons,
      Symbol.relabel, ha, lexeme_of_identifier hg hk.2, hg.line]
  | case2 a b ts hk ih =>
    rw [List.map_cons] at ih
    rw [List.map_cons, List.map_cons, declarations, hg.kind, hg.kind, if_neg hk, ih]
  | case3 ts hts =>
    rcases ts with _ | ⟨t, _ | ⟨u, ts⟩⟩
    · rfl
    · rfl
    · exact absurd rfl (hts t u ts)

theorem isAssigned_map (o : Occurrence) : (o.map g).isAssigned = o.isAssigned := by
  simp only [Occurrence.isAssigned, Occurrence.map, hg.kind, isKind_map hg]

theorem isRead_map (o : Occurrence) : (o.map g).isRead = o.isRead := by
  simp only [Occurrence.isRead, Occurrence.map, hg.kind, isKind_map hg]

end

/-! ## Occurrences in a table -/

/-- What is no identifier is neither used nor at fault. -/
theorem Occurrence.idle {o : Occurrence} (ho : o.token.kind ≠ .identifier) (table : SymbolTable) :
    o.use? table = none ∧ o.fault? table = none := by
  simp [use?, fault?, isAssigned, isRead, ho]

theorem Occurrence.name_of_use? {o : Occurrence} {table : SymbolTable} {name : String}
    (h : o.use? table = some name) : o.token.kind = .identifier ∧ o.token.lexeme = name := by
  refine ⟨by_contra fun ho => ?_, ?_⟩
  · rw [(idle ho table).1] at h
    cases h
  · exact Option.some.inj (Option.ite_none_right_eq_some.1 h).2

section
variable {g : Token → Token} (hg : Token.Relabels f n g) (hn : Set.InjOn n names)
  {table : SymbolTable} (ht : table.Within names) {o : Occurrence}
  (ho : o.token.kind = .identifier → o.token.lexeme ∈ names)
include hg hn ht ho

theorem use?_relabel : (o.map g).use? (table.relabel f n) = (o.use? table).map n := by
  by_cases hk : o.token.kind = .identifier
  · have hl : (o.map g).token.lexeme = n o.token.lexeme := lexeme_of_identifier hg hk
    unfold Occurrence.use?
    rw [isAssigned_map hg, isRead_map hg, hl, SymbolTable.contains_relabel hn ht (ho hk)]
    split <;> rfl
  · have hk' : (o.map g).token.kind ≠ .identifier := (hg.kind o.token).trans_ne hk
    rw [(Occurrence.idle hk _).1, (Occurrence.idle hk' _).1, Option.map_none]

theorem fault?_relabel :
    (o.map g).fault? (table.relabel f n) = (o.fault? table).map (Finding.relabel f n) := by
  by_cases hk : o.token.kind = .identifier
  · have hl : (o.map g).token.lexeme = n o.token.lexeme := lexeme_of_identifier hg hk
    have hline : (o.map g).token.line = f o.token.line := hg.line _
    unfold Occurrence.fault?
    rw [isAssigned_map hg, hl, hline, SymbolTable.lookup?_relabel hn ht (ho hk)]
    split
    · cases table.lookup? o.token.lexeme with
      | none => rfl
      | some s =>
        rcases ha : o.afterNext? with _ | r
        · simp [Occurrence.map, ha]
        · simp only [Occurrence.map, ha, Option.map_some, hg.kind, hg.line, Symbol.relabel]
          split <;> rfl
    · rfl
  · have hk' : (o.map g).token.kind ≠ .identifier := (hg.kind o.token).trans_ne hk
    rw [(Occurrence.idle hk _).2, (Occurrence.idle hk' _).2, Option.map_none]

end

/-! ## The analysis of a stream -/

section
variable {ts : List Token} (h : ∀ t ∈ ts, t.kind = .identifier → t.lexeme ∈ names)
include h

theorem lexeme_mem_of_mem_occurrences {o : Occurrence} (ho : o ∈ occurrences ts) :
    o.token.kind = .identifier → o.token.lexeme ∈ names :=
  h o.token (token_mem_of_mem_occurrencesAfter ho)

theorem name_mem_of_declare :
    ∀ op ∈ (declarations ts).map SymbolTable.Op.declare, op.name ∈ names := by
  refine List.forall_mem_map.2 fun s hs => ?_
  obtain ⟨before, k, i, after, rfl, -, hi, hname⟩ := declares_iff.2 ⟨s, hs, rfl⟩
  exact (hname ▸ h i (by simp) hi : s.name ∈ names)

theorem name_mem_of_markUsed :
    ∀ op ∈ ((occurrences ts).filterMap (Occurrence.use? (declared ts))).map
      SymbolTable.Op.markUsed, op.name ∈ names := by
  refine List.forall_mem_map.2 fun name hname => ?_
  obtain ⟨o, ho, hu⟩ := List.mem_filterMap.1 hname
  obtain ⟨hk, rfl⟩ := Occurrence.name_of_use? hu
  exact lexeme_mem_of_mem_occurrences h ho hk

theorem within_declared : (declared ts).Within names :=
  declared_eq_applyAll ts ▸ SymbolTable.within_applyAll (name_mem_of_declare h)

theorem name_mem_of_op :
    ∀ op ∈ (declarations ts).map .declare ++
      ((occurrences ts).filterMap (Occurrence.use? (declared ts))).map .markUsed,
      SymbolTable.Op.name op ∈ names :=
  List.forall_mem_append.2 ⟨name_mem_of_declare h, name_mem_of_markUsed h⟩

theorem within_resolved : (resolved ts).Within names :=
  resolved_eq_applyAll ts ▸ SymbolTable.within_applyAll (name_mem_of_op h)

variable {g : Token → Token} (hg : Token.Relabels f n g) (hn : Set.InjOn n names)
include hg hn

theorem declared_relabel : declared (ts.map g) = (declared ts).relabel f n := by
  rw [declared_eq_applyAll, declared_eq_applyAll, declarations_map hg,
    ← SymbolTable.applyAll_relabel hn (name_mem_of_declare h), List.map_map, List.map_map]
  rfl

theorem uses_relabel :
    (occurrences (ts.map g)).filterMap (Occurrence.use? (declared (ts.map g))) =
      ((occurrences ts).filterMap (Occurrence.use? (declared ts))).map n := by
  rw [occurrences_map, declared_relabel h hg hn, List.filterMap_map, List.map_filterMap]
  exact List.filterMap_congr fun o ho =>
    use?_relabel hg hn (within_declared h) (lexeme_mem_of_mem_occurrences h ho)

theorem faults_relabel :
    (occurrences (ts.map g)).filterMap (Occurrence.fault? (declared (ts.map g))) =
      ((occurrences ts).filterMap (Occurrence.fault? (declared ts))).map (Finding.relabel f n) := by
  rw [occurrences_map, declared_relabel h hg hn, List.filterMap_map, List.map_filterMap]
  exact List.filterMap_congr fun o ho =>
    fault?_relabel hg hn (within_declared h) (lexeme_mem_of_mem_occurrences h ho)

theorem resolved_relabel : resolved (ts.map g) = (resolved ts).relabel f n := by
  rw [resolved_eq_applyAll, resolved_eq_applyAll, uses_relabel h hg hn, declarations_map hg,
    ← SymbolTable.applyAll_relabel hn (name_mem_of_op h), List.map_append, List.map_map,
    List.map_map, List.map_map, List.map_map]
  rfl

/-- **Other names and lines for the tokens, and the analysis is the same with these.** -/
theorem analyze_relabel : analyze (ts.map g) = (analyze ts).relabel f n := by
  unfold analyze Analysis.relabel
  rw [faults_relabel h hg hn, resolved_relabel h hg hn,
    SymbolTable.unused_relabel hn (within_resolved h), List.map_append, List.map_map, List.map_map]
  rfl

end

end Names

end StagedAnalysis

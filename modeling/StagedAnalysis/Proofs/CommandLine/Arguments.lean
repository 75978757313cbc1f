import StagedAnalysis.CommandLine

/-!
# Arguments

The arguments of a program that reads one file: the file alone, or with an encoding on either side
of it. Main statement: `request?_eq_some_iff`, these are the arguments that make a request; all
others make none (`request?_eq_none_iff`).
-/

namespace StagedAnalysis.CommandLine

/-- Arguments that ask for a file. What stands after the option is its value, whatever it is. -/
inductive Asks (encoding : String) : List String → Request → Prop
  | file {f : String} : f ≠ encodingOption → Asks encoding [f] ⟨f, encoding⟩
  | fileFirst {f : String} (e : String) : f ≠ encodingOption →
      Asks encoding [f, encodingOption, e] ⟨f, e⟩
  | encodingFirst (e f : String) : Asks encoding [encodingOption, e, f] ⟨f, e⟩

theorem splitOption_option (e : String) (rest : List String) :
    splitOption (encodingOption :: e :: rest) = some (some e, rest) := by simp [splitOption]

theorem splitOption_of_ne {a : String} (h : a ≠ encodingOption) (as : List String) :
    splitOption (a :: as) = (splitOption as).map fun r => (r.1, a :: r.2) := by
  cases as <;> simp [splitOption, h]

/-- Nothing is left beside the option where there is nothing else. -/
theorem splitOption_eq_some_nil_iff {as : List String} {e? : Option String} :
    splitOption as = some (e?, []) ↔
      as = [] ∧ e? = none ∨ ∃ e, as = [encodingOption, e] ∧ e? = some e := by
  cases as with
  | nil =>
    simp only [splitOption, Option.some.injEq, Prod.mk.injEq, and_true, true_and, reduceCtorEq,
      false_and, exists_false, or_false]
    exact eq_comm
  | cons a as =>
    by_cases ha : a = encodingOption
    · subst ha
      cases as with
      | nil => simp [splitOption]
      | cons e rest =>
        rw [splitOption_option, Option.some.injEq, Prod.mk.injEq]
        constructor
        · rintro ⟨rfl, rfl⟩
          exact .inr ⟨e, rfl, rfl⟩
        · rintro (⟨h, -⟩ | ⟨e', h, rfl⟩)
          · cases h
          · obtain ⟨rfl, rfl⟩ := by simpa using h
            exact ⟨rfl, rfl⟩
    · simp [splitOption_of_ne ha, ha]

theorem request?_eq_some_iff {encoding : String} {args : List String} {r : Request} :
    request? encoding args = some r ↔ Asks encoding args r := by
  constructor
  · intro h
    unfold request? at h
    split at h
    · next e? f hs =>
      obtain rfl := Option.some.inj h
      cases args with
      | nil => simp [splitOption] at hs
      | cons a as =>
        by_cases ha : a = encodingOption
        · subst ha
          cases as with
          | nil => simp [splitOption] at hs
          | cons e rest =>
            obtain ⟨rfl, rfl⟩ := by simpa [splitOption_option] using hs
            exact .encodingFirst e f
        · rw [splitOption_of_ne ha, Option.map_eq_some_iff] at hs
          obtain ⟨⟨e', rest⟩, hr, he⟩ := hs
          obtain ⟨rfl, rfl, rfl⟩ := by simpa using he
          rcases splitOption_eq_some_nil_iff.1 hr with ⟨rfl, rfl⟩ | ⟨e, rfl, rfl⟩
          · exact .file ha
          · exact .fileFirst e ha
    · cases h
  · rintro (hf | ⟨e, hf⟩ | ⟨e, f⟩)
    · simp [request?, splitOption, hf]
    · simp [request?, splitOption, hf]
    · simp [request?, splitOption]

theorem request?_eq_none_iff {encoding : String} {args : List String} :
    request? encoding args = none ↔ ∀ r, ¬Asks encoding args r := by
  simp only [Option.eq_none_iff_forall_ne_some, ne_eq, request?_eq_some_iff]

end StagedAnalysis.CommandLine

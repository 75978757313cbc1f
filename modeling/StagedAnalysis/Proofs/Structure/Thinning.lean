import StagedAnalysis.Proofs.Structure.Semicolons

/-!
# Tokens that the check looks at

The check looks at assignments, semicolons and delimiters. All other tokens it only passes by, with
one exception: the search for a semicolon ends at the first token of another line, whatever that
token is. Where lines never go back this makes no difference, as behind such a token there is no
semicolon of the line left to be found. So in every document the other tokens may go or come.

* `terminated_iff_mem`: the search where lines never go back.
* `Thinned`: a stream less some of the tokens that the check does not look at.
* `check_thinned`: the main statement.
-/

namespace StagedAnalysis

/-- An assignment, a semicolon or a delimiter. Only punctuation can be one of the latter. -/
def Token.isStructural (t : Token) : Bool :=
  t.kind == .assignment || [";", "(", ")", "\x7b", "\x7d"].any t.isPunct

namespace Structure

/-- The first stream is the second less some tokens that the check does not look at. -/
inductive Thinned : List Token → List Token → Prop
  | nil : Thinned [] []
  | keep {ts us : List Token} (t : Token) : Thinned ts us → Thinned (t :: ts) (t :: us)
  | drop {ts us : List Token} {t : Token} : t.isStructural = false → Thinned ts us →
      Thinned ts (t :: us)

variable {t : Token} {ts us : List Token}

/-! ## Other tokens -/

theorem kind_ne_assignment (h : t.isStructural = false) : t.kind ≠ .assignment := by
  intro ha
  simp [Token.isStructural, ha] at h

theorem isPunct_of_not_structural (h : t.isStructural = false) :
    ∀ text ∈ [";", "(", ")", "\x7b", "\x7d"], t.isPunct text = false := by
  have hany := (Bool.or_eq_false_iff.1 h).2
  exact fun text ht => Bool.eq_false_iff.2 (List.any_eq_false.1 hany text ht)

theorem delimiter?_of_not_structural (h : t.isStructural = false) : delimiter? t = none := by
  have hp := isPunct_of_not_structural h
  simp only [List.forall_mem_cons] at hp
  obtain ⟨-, h1, h2, h3, h4, -⟩ := hp
  simp [delimiter?, h1, h2, h3, h4]

theorem isStructural_of_isPunct (h : t.isPunct ";" = true) : t.isStructural = true := by
  simp [Token.isStructural, h]

/-! ## Thinned streams -/

namespace Thinned

theorem filter (ts : List Token) : Thinned (ts.filter Token.isStructural) ts := by
  induction ts with
  | nil => exact .nil
  | cons t ts ih =>
    rw [List.filter_cons]
    split
    · exact .keep t ih
    · next h => exact .drop (Bool.eq_false_iff.2 h) ih

theorem sublist (h : Thinned ts us) : ts.Sublist us := by
  induction h with
  | nil => exact .slnil
  | keep t _ ih => exact .cons_cons t ih
  | drop _ _ ih => exact .cons _ ih

theorem mem_iff (h : Thinned ts us) (ht : t.isStructural = true) : t ∈ ts ↔ t ∈ us := by
  induction h with
  | nil => rfl
  | keep u _ ih => rw [List.mem_cons, List.mem_cons, ih]
  | drop hu _ ih =>
    rw [ih, List.mem_cons, iff_or_self]
    rintro rfl
    rw [hu] at ht
    cases ht

end Thinned

/-! ## Assignments -/

/-- From a line that is not behind any of the tokens, the search finds every semicolon of it. -/
theorem terminated_iff_mem {line : Int} (h : ts.Pairwise fun t u => t.line ≤ u.line)
    (hl : ∀ t ∈ ts, line ≤ t.line) :
    terminated line ts = true ↔ ∃ t ∈ ts, t.isPunct ";" = true ∧ t.line = line := by
  induction ts with
  | nil => simp [terminated]
  | cons t ts ih =>
    obtain ⟨ht, hts⟩ := List.pairwise_cons.1 h
    have ih := ih hts fun u hu => hl u (.tail _ hu)
    rw [terminated_cons, Bool.and_eq_true, beq_iff_eq, Bool.or_eq_true, ih,
      List.exists_mem_cons_iff]
    constructor
    · rintro ⟨hline, hp | hu⟩
      · exact .inl ⟨hp, hline⟩
      · exact .inr hu
    · rintro (⟨hp, hline⟩ | ⟨u, hu, hp, hline⟩)
      · exact ⟨hline, .inl hp⟩
      · -- the first token stands between the line and a token of the line
        have hle := ht u hu
        have hge := hl t (.head _)
        exact ⟨by omega, .inr ⟨u, hu, hp, hline⟩⟩

theorem terminated_thinned {line : Int} (h : Thinned ts us)
    (ho : us.Pairwise fun t u => t.line ≤ u.line) (hl : ∀ u ∈ us, line ≤ u.line) :
    terminated line ts = terminated line us := by
  have hts : ∀ t ∈ ts, line ≤ t.line := fun t ht => hl t (h.sublist.subset ht)
  rw [Bool.eq_iff_iff, terminated_iff_mem (ho.sublist h.sublist) hts, terminated_iff_mem ho hl]
  constructor
  · rintro ⟨t, ht, hp, hline⟩
    exact ⟨t, h.sublist.subset ht, hp, hline⟩
  · rintro ⟨t, ht, hp, hline⟩
    exact ⟨t, (h.mem_iff (isStructural_of_isPunct hp)).2 ht, hp, hline⟩

theorem unterminated_thinned (h : Thinned ts us) (ho : us.Pairwise fun t u => t.line ≤ u.line) :
    unterminated ts = unterminated us := by
  induction h with
  | nil => rfl
  | keep t h ih =>
    obtain ⟨ht, ho⟩ := List.pairwise_cons.1 ho
    rw [unterminated, unterminated, terminated_thinned h ho ht, ih ho]
  | drop hu _ ih =>
    rw [unterminated, if_neg fun ha => kind_ne_assignment hu ha.1, ih (List.pairwise_cons.1 ho).2]

/-! ## Delimiters -/

theorem Depths.of_not_structural (h : t.isStructural = false) (d : Depths) :
    d.step t = d ∧ d.unmatched? t = none := by
  simp [step, unmatched?, delimiter?_of_not_structural h]

/-- The counts are the same at every token that is kept. -/
theorem unmatchedClosers_thinned (h : Thinned ts us) (d : Depths) :
    unmatchedClosers d ts = unmatchedClosers d us ∧
      ts.foldl Depths.step d = us.foldl Depths.step d := by
  induction h generalizing d with
  | nil => exact ⟨rfl, rfl⟩
  | keep t _ ih =>
    obtain ⟨hc, hd⟩ := ih (d.step t)
    exact ⟨by rw [unmatchedClosers, unmatchedClosers, hc], hd⟩
  | drop hu _ ih =>
    obtain ⟨hs, hn⟩ := Depths.of_not_structural hu d
    obtain ⟨hc, hd⟩ := ih d
    exact ⟨by rw [unmatchedClosers, hn, hs, hc]; rfl, by rw [List.foldl_cons, hs, hd]⟩

/-! ## The whole check -/

theorem check_eq_of_thinned (h : Thinned ts us) (ho : us.Pairwise fun t u => t.line ≤ u.line) :
    check ts = check us := by
  obtain ⟨hc, hd⟩ := unmatchedClosers_thinned h {}
  simp only [check, unbalanced, finalDepths, unterminated_thinned h ho, hc, hd]

/-- **The check sees only its own tokens.** Where lines never go back, the findings, with all that
they say and in their order, are those on the assignments, semicolons and delimiters alone, and no
other tokens that are put in anywhere change them as long as lines do not go back. In a document
they never do. -/
theorem check_thinned :
    (∀ ts : List Token, (ts.Pairwise fun t u => t.line ≤ u.line) →
      check (ts.filter Token.isStructural) = check ts) ∧
    (∀ ts us : List Token, Thinned ts us → (us.Pairwise fun t u => t.line ≤ u.line) →
      check us = check ts) ∧
    ∀ text, (Document.ofText text).tokens.Pairwise fun t u => t.line ≤ u.line :=
  ⟨fun ts ho => check_eq_of_thinned (.filter ts) ho,
    fun _ _ h ho => (check_eq_of_thinned h ho).symm, pairwise_line_tokens⟩

/-- A string that holds a brace, a comma at the end of a line and all the names may go, or come back
to what is left. -/
theorem check_thinned_sample :
    let us := (Document.ofText "if (x == \"\x7b\") y = f(1,\n2); \x7d").tokens
    let ts := us.filter Token.isStructural
    ts.length = 7 ∧ us.length = 16 ∧ Thinned ts us ∧
    (us.Pairwise fun t u => t.line ≤ u.line) ∧
    check ts = [.missingSemicolon 1, .unmatchedCloser .brace 2] ∧ check us = check ts := by
  intro us ts
  obtain ⟨hremoved, hinserted, hdocument⟩ := check_thinned
  have hcheck : check us = [.missingSemicolon 1, .unmatchedCloser .brace 2] := by decide +kernel
  exact ⟨by decide +kernel, by decide +kernel, .filter us, hdocument _,
    (hremoved us (hdocument _)).trans hcheck, hinserted ts us (.filter us) (hdocument _)⟩

/-- Where lines go back, a name can keep a semicolon from being found. -/
example :
    let ts : List Token :=
      [⟨.assignment, "=", 1, 0⟩, ⟨.identifier, "y", 2, 0⟩, ⟨.punctuation, ";", 1, 0⟩]
    check ts = [.missingSemicolon 1] ∧ check (ts.filter Token.isStructural) = [] := by decide

end Structure

end StagedAnalysis

import StagedAnalysis.Outcome
import StagedAnalysis.Proofs.Document.Blank

/-!
# Outcomes of reading

The outcome of the first stage in terms of the document alone. The empty text is not read at all,
but a document of it would have no tokens, so what is said of documents holds of it too.

* `runLexical_ok_iff`, `runLexical_tokens`: when reading passes, and which tokens it hands on;
  `runLexical_tokens_of_not_ok`: where it does not pass it hands on none.
* `noCode_runLexical_iff`: there is no code in blank text only.
-/

namespace StagedAnalysis

theorem runLexical_of_ne {text : String} (h : text ≠ "") :
    runLexical text = (Document.ofText text).outcome := if_neg h

/-- The document of no text has nothing to tell. -/
theorem ofText_empty : (Document.ofText "").lines = [⟨1, "", .ok []⟩] := by
  have hs : scan 1 [] = .ok [] := scan_eq_ok_nil_iff.2 (by simp)
  show [Line.read 1 []] = _
  rw [Line.read, hs]

theorem tokens_empty : (Document.ofText "").tokens = [] := by
  rw [Document.tokens, ofText_empty]
  rfl

theorem Document.outcome_ok_iff {d : Document} :
    d.outcome.ok = true ↔ d.ok = true ∧ d.tokens ≠ [] := by
  unfold Document.outcome LexicalOutcome.ok
  cases hd : d.ok with
  | false => simp
  | true => cases ht : d.tokens <;> simp

theorem runLexical_ok_iff {text : String} :
    (runLexical text).ok = true ↔
      (Document.ofText text).ok = true ∧ (Document.ofText text).tokens ≠ [] := by
  by_cases h : text = ""
  · subst h
    simp [tokens_empty, runLexical, LexicalOutcome.ok]
  · rw [runLexical_of_ne h, Document.outcome_ok_iff]

/-- Where reading passes, all tokens of the document are handed on. -/
theorem runLexical_tokens {text : String} (h : (runLexical text).ok = true) :
    (runLexical text).tokens = (Document.ofText text).tokens := by
  obtain ⟨hok, ht⟩ := runLexical_ok_iff.1 h
  have hne : text ≠ "" := fun he => ht (he ▸ tokens_empty)
  rw [runLexical_of_ne hne, Document.outcome, if_neg (by simp [hok]), if_neg (by simpa using ht)]

theorem Document.outcome_tokens_of_not_ok {d : Document} (h : ¬d.outcome.ok = true) :
    d.outcome.tokens = [] := by
  rw [outcome_ok_iff, not_and, not_not] at h
  unfold outcome
  split
  · rfl
  · next hd =>
    have ht := h (by simpa using hd)
    rw [if_pos (by simp [ht])]

theorem runLexical_tokens_of_not_ok {text : String} (h : ¬(runLexical text).ok = true) :
    (runLexical text).tokens = [] := by
  by_cases he : text = ""
  · subst he
    rfl
  · rw [runLexical_of_ne he] at h ⊢
    exact Document.outcome_tokens_of_not_ok h

theorem runLexical_document {text : String} (h : text ≠ "") :
    (runLexical text).document = some (Document.ofText text) := by
  rw [runLexical_of_ne h]
  unfold Document.outcome
  split
  · rfl
  · split <;> rfl

/-- There is no code exactly in blank text. -/
theorem noCode_runLexical_iff {text : String} :
    (runLexical text).noCode = true ↔ Text.Blank text.toList := by
  by_cases h : text = ""
  · subst h
    simp [runLexical, LexicalOutcome.noCode]
  · rw [← ok_and_tokens_eq_nil_iff, LexicalOutcome.noCode, runLexical_document h]
    simp

end StagedAnalysis

import Mathlib.Tactic.TFAE
import StagedAnalysis.Proofs.Document.Composition
import StagedAnalysis.Proofs.Session.Gate

/-!
# No code

Whether there is anything to analyze is asked of the whole text, of its lines, of the tokens, of the
outcome of reading and of a new session. The answer is the same everywhere, and besides it reading
needs nothing but lines that can be read.

* `Document.isBlank_ofText_iff`: the lines are blank if the text is.
* `error_and_tokens_read_iff`: a single line that gives nothing.
* `runLexical_tokens_eq_nil_iff`, `runLexical_lexPassed_iff`: what reading hands on, and when.
* `noCode_tfae`: the main statement.
-/

namespace StagedAnalysis

theorem Document.isBlank_ofText_iff {text : String} :
    (ofText text).isBlank = true ↔ Text.Blank text.toList := by
  have ht : (ofText text).lines.map Line.text = (Text.lines text.toList).map String.ofList :=
    texts_readLines 1 _
  have hb : (ofText text).isBlank =
      ((ofText text).lines.map Line.text).all fun t => decide (Text.Blank t.toList) := by
    simp [isBlank, List.all_map, Function.comp_def]
  rw [hb, ht, ← blank_lines_iff]
  simp

/-- A line gives neither an error nor a token exactly if it is blank. -/
theorem error_and_tokens_read_iff {n : Int} {s : List Char} :
    (Line.read n s).error? = none ∧ (Line.read n s).tokens = [] ↔ Text.Blank s := by
  rw [← scan_eq_ok_nil_iff (n := n)]
  unfold Line.error? Line.tokens Line.read
  dsimp only
  cases scan n s <;> simp

/-- Reading that does not pass keeps back the tokens of all lines, also of those without error. -/
theorem runLexical_tokens_eq_nil_iff {text : String} :
    (runLexical text).tokens = [] ↔ (runLexical text).progress ≠ .lexPassed := by
  by_cases h : (runLexical text).ok = true
  · have hp := LexicalOutcome.ok_iff.1 h
    have ht := (runLexical_ok_iff.1 h).2
    simp [runLexical_tokens h, hp, ht]
  · have hp := mt LexicalOutcome.ok_iff.2 h
    simp [hp, runLexical_tokens_of_not_ok h]

theorem runLexical_lexPassed_iff {text : String} :
    (runLexical text).progress = .lexPassed ↔ ¬Text.Blank text.toList ∧ ¬FailsOnLine text := by
  rw [← LexicalOutcome.ok_iff, runLexical_ok_iff, failsOnLine_iff, ← ok_and_tokens_eq_nil_iff]
  cases (Document.ofText text).ok <;> simp

/-- **All ways to ask for code agree.** A text that trimming empties is the same as one that is
blank line by line, one that is read without an error and without a token, one of which reading says
that there is no code, and one that a new session would not read. A line gives neither an error nor
a token exactly if it is blank. Reading passes if there is code and every line can be tokenized, and
hands on no token otherwise. -/
theorem noCode_tfae (text : String) :
    [Text.trim text.toList = [],
      (Document.ofText text).isBlank = true,
      (Document.ofText text).ok = true ∧ (Document.ofText text).tokens = [],
      (runLexical text).noCode = true,
      (Session.start text).canRun .lexical = false].TFAE ∧
    (∀ l ∈ (Document.ofText text).lines,
      l.error? = none ∧ l.tokens = [] ↔ Text.trim l.text.toList = []) ∧
    ((runLexical text).progress = .lexPassed ↔
      Text.trim text.toList ≠ [] ∧ ¬FailsOnLine text) ∧
    ((runLexical text).tokens = [] ↔ (runLexical text).progress ≠ .lexPassed) := by
  simp only [ne_eq, Text.trim_eq_nil_iff]
  refine ⟨?same, ?lines, runLexical_lexPassed_iff, runLexical_tokens_eq_nil_iff⟩
  case same =>
    tfae_have 2 ↔ 1 := Document.isBlank_ofText_iff
    tfae_have 3 ↔ 1 := ok_and_tokens_eq_nil_iff
    tfae_have 4 ↔ 1 := noCode_runLexical_iff
    tfae_have 5 ↔ 1 := by
      rw [← Bool.not_eq_true, Session.canRun_lexical]
      simp [Session.start]
    tfae_finish
  case lines =>
    intro l hl
    obtain ⟨k, s, -, rfl⟩ := Document.mem_readLines hl
    have ht : (Line.read (1 + k) s).text.toList = s := String.toList_ofList
    rw [ht, error_and_tokens_read_iff]

/-- A blank line gives nothing, and the line below it keeps back what the line above it gives. -/
theorem noCode_tfae_sample :
    Line.read 2 ['\t'] ∈ (Document.ofText "int x;\n\t\n@").lines ∧
    (Line.read 2 ['\t']).error? = none ∧ (Line.read 2 ['\t']).tokens = [] ∧
    (Document.ofText "int x;\n\t\n@").tokens.length = 3 ∧
    (runLexical "int x;\n\t\n@").tokens = [] := by
  have hline : Line.read 2 ['\t'] ∈ (Document.ofText "int x;\n\t\n@").lines :=
    List.mem_of_getElem? (i := 1) rfl
  obtain ⟨-, hlines, -, htokens⟩ := noCode_tfae "int x;\n\t\n@"
  obtain ⟨he, ht⟩ := (hlines _ hline).2 (by decide)
  exact ⟨hline, he, ht, by decide +kernel, htokens.2 (by decide +kernel)⟩

end StagedAnalysis

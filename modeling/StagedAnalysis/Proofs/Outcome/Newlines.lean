import Mathlib.Data.List.Forall2
import StagedAnalysis.Proofs.Outcome.Lexical
import StagedAnalysis.Proofs.Token.Seam

/-!
# Texts with other ends of lines

Reading does not notice blanks at the ends of lines. So where every carriage return stands before a
line feed, it makes no difference whether newlines have been unified.

* `forall₂_lines_unifyNewlines`: unifying newlines takes blanks off the ends of lines.
* `Document.ok_tokens_errors_congr`: a document is what the lines were read as.
* `runLexical_unifyNewlines`: the main statement.
-/

namespace StagedAnalysis

namespace Text

/-! ## Ends of lines -/

/-- Every carriage return has a line feed right behind it. -/
def ReturnsBeforeFeeds (s : List Char) : Prop := ∀ i, s[i]? = some '\r' → s[i + 1]? = some '\n'

instance (s : List Char) : Decidable (ReturnsBeforeFeeds s) :=
  decidable_of_iff (∀ i < s.length, s[i]? = some '\r' → s[i + 1]? = some '\n')
    ⟨fun h i hi => h i (List.getElem?_eq_some_iff.1 hi).1 hi, fun h i _ => h i⟩

/-- `m` is `l` with blanks behind it. -/
def Padded (l m : List Char) : Prop := ∃ w, Blank w ∧ m = l ++ w

variable {s : List Char}

theorem ReturnsBeforeFeeds.tail {c : Char} (h : ReturnsBeforeFeeds (c :: s)) :
    ReturnsBeforeFeeds s := fun i hi => h (i + 1) hi

theorem Padded.refl (l : List Char) : Padded l l := ⟨[], blank_nil, (List.append_nil l).symm⟩

theorem Padded.cons {l m : List Char} (h : Padded l m) (c : Char) : Padded (c :: l) (c :: m) := by
  obtain ⟨w, hw, rfl⟩ := h
  exact ⟨w, hw, rfl⟩

theorem lines_feed (s : List Char) : lines ('\n' :: s) = [] :: lines s := by
  simp [lines, pieces]

/-- A character that ends no line stands in front of the first one. -/
theorem lines_cons {c : Char} (hc : c ≠ '\n') (s : List Char) :
    ∃ l ls, lines s = l :: ls ∧ lines (c :: s) = (c :: l) :: ls := by
  have hne : lines s ≠ [] := pieces_ne_nil s
  obtain ⟨l, ls, hl⟩ := List.exists_cons_of_ne_nil hne
  refine ⟨l, ls, hl, ?_⟩
  unfold lines at hl ⊢
  simp [pieces, hc, hl]

theorem lines_return_feed (s : List Char) : lines ('\r' :: '\n' :: s) = ['\r'] :: lines s := by
  obtain ⟨l, ls, hl, hr⟩ := lines_cons (c := '\r') (by decide) ('\n' :: s)
  rw [lines_feed, List.cons.injEq] at hl
  rw [hr, ← hl.1, ← hl.2]

theorem padded_return : Padded [] ['\r'] := ⟨['\r'], by decide, rfl⟩

theorem forall₂_lines_cons {c : Char} (hc : c ≠ '\n') {t : List Char}
    (h : List.Forall₂ Padded (lines s) (lines t)) :
    List.Forall₂ Padded (lines (c :: s)) (lines (c :: t)) := by
  obtain ⟨l, ls, hl, hs⟩ := lines_cons hc s
  obtain ⟨m, ms, hm, ht⟩ := lines_cons hc t
  rw [hl, hm] at h
  rw [hs, ht]
  cases h with
  | cons hp hf => exact .cons (hp.cons c) hf

theorem forall₂_lines_unifyNewlines (h : ReturnsBeforeFeeds s) :
    List.Forall₂ Padded (lines (unifyNewlines s)) (lines s) := by
  fun_induction unifyNewlines s with
  | case1 => exact .cons (.refl []) .nil
  | case2 s ih =>
    rw [lines_feed, lines_return_feed]
    exact .cons padded_return (ih h.tail.tail)
  | case3 c s hs ih =>
    have hc : c ≠ '\r' := by
      intro hc
      have h0 := h 0 (by rw [hc]; rfl)
      cases s with
      | nil => cases h0
      | cons d s =>
        obtain rfl := Option.some.inj h0
        exact hs s hc rfl
    rw [if_neg hc]
    have hf := ih h.tail
    by_cases hn : c = '\n'
    · rw [hn, lines_feed, lines_feed]
      exact .cons (.refl []) hf
    · exact forall₂_lines_cons hn hf

theorem blank_unifyNewlines : Blank (unifyNewlines s) ↔ Blank s := by
  have hr : isBlank '\r' = true := by decide
  have hn : isBlank '\n' = true := by decide
  fun_induction unifyNewlines s with
  | case1 => rfl
  | case2 s ih => simp [hr, hn, ih]
  | case3 c s hs ih =>
    simp only [blank_cons, ih]
    split
    · next hc => simp [hc, hr, hn]
    · rfl

end Text

/-! ## Documents -/

namespace Document

/-- Lines that only differ in blanks behind them are read as the same. -/
theorem forall₂_result_readLines {ls ms : List (List Char)} (h : List.Forall₂ Text.Padded ls ms)
    (n : Int) :
    List.Forall₂ (fun l m : Line => l.result = m.result) (readLines n ls) (readLines n ms) := by
  induction h generalizing n with
  | nil => exact .nil
  | cons hp _ ih =>
    obtain ⟨w, hw, rfl⟩ := hp
    exact .cons (scan_append_of_blank hw n _).symm (ih (n + 1))

theorem ok_tokens_errors_congr {d e : Document}
    (h : List.Forall₂ (fun l m : Line => l.result = m.result) d.lines e.lines) :
    d.ok = e.ok ∧ d.tokens = e.tokens ∧ d.errors = e.errors := by
  unfold ok tokens errors
  generalize d.lines = ls at h
  generalize e.lines = ms at h
  induction h with
  | nil => exact ⟨rfl, rfl, rfl⟩
  | @cons l m ls ms hr _ ih =>
    obtain ⟨hok, ht, he⟩ := ih
    have hl : l.error? = m.error? := by simp only [Line.error?, hr]
    refine ⟨?_, ?_, ?_⟩
    · simp only [List.all_cons, Line.ok, hl, hok]
    · simp only [List.flatMap_cons, Line.tokens, hr, ht]
    · simp only [List.filterMap_cons, hl, he]

end Document

/-! ## Outcomes -/

/-- The same is handed on and the same is written; the texts behind may differ. -/
structure LexicalOutcome.Alike (o p : LexicalOutcome) : Prop where
  progress : o.progress = p.progress
  tokens : o.tokens = p.tokens
  console : o.console = p.console

theorem LexicalOutcome.Alike.refl (o : LexicalOutcome) : o.Alike o := ⟨rfl, rfl, rfl⟩

theorem LexicalOutcome.Alike.symm {o p : LexicalOutcome} (h : o.Alike p) : p.Alike o :=
  ⟨h.progress.symm, h.tokens.symm, h.console.symm⟩

theorem Document.alike_outcome {d e : Document}
    (h : d.ok = e.ok ∧ d.tokens = e.tokens ∧ d.errors = e.errors) :
    d.outcome.Alike e.outcome := by
  obtain ⟨hok, ht, he⟩ := h
  unfold outcome
  rw [hok, ht, he]
  split
  · exact ⟨rfl, rfl, rfl⟩
  · split <;> exact ⟨rfl, rfl, rfl⟩

/-- Reading does not notice whether newlines have been unified. -/
theorem runLexical_unifyNewlines {s : List Char} (h : Text.ReturnsBeforeFeeds s) :
    (runLexical (String.ofList (Text.unifyNewlines s))).Alike (runLexical (String.ofList s)) := by
  by_cases hs : s = []
  · subst hs
    exact ⟨rfl, rfl, rfl⟩
  · have hu : Text.unifyNewlines s ≠ [] := by
      unfold Text.unifyNewlines
      split <;> simp_all
    have hl := Document.forall₂_result_readLines (Text.forall₂_lines_unifyNewlines h) 1
    rw [runLexical_of_ne (by simpa using hu), runLexical_of_ne (by simpa using hs)]
    refine Document.alike_outcome (Document.ok_tokens_errors_congr ?_)
    simpa [Document.ofText, Document.ofChars] using hl

end StagedAnalysis

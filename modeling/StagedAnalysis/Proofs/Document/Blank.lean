import Mathlib.Data.List.TakeWhile
import StagedAnalysis.Proofs.Document.WholeText

/-!
# Blank documents

A text in which every line can be read has no token exactly if it is blank: what is not blank
belongs to a lexeme then.

* `trim_eq_nil_iff`, `blank_lines_iff`: a text is blank if trimming leaves nothing, or if its lines
  are.
* `failsOnLine_iff`: what it means for a document not to be read.
* `ok_and_tokens_eq_nil_iff`: the main statement.
-/

namespace StagedAnalysis

/-- Nothing is left of blank text, and of blank text only. -/
theorem Text.trim_eq_nil_iff {s : List Char} : trim s = [] ↔ Blank s := by
  have hd (t : List Char) : t.dropWhile isBlank = [] ↔ Blank t := List.dropWhile_eq_nil_iff
  rw [trim, trimEnd, List.reverse_eq_nil_iff, hd]
  constructor
  · intro h
    rw [← List.takeWhile_append_dropWhile (p := isBlank) (l := s), blank_append]
    exact ⟨List.all_eq_true.1 List.all_takeWhile, fun c hc => h c (List.mem_reverse.2 hc)⟩
  · intro h
    rw [trimStart, (hd s).2 h]
    exact blank_nil

theorem blank_join {ls : List (List Char)} :
    Text.Blank (Text.join '\n' ls) ↔ ∀ l ∈ ls, Text.Blank l := by
  induction ls with
  | nil => simp [Text.join]
  | cons l ls ih =>
    cases ls with
    | nil => simp [Text.join]
    | cons m ls =>
      have hn : Text.isBlank '\n' = true := by decide
      simp only [Text.join, Text.blank_append, Text.blank_cons, ih, hn, true_and,
        List.forall_mem_cons (a := l)]

theorem blank_lines_iff {s : List Char} : (∀ l ∈ Text.lines s, Text.Blank l) ↔ Text.Blank s := by
  rw [← blank_join, Text.lines, Text.join_pieces]

theorem scan_eq_ok_nil_iff {n : Int} {s : List Char} : scan n s = .ok [] ↔ Text.Blank s := by
  rw [scan_eq_ok_iff]
  constructor
  · rintro ⟨hg, hp⟩
    have hs : (cut s).segments = [] := by
      rw [← List.length_eq_zero_iff, ← length_place n 0, ← hp, List.length_nil]
    have ht := text_cut s
    rw [Cut.text, hs, List.flatMap_nil, List.nil_append] at ht
    exact ht ▸ hg (cut s).rest (by simp [Cut.gaps])
  · intro h
    rw [cut_of_blank h]
    exact ⟨by simpa [Cut.gaps] using h, rfl⟩

/-- There is a line that cannot be tokenized. -/
def FailsOnLine (text : String) : Prop :=
  ∃ (k : Nat) (l : List Char) (e : LexicalError),
    (Text.lines text.toList)[k]? = some l ∧ tokenize (String.ofList l) (k + 1) = .error e

theorem failsOnLine_iff {text : String} :
    FailsOnLine text ↔ (Document.ofText text).ok = false := by
  rw [← Bool.not_eq_true, Document.ofText, Document.ok_ofChars_iff]
  constructor
  · rintro ⟨k, l, e, hl, he⟩ h
    obtain ⟨ts, ht⟩ := h k l hl
    rw [tokenize, String.toList_ofList, Int.add_comm, ht] at he
    cases he
  · intro h
    simp only [not_forall] at h
    obtain ⟨k, l, hl, hn⟩ := h
    cases hs : scan (1 + k) l with
    | ok ts => exact absurd ⟨ts, hs⟩ hn
    | error e => exact ⟨k, l, e, hl, by rw [tokenize, String.toList_ofList, Int.add_comm, hs]⟩

/-- A document that can be read has no token exactly if its text is blank. -/
theorem ok_and_tokens_eq_nil_iff {text : String} :
    (Document.ofText text).ok = true ∧ (Document.ofText text).tokens = [] ↔
      Text.Blank text.toList := by
  rw [Document.ofText, Document.ok_ofChars_iff, ← blank_lines_iff]
  constructor
  · rintro ⟨hok, ht⟩ l hl
    obtain ⟨k, hk⟩ := List.mem_iff_getElem?.1 hl
    obtain ⟨ts, hs⟩ := hok k l hk
    have hm : Line.read (1 + k) l ∈ (Document.ofChars text.toList).lines :=
      List.mem_of_getElem? (i := k) (by
        rw [Document.ofChars, Document.readLines_getElem?, hk]
        rfl)
    have hts := List.flatMap_eq_nil_iff.1 ht _ hm
    rw [tokens_read hs] at hts
    exact scan_eq_ok_nil_iff.1 (hts ▸ hs)
  · intro h
    refine ⟨fun k l hk => ⟨[], scan_eq_ok_nil_iff.2 (h l (List.mem_of_getElem? hk))⟩, ?_⟩
    refine List.flatMap_eq_nil_iff.2 fun r hr => ?_
    obtain ⟨k, l, hl, rfl⟩ := Document.mem_readLines hr
    exact tokens_read (scan_eq_ok_nil_iff.2 (h l (List.mem_of_getElem? hl)))

end StagedAnalysis

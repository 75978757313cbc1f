import StagedAnalysis.Proofs.Token.MaximalCut

/-!
# Errors of the scanner

A text that cannot be scanned has a gap that is not blank. The error is about the first such gap: it
quotes the gap trimmed, and takes its line from outside.

* `scan_eq_error_iff`: which texts are not scanned, and with which error.
* `mem_of_mem_near`: the quoted text is part of the text.
-/

namespace StagedAnalysis

theorem mem_of_mem_trim {s : List Char} {c : Char} (h : c ∈ Text.trim s) : c ∈ s := by
  have hd {t : List Char} (ht : c ∈ t.dropWhile Text.isBlank) : c ∈ t :=
    List.dropWhile_subset _ ht
  unfold Text.trim Text.trimEnd Text.trimStart at h
  rw [List.mem_reverse] at h
  exact hd (List.mem_reverse.1 (hd h))

theorem scan_eq_error_iff {line : Int} {s : List Char} {e : LexicalError} :
    scan line s = .error e ↔
      ∃ g, (cut s).gaps.find? (fun g => !decide (Text.Blank g)) = some g ∧
        e = ⟨String.ofList (Text.trim g), line⟩ := by
  unfold scan
  cases (cut s).gaps.find? fun g => !decide (Text.Blank g) <;> simp [eq_comm]

/-- Among blank gaps there is none to report. -/
theorem find?_gaps_of_blank {gs : List (List Char)} (h : ∀ g ∈ gs, Text.Blank g) :
    gs.find? (fun g => !decide (Text.Blank g)) = none :=
  List.find?_eq_none.2 fun g hg => by simp [h g hg]

theorem line_of_scan_error {line : Int} {s : List Char} {e : LexicalError}
    (h : scan line s = .error e) : e.line = line := by
  obtain ⟨g, -, rfl⟩ := scan_eq_error_iff.1 h
  rfl

/-- A gap is part of the text that was cut. -/
theorem mem_of_mem_gap {c : Cut} {g : List Char} (hg : g ∈ c.gaps) {x : Char} (hx : x ∈ g) :
    x ∈ c.text := by
  simp only [Cut.gaps, List.mem_append, List.mem_map, List.mem_singleton] at hg
  simp only [Cut.text, List.mem_append, List.mem_flatMap, Segment.text]
  rcases hg with ⟨s, hs, rfl⟩ | rfl
  · exact .inl ⟨s, hs, .inl hx⟩
  · exact .inr hx

/-- What an error quotes stands in the text. -/
theorem mem_of_mem_near {line : Int} {s : List Char} {e : LexicalError}
    (h : scan line s = .error e) {x : Char} (hx : x ∈ e.near.toList) : x ∈ s := by
  obtain ⟨g, hg, rfl⟩ := scan_eq_error_iff.1 h
  have hm := mem_of_mem_gap (List.mem_of_find?_eq_some hg) (mem_of_mem_trim (by simpa using hx))
  rwa [text_cut] at hm

end StagedAnalysis

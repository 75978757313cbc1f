import StagedAnalysis.Proofs.Document.WholeText
import StagedAnalysis.Proofs.Layout.Positions
import StagedAnalysis.Proofs.Token.Printing

/-!
# A document on one line

A line feed only separates. In a text that can be read, a space in its place leaves the same lexemes
with a gap wherever there was one, so they are read again, all of them on the first line.

* `map_asLexeme_tokens`: the lexemes of a document are those of its text as a whole.
* `Cut.mapGaps`, `Cut.Maximal.onOneLine`: the cut with spaces for line feeds is maximal too.
* `ofText_onOneLine`: the document on one line.
-/

namespace StagedAnalysis

/-- The document has the lexemes of the cut of its text, between blank gaps. -/
theorem map_asLexeme_tokens {s : List Char} (h : (Document.ofChars s).ok = true) :
    (∀ g ∈ (cut s).gaps, Text.Blank g) ∧
      (Document.ofChars s).tokens.map Token.asLexeme = (cut s).segments.map Segment.lexeme := by
  have hne : Text.lines s ≠ [] := Text.pieces_ne_nil _
  have hj : Text.join '\n' (Text.lines s) = s := Text.join_pieces _
  have hb := ok_ofChars_iff_blank.1 h
  have hf := forall₂_readLines (p := []) (.inl rfl) hne
    (fun l hl => Text.not_mem_of_mem_pieces hl) hb
  rw [List.nil_append, hj] at hf
  refine ⟨?_, ?_⟩
  · rw [← hj]
    exact (blank_gaps_join hne).2 hb
  · rw [← map_asLexeme_place 1 0 (cut s).segments]
    rw [← List.forall₂_eq_eq_eq, List.forall₂_map_left_iff, List.forall₂_map_right_iff]
    refine (hf.imp fun t u hl => ?_).flip
    show u.asLexeme = t.asLexeme
    rw [Token.asLexeme, Token.asLexeme, hl.kind, hl.lexeme]

/-! ## Spaces for line feeds -/

/-- A space where there is a line feed. -/
def spaceForFeed (c : Char) : Char := if c = '\n' then ' ' else c

theorem spaceForFeed_ne (c : Char) : spaceForFeed c ≠ '\n' := by
  unfold spaceForFeed
  split
  · decide
  · assumption

theorem isBlank_spaceForFeed {c : Char} (h : Text.isBlank c = true) :
    Text.isBlank (spaceForFeed c) = true := by
  unfold spaceForFeed
  split
  · decide
  · exact h

theorem map_spaceForFeed {s : List Char} (h : '\n' ∉ s) : s.map spaceForFeed = s := by
  refine (List.map_congr_left fun c hc => if_neg ?_).trans (List.map_id s)
  rintro rfl
  exact h hc

namespace Cut

/-- The same lexemes with other gaps, character by character. -/
def mapGaps (f : Char → Char) (c : Cut) : Cut :=
  ⟨c.segments.map fun s => { s with gap := s.gap.map f }, c.rest.map f⟩

theorem gaps_mapGaps (f : Char → Char) (c : Cut) :
    (c.mapGaps f).gaps = c.gaps.map (List.map f) := by
  simp [mapGaps, gaps, Function.comp_def]

theorem lexemes_mapGaps (f : Char → Char) (c : Cut) :
    (c.mapGaps f).segments.map Segment.lexeme = c.segments.map Segment.lexeme := by
  simp [mapGaps, Function.comp_def]

theorem text_mapGaps {f : Char → Char} {c : Cut}
    (h : ∀ l ∈ c.segments.map Segment.lexeme, l.text.map f = l.text) :
    (c.mapGaps f).text = c.text.map f := by
  obtain ⟨ss, rest⟩ := c
  induction ss with
  | nil => rfl
  | cons s ss ih =>
    have hi := ih fun l hl => h l (.tail _ hl)
    have hs := h s.lexeme (.head _)
    rw [text_segment, List.map_append, List.map_append, ← hi, hs]
    exact text_segment _ _ _

/-- Spaces for line feeds leave the lexemes apart that were apart. -/
theorem Maximal.onOneLine {c : Cut} (h : c.Maximal) : (c.mapGaps spaceForFeed).Maximal := by
  refine maximal_of_spaced ⟨?wellFormed, ?blank, ?feed⟩ ?spaced
  case wellFormed =>
    intro s hs
    refine h.wellFormed _ ?_
    rw [← c.lexemes_mapGaps spaceForFeed]
    exact List.mem_map_of_mem hs
  case blank =>
    rw [gaps_mapGaps, List.forall_mem_map]
    intro g hg d hd
    obtain ⟨c, hc, rfl⟩ := List.mem_map.1 hd
    exact isBlank_spaceForFeed (h.blank_gaps g hg c hc)
  case feed =>
    rw [gaps_mapGaps, List.forall_mem_map]
    intro g _ hn
    obtain ⟨c, -, hc⟩ := List.mem_map.1 hn
    exact spaceForFeed_ne c hc
  case spaced =>
    refine (List.isChain_map _).2 (h.spaced.imp fun s t hst hg => ?_)
    have := hst hg
    simpa using this

end Cut

/-! ## The document -/

/-- The text with a space in place of every line feed. -/
def onOneLine (text : String) : String := String.ofList (text.toList.map spaceForFeed)

theorem cut_onOneLine {s : List Char} (h : ∀ g ∈ (cut s).gaps, Text.Blank g) :
    cut (s.map spaceForFeed) = (cut s).mapGaps spaceForFeed := by
  have hm := maximal_cut h
  have ht : ((cut s).mapGaps spaceForFeed).text = s.map spaceForFeed := by
    have hf : ∀ l ∈ (cut s).segments.map Segment.lexeme, l.text.map spaceForFeed = l.text :=
      fun l hl => map_spaceForFeed (hm.wellFormed l hl).newline_not_mem
    rw [Cut.text_mapGaps hf, text_cut]
  rw [← ht, cut_of_maximal hm.onOneLine]

theorem lines_onOneLine (text : String) :
    Text.lines (onOneLine text).toList = [text.toList.map spaceForFeed] := by
  rw [onOneLine, String.toList_ofList]
  refine Text.pieces_of_not_mem fun hn => ?_
  obtain ⟨c, -, hc⟩ := List.mem_map.1 hn
  exact spaceForFeed_ne c hc

/-- What can be read on several lines can be read on one, and has the same lexemes. -/
theorem ofText_onOneLine {text : String} (h : (Document.ofText text).ok = true) :
    (Document.ofText (onOneLine text)).ok = true ∧
      SameLexemes (Document.ofText text).tokens (Document.ofText (onOneLine text)).tokens ∧
      ∀ t ∈ (Document.ofText (onOneLine text)).tokens, t.line = 1 := by
  obtain ⟨hb, hl⟩ := map_asLexeme_tokens h
  have hc := cut_onOneLine hb
  have hlines := lines_onOneLine text
  have hok : (Document.ofText (onOneLine text)).ok = true := by
    refine ok_ofChars_iff_blank.2 fun l hl => ?_
    rw [hlines, List.mem_singleton] at hl
    rw [hl, hc]
    exact (maximal_cut hb).onOneLine.blank_gaps
  refine ⟨hok, ?_, fun t ht => ?_⟩
  · have hs : (onOneLine text).toList = text.toList.map spaceForFeed := String.toList_ofList
    have hl' := (map_asLexeme_tokens hok).2
    rw [hs, hc, Cut.lexemes_mapGaps] at hl'
    exact hl.trans (by rw [Document.ofText, hs, hl'])
  · have ht := Document.line_of_mem_tokens ht
    rw [hlines, List.length_singleton] at ht
    omega

end StagedAnalysis

import StagedAnalysis.Proofs.Token.Failure
import StagedAnalysis.Proofs.Token.Printing
import StagedAnalysis.Proofs.Token.Resumption

/-!
# Texts kept apart by blanks

With blanks between them two texts are read one after the other. Only a literal reaches over a
blank, and where one does so the text before the blank cannot be read: its quote is left open.

* `text_eq_of_prefix_literal`, `Lexeme.LongestAt.append_blank`: a lexeme that is the longest stays
  so when a blank follows the text.
* `cut_append_blank_append`: the cut of texts that are kept apart.
* `trim_find?_gaps_append`: what is reported is the same trimmed.
* `scan_append_blank_append`: the main statement.
-/

namespace StagedAnalysis

/-! ## Lexemes before a blank -/

/-- No lexeme stands at the start of a literal but the literal. -/
theorem text_eq_of_prefix_literal {l m : Lexeme} (hl : l.WellFormed) (hm : IsLiteral m.text)
    (hp : l.text <+: m.text) : l.text = m.text := by
  obtain ⟨c, s, hc⟩ := List.exists_cons_of_ne_nil hl.text_ne_nil
  obtain ⟨t, ht⟩ := hp
  rw [← ht] at hm ⊢
  have hq : c = '"' := by
    rw [hc] at hm
    exact head_literal hm
  have hs := hl.shape_cons hc
  rw [if_pos hq, ← hc] at hs
  cases t with
  | nil => rw [List.append_nil]
  | cons d t => exact absurd hm (not_isLiteral_append hs.1)

/-- A longer lexeme would hold the blank, so it would be a literal. -/
theorem Lexeme.LongestAt.append_blank {l : Lexeme} {s : List Char} (h : l.LongestAt s) {c : Char}
    (hc : Text.isBlank c = true) (t : List Char) : l.LongestAt (s ++ c :: t) where
  wellFormed := h.wellFormed
  stands := h.stands.trans (List.prefix_append _ _)
  longest m hm hp := by
    rcases List.prefix_or_prefix_of_prefix hp (List.prefix_append s (c :: t)) with hs | ⟨v, hv⟩
    · exact h.longest m hm hs
    · cases v with
      | nil =>
        rw [List.append_nil] at hv
        exact h.longest m hm (hv ▸ List.prefix_refl s)
      | cons d v =>
        rw [← hv, List.prefix_append_right_inj, List.cons_prefix_cons] at hp
        have hk : m.kind = .string := by
          by_contra hk
          have hb := hm.not_isBlank_of_mem hk (c := c) (by rw [← hv, hp.1]; simp)
          rw [hc] at hb
          cases hb
        have hl : l.text <+: m.text := h.stands.trans ⟨d :: v, hv⟩
        rw [text_eq_of_prefix_literal h.wellFormed (hm.admits hk) hl]

theorem ReadBefore.append_blank {after : List Char} {ss : List Segment} (h : ReadBefore after ss)
    {c : Char} (hc : Text.isBlank c = true) (t : List Char) :
    ReadBefore (after ++ c :: t) ss := by
  induction h with
  | nil => exact .nil
  | @cons s ss hg hl _ ih =>
    refine .cons hg ?_ ih
    rw [← List.append_assoc (ss.flatMap _), ← List.append_assoc]
    exact hl.append_blank hc t

/-! ## Cuts -/

theorem Cut.text_append_rest (c : Cut) (w : List Char) :
    text ⟨c.segments, c.rest ++ w⟩ = c.text ++ w := (List.append_assoc ..).symm

/-- The blanks go to the gap between the two cuts. -/
theorem cut_append_blank_append {a w : List Char} (ha : ∀ g ∈ (cut a).gaps, Text.Blank g)
    (hne : w ≠ []) (hw : Text.Blank w) (b : List Char) :
    cut (a ++ (w ++ b)) = Cut.append ⟨(cut a).segments, (cut a).rest ++ w⟩ (cut b) := by
  obtain ⟨c, v, rfl⟩ := List.exists_cons_of_ne_nil hne
  obtain ⟨hread, hrest⟩ := Cut.maximal_iff_readBefore.1 (maximal_cut ha)
  have hread := hread.append_blank (Text.blank_cons.1 hw).1 (v ++ b)
  have hgap : Text.Blank ((cut a).rest ++ c :: v) := Text.blank_append.2 ⟨hrest, hw⟩
  have ht : (cut a).segments.flatMap Segment.text ++ (cut a).rest = a := text_cut a
  calc cut (a ++ (c :: v ++ b))
      = cut ((cut a).segments.flatMap Segment.text ++ ((cut a).rest ++ c :: (v ++ b))) := by
        rw [← List.append_assoc ((cut a).segments.flatMap _), ht, List.cons_append]
    _ = Cut.append ⟨(cut a).segments, []⟩ (cut ((cut a).rest ++ c :: v ++ b)) := by
        rw [cut_of_readBefore hread, List.append_assoc, List.cons_append]
    _ = Cut.append ⟨(cut a).segments, (cut a).rest ++ c :: v⟩ (cut b) := by
        rw [cut_append_of_blank hgap]
        rfl

/-! ## What is reported -/

theorem Text.trim_blank_append {w : List Char} (hw : Text.Blank w) (s : List Char) :
    Text.trim (w ++ s) = Text.trim s := by
  rw [Text.trim, Text.trimStart, List.dropWhile_append_of_pos hw, Text.trim, Text.trimStart]

/-- Only the first gap of the second cut is another, and trimmed it is the same. -/
theorem trim_find?_gaps_append {c d : Cut} (hc : ∀ g ∈ c.gaps, Text.Blank g) :
    ((c.append d).gaps.find? fun g => !decide (Text.Blank g)).map Text.trim =
      (d.gaps.find? fun g => !decide (Text.Blank g)).map Text.trim := by
  have hrest : Text.Blank c.rest := hc c.rest (by simp [Cut.gaps])
  have hsegments : ∀ g ∈ c.segments.map Segment.gap, Text.Blank g :=
    fun g hg => hc g (List.mem_append_left _ hg)
  obtain ⟨g, gs, hd, hi⟩ := d.gaps_indent c.rest
  rw [Cut.gaps_append, List.find?_append, find?_gaps_of_blank hsegments, Option.none_or, hi, hd]
  by_cases hg : Text.Blank g
  · simp [hrest, hg]
  · simp [hrest, hg, Text.trim_blank_append]

/-! ## What is read -/

/-- The token with another column. -/
def Token.mapColumn (f : Int → Int) (t : Token) : Token := { t with column := f t.column }

theorem map_mapColumn_place (line : Int) (n k : Nat) (ss : List Segment) :
    (place line n ss).map (Token.mapColumn (· + (k : Int))) = place line (n + k) ss := by
  induction ss generalizing n with
  | nil => rfl
  | cons s ss ih =>
    simp only [place, List.map_cons, ih, Token.mapColumn]
    rw [show n + k + s.gap.length = n + s.gap.length + k by omega,
      show n + s.gap.length + k + s.lexeme.text.length =
        n + s.gap.length + s.lexeme.text.length + k by omega]
    congr 2
    omega

/-- **Texts kept apart.** Behind a text that can be read and a blank, a text is read as if it stood
alone, further to the right. -/
theorem scan_append_blank_append {line : Int} {a w : List Char} {ts : List Token}
    (ha : scan line a = .ok ts) (hne : w ≠ []) (hw : Text.Blank w) (b : List Char) :
    scan line (a ++ (w ++ b)) =
      (scan line b).map fun us =>
        ts ++ us.map (Token.mapColumn (· + ((a ++ w).length : Int))) := by
  obtain ⟨hga, rfl⟩ := scan_eq_ok_iff.1 ha
  have hcut := cut_append_blank_append hga hne hw b
  have hgaps : ∀ g ∈ Cut.gaps ⟨(cut a).segments, (cut a).rest ++ w⟩, Text.Blank g := by
    simp only [Cut.gaps, List.forall_mem_append, List.forall_mem_singleton] at hga ⊢
    exact ⟨hga.1, Text.blank_append.2 ⟨hga.2, hw⟩⟩
  cases hb : scan line b with
  | error e =>
    obtain ⟨g, hg, rfl⟩ := scan_eq_error_iff.1 hb
    have ht := trim_find?_gaps_append (d := cut b) hgaps
    rw [hg, ← hcut] at ht
    obtain ⟨g', hg', ht'⟩ := Option.map_eq_some_iff.1 ht
    exact scan_eq_error_iff.2 ⟨g', hg', by rw [ht']⟩
  | ok us =>
    obtain ⟨hgb, rfl⟩ := scan_eq_ok_iff.1 hb
    refine scan_eq_ok_iff.2 ⟨?_, ?_⟩
    · rw [hcut]
      exact Cut.blank_gaps_append.2 ⟨hgaps, hgb⟩
    · rw [hcut, Cut.place_append_segments, Cut.text_append_rest, text_cut, ← map_mapColumn_place]

end StagedAnalysis

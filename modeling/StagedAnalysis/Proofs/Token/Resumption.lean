import StagedAnalysis.Proofs.Token.Seam

/-!
# What the scanner reads and what it skips

The cut of any text, said without scanning: at a place where a lexeme stands the longest one is
taken, and where none stands a character is skipped. In that the text behind a place counts, as a
lexeme may need much of it, so what is read and what is skipped is told together with what follows.

* `Skipped`, `ReadBefore`: characters where no lexeme stands, and lexemes in blank gaps, each with
  the text behind it; `cut_of_skipped`, `cut_of_readBefore`: how the cut goes on from there.
* `Cut.Scanned`, `scanned_cut`: every cut of the scanner is made of the two.
-/

namespace StagedAnalysis

/-! ## Skipped characters -/

/-- Wherever one starts in the first text, no lexeme stands there, with the second text behind. -/
def Skipped (g after : List Char) : Prop :=
  ∀ a b, g = a ++ b → b ≠ [] → ∀ l : Lexeme, l.WellFormed → ¬l.text <+: b ++ after

theorem skipped_nil (after : List Char) : Skipped [] after := by
  intro a b h hb
  exact absurd (List.append_eq_nil_iff.1 h.symm).2 hb

theorem skipped_cons {c : Char} {g after : List Char} :
    Skipped (c :: g) after ↔ munch (c :: (g ++ after)) = none ∧ Skipped g after := by
  constructor
  · intro h
    exact ⟨munch_eq_none_iff.2 (h [] (c :: g) rfl (by simp)),
      fun a b hg hb => h (c :: a) b (by rw [hg]; rfl) hb⟩
  · rintro ⟨hm, h⟩ a b hg hb
    cases a with
    | nil =>
      obtain rfl : c :: g = b := hg
      exact munch_eq_none_iff.1 hm
    | cons d a => exact h a b (List.cons.inj hg).2 hb

theorem cut_of_skipped {g after : List Char} (h : Skipped g after) :
    cut (g ++ after) = (cut after).indent g := by
  induction g with
  | nil => rfl
  | cons c g ih =>
    rw [skipped_cons] at h
    rw [List.cons_append, cut_of_munch_eq_none h.1, ih h.2, Cut.indent_cons]

/-! ## Lexemes that have been read -/

/-- Blank gaps and lexemes that are each the longest at its place, with this text behind them. -/
inductive ReadBefore (after : List Char) : List Segment → Prop
  | nil : ReadBefore after []
  | cons {s : Segment} {ss : List Segment} : Text.Blank s.gap →
      s.lexeme.LongestAt (s.lexeme.text ++ (ss.flatMap Segment.text ++ after)) →
      ReadBefore after ss → ReadBefore after (s :: ss)

/-- A maximal cut is read up to its last gap. -/
theorem Cut.maximal_iff_readBefore {ss : List Segment} {rest : List Char} :
    Cut.Maximal ⟨ss, rest⟩ ↔ ReadBefore rest ss ∧ Text.Blank rest := by
  induction ss with
  | nil => exact ⟨fun | .rest h => ⟨.nil, h⟩, fun h => .rest h.2⟩
  | cons s ss ih =>
    constructor
    · rintro (_ | ⟨hg, hl, hm⟩)
      exact ⟨.cons hg hl (ih.1 hm).1, (ih.1 hm).2⟩
    · rintro ⟨_ | ⟨hg, hl, hs⟩, hr⟩
      exact .segment hg hl (ih.2 ⟨hs, hr⟩)

theorem Cut.indent_append (g : List Char) (c d : Cut) :
    (c.indent g).append d = (c.append d).indent g := by
  induction g with
  | nil => rfl
  | cons x g ih => rw [indent_cons, skip_append, ih, indent_cons]

/-- What was read is cut as it was read, and what follows as if it stood alone. -/
theorem cut_of_readBefore {after : List Char} {ss : List Segment} (h : ReadBefore after ss) :
    cut (ss.flatMap Segment.text ++ after) = Cut.append ⟨ss, []⟩ (cut after) := by
  induction h with
  | nil => rfl
  | @cons s ss hg hl _ ih =>
    have hm := munch_eq_some_iff.2 ⟨hl, rfl⟩
    have hs : (⟨s :: ss, []⟩ : Cut) = (Cut.take s.lexeme ⟨ss, []⟩).indent s.gap := by
      rw [Cut.take, Cut.indent_segments, List.append_nil]
    rw [List.flatMap_cons, Segment.text, List.append_assoc, List.append_assoc,
      cut_append_of_blank hg, cut_of_munch hm, ih, hs, Cut.indent_append, Cut.take_append]

/-- A lexeme that is the longest with more text behind it is so with less. -/
theorem Lexeme.LongestAt.of_append {l : Lexeme} {s t : List Char}
    (h : l.LongestAt (l.text ++ (s ++ t))) : l.LongestAt (l.text ++ s) where
  wellFormed := h.wellFormed
  stands := List.prefix_append _ _
  longest m hm hp := h.longest m hm (hp.trans ⟨t, by rw [List.append_assoc]⟩)

theorem ReadBefore.of_append {after more : List Char} {ss : List Segment}
    (h : ReadBefore (after ++ more) ss) : ReadBefore after ss := by
  induction h with
  | nil => exact .nil
  | @cons s ss hg hl _ ih =>
    rw [← List.append_assoc (ss.flatMap _)] at hl
    exact .cons hg hl.of_append ih

theorem ReadBefore.blank_gap {after : List Char} {ss : List Segment} (h : ReadBefore after ss) :
    ∀ g ∈ ss.map Segment.gap, Text.Blank g := by
  induction h with
  | nil => simp
  | cons hg _ _ ih => exact List.forall_mem_cons.2 ⟨hg, ih⟩

/-! ## Every cut -/

/-- Skipped gaps, and between them lexemes that are each the longest at its place. -/
inductive Cut.Scanned : Cut → Prop
  | rest {g : List Char} : Skipped g [] → Scanned ⟨[], g⟩
  | segment {g : List Char} {l : Lexeme} {ss : List Segment} {rest : List Char} :
      Skipped g (l.text ++ Cut.text ⟨ss, rest⟩) → l.LongestAt (l.text ++ Cut.text ⟨ss, rest⟩) →
      Scanned ⟨ss, rest⟩ → Scanned ⟨⟨g, l⟩ :: ss, rest⟩

theorem Cut.Scanned.skip {c : Char} {d : Cut} (hc : munch (c :: d.text) = none) (h : d.Scanned) :
    (d.skip c).Scanned := by
  cases h with
  | rest hg => exact .rest (skipped_cons.2 ⟨by simpa [Cut.text] using hc, hg⟩)
  | segment hg hl hs =>
    refine .segment (skipped_cons.2 ⟨?_, hg⟩) hl hs
    rwa [Cut.text_segment] at hc

/-- The scanner skips where no lexeme stands, and nowhere else. -/
theorem scanned_cut (s : List Char) : (cut s).Scanned := by
  fun_induction cut s with
  | case1 s l rest hm ih =>
    have hs : s = l.text ++ (cut rest).text := by rw [text_cut, munch_text hm]
    have hl := longestAt_of_munch hm
    rw [hs] at hl
    exact .segment (skipped_nil _) hl ih
  | case2 => exact .rest (skipped_nil _)
  | case3 c s hm ih => exact ih.skip (by rwa [text_cut])

end StagedAnalysis

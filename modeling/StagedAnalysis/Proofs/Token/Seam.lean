import Mathlib.Data.List.TakeWhile
import StagedAnalysis.Proofs.Token.MaximalCut

/-!
# Cuts across a seam

Where no lexeme reaches over a place, what stands before it is the same with and without the text
after it: the cut of the whole is the cuts of both parts, joined in the gap. Such a seam is before
every line feed, and before blanks that end a text. Such blanks are not noticed: where the last gap
makes the scanner fail they are not quoted, so a text is scanned as it is without them.

* `seam_newline`, `seam_of_blank`: where seams are.
* `munch_append`, `cut_append`: reading and cutting stop at a seam.
* `cut_append_newline`, `cut_append_blank`: the cut across a line feed, and before last blanks.
* `blank_gaps_append`, `place_append_segments`: the gaps and the tokens of joined cuts.
* `scan_append_of_blank`: blanks at the end of a text do not matter.
-/

namespace StagedAnalysis

namespace Cut

/-- Two cuts one after the other; the gaps at the seam become one. -/
def append (c d : Cut) : Cut :=
  ⟨c.segments ++ (d.indent c.rest).segments, (d.indent c.rest).rest⟩

theorem take_append (l : Lexeme) (c d : Cut) : (c.take l).append d = (c.append d).take l := rfl

theorem skip_append (x : Char) (c d : Cut) : (c.skip x).append d = (c.append d).skip x := by
  rcases c with ⟨_ | ⟨s, ss⟩, rest⟩ <;> rfl

theorem gaps_indent (w : List Char) (d : Cut) :
    ∃ g gs, d.gaps = g :: gs ∧ (d.indent w).gaps = (w ++ g) :: gs := by
  rcases d with ⟨_ | ⟨s, ss⟩, rest⟩
  · exact ⟨rest, [], rfl, by rw [indent_rest]; rfl⟩
  · exact ⟨s.gap, ss.map Segment.gap ++ [rest], rfl, by rw [indent_segments]; rfl⟩

theorem gaps_append (c d : Cut) :
    (c.append d).gaps = c.segments.map Segment.gap ++ (d.indent c.rest).gaps := by
  simp [append, gaps]

theorem blank_gaps_append {c d : Cut} :
    (∀ g ∈ (c.append d).gaps, Text.Blank g) ↔
      (∀ g ∈ c.gaps, Text.Blank g) ∧ ∀ g ∈ d.gaps, Text.Blank g := by
  obtain ⟨g, gs, hd, hi⟩ := d.gaps_indent c.rest
  rw [gaps_append, hi, hd]
  simp only [gaps, List.mem_append, List.mem_cons, List.not_mem_nil, or_false, or_imp, forall_and,
    forall_eq, Text.blank_append, and_assoc]

/-- Characters in the first gap move all lexemes on. -/
theorem place_indent (line : Int) (n : Nat) (w : List Char) (d : Cut) :
    place line n (d.indent w).segments = place line (n + w.length) d.segments := by
  rcases d with ⟨_ | ⟨s, ss⟩, rest⟩
  · rw [indent_rest]
    rfl
  · rw [indent_segments]
    simp only [place, List.length_append, Nat.add_assoc, Int.natCast_add]

/-- The lexemes of the second cut come after the whole text of the first. -/
theorem place_append_segments (line : Int) (n : Nat) (c d : Cut) :
    place line n (c.append d).segments =
      place line n c.segments ++ place line (n + c.text.length) d.segments := by
  show place line n (c.segments ++ (d.indent c.rest).segments) = _
  rw [place_append, place_indent, text, List.length_append, Nat.add_assoc]

end Cut

/-! ## Reading up to a seam -/

/-- No lexeme that stands before this text reaches into it. -/
def Seam (w : List Char) : Prop :=
  ∀ (a : List Char) (m : Lexeme), m.WellFormed → m.text <+: a ++ w → m.text <+: a

/-- No lexeme holds a line feed. -/
theorem seam_newline (b : List Char) : Seam ('\n' :: b) := by
  intro a m hm hp
  rcases List.prefix_or_prefix_of_prefix hp (List.prefix_append a ('\n' :: b)) with h | ⟨w, hw⟩
  · exact h
  · cases w with
    | nil => simp [← hw]
    | cons x w =>
      rw [← hw, List.prefix_append_right_inj, List.cons_prefix_cons] at hp
      exact absurd (by simp [← hw, hp.1]) hm.newline_not_mem

/-- No lexeme ends in a blank. -/
theorem seam_of_blank {w : List Char} (hw : Text.Blank w) : Seam w := by
  intro a m hm hp
  rcases List.prefix_or_prefix_of_prefix hp (List.prefix_append a w) with h | ⟨v, hv⟩
  · exact h
  · rcases List.eq_nil_or_concat v with rfl | ⟨v', c, rfl⟩
    · simp [← hv]
    · rw [← hv, List.prefix_append_right_inj] at hp
      have hc : c ∈ w := hp.subset (by simp)
      rw [List.concat_eq_append, ← List.append_assoc] at hv
      have hb := hm.not_isBlank_last hv.symm
      rw [hw c hc] at hb
      cases hb

section
variable {w : List Char} (hw : Seam w)
include hw

theorem longestAt_append_iff {l : Lexeme} {a : List Char} :
    l.LongestAt (a ++ w) ↔ l.LongestAt a := by
  have hp {m : Lexeme} (h : m.text <+: a) : m.text <+: a ++ w := h.trans (List.prefix_append _ _)
  constructor
  · intro ⟨hl, hs, hm⟩
    exact ⟨hl, hw a l hl hs, fun m hl hs => hm m hl (hp hs)⟩
  · intro ⟨hl, hs, hm⟩
    exact ⟨hl, hp hs, fun m hl hs => hm m hl (hw a m hl hs)⟩

theorem munch_append (a : List Char) :
    munch (a ++ w) = (munch a).map fun p => (p.1, p.2 ++ w) := by
  cases h : munch a with
  | none =>
    rw [munch_eq_none_iff] at h
    exact munch_eq_none_iff.2 fun m hm hs => h m hm (hw a m hm hs)
  | some p =>
    obtain ⟨hl, ha⟩ := munch_eq_some_iff.1 h
    refine munch_eq_some_iff.2 ⟨(longestAt_append_iff hw).2 hl, ?_⟩
    rw [ha, List.append_assoc]

/-- What stands before a seam is cut as if nothing came after it. -/
theorem cut_append (a : List Char) : cut (a ++ w) = (cut a).append (cut w) := by
  fun_induction cut a with
  | case1 a l rest h ih =>
    have hm : munch (a ++ w) = some (l, rest ++ w) := by rw [munch_append hw, h, Option.map_some]
    rw [cut_of_munch hm, ih, Cut.take_append]
  | case2 h => rfl
  | case3 x a h ih =>
    have hm : munch (x :: (a ++ w)) = none := by
      rw [← List.cons_append, munch_append hw, h, Option.map_none]
    rw [List.cons_append, cut_of_munch_eq_none hm, ih, Cut.skip_append]

end

/-- The line feed goes to the gap between the two cuts. -/
theorem cut_append_newline (a b : List Char) :
    cut (a ++ '\n' :: b) = (cut a).append ((cut b).skip '\n') := by
  rw [cut_append (seam_newline b), cut_of_munch_eq_none (munch_of_isBlank (by decide) b)]

/-- Blanks at the end go to the last gap. -/
theorem cut_append_blank {w : List Char} (hw : Text.Blank w) (a : List Char) :
    cut (a ++ w) = ⟨(cut a).segments, (cut a).rest ++ w⟩ := by
  rw [cut_append (seam_of_blank hw), cut_of_blank hw, Cut.append, Cut.indent_rest, List.append_nil]

theorem blank_gaps_skip_newline {c : Cut} :
    (∀ g ∈ (c.skip '\n').gaps, Text.Blank g) ↔ ∀ g ∈ c.gaps, Text.Blank g := by
  obtain ⟨g, gs, hc, hs⟩ := c.gaps_skip '\n'
  have hn : Text.isBlank '\n' = true := by decide
  rw [hs, hc]
  simp [hn]

theorem place_skip (line : Int) (n : Nat) (x : Char) (c : Cut) :
    place line n (c.skip x).segments = place line (n + 1) c.segments :=
  c.place_indent line n [x]

/-! ## Blanks at the end -/

namespace Text

variable {w : List Char} (hw : Blank w)
include hw

theorem trimEnd_append_of_blank (s : List Char) : trimEnd (s ++ w) = trimEnd s := by
  have hr : ∀ c ∈ w.reverse, isBlank c = true := fun c hc => hw c (List.mem_reverse.1 hc)
  rw [trimEnd, trimEnd, List.reverse_append, List.dropWhile_append_of_pos hr]

theorem trim_append_of_blank (s : List Char) : trim (s ++ w) = trim s := by
  unfold trim trimStart
  rw [List.dropWhile_append]
  split
  · next h =>
    rw [List.isEmpty_iff.1 h, List.dropWhile_eq_nil_iff.2 hw]
  · exact trimEnd_append_of_blank hw _

end Text

/-- The last gap is all that is different, and it is reported without the blanks. -/
theorem scan_append_of_blank {w : List Char} (hw : Text.Blank w) (n : Int) (s : List Char) :
    scan n (s ++ w) = scan n s := by
  have hb : Text.Blank ((cut s).rest ++ w) ↔ Text.Blank (cut s).rest := by
    simp [Text.blank_append, hw]
  unfold scan
  rw [cut_append_blank hw]
  simp only [Cut.gaps, List.find?_append]
  cases ((cut s).segments.map Segment.gap).find? fun g => !decide (Text.Blank g) with
  | some g => rfl
  | none =>
    by_cases h : Text.Blank (cut s).rest
    · simp [h, hw]
    · simp [h, hw, Text.trim_append_of_blank hw]

end StagedAnalysis

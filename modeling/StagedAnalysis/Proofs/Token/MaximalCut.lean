import StagedAnalysis.Proofs.Token.Longest
import StagedAnalysis.Token.Scan

/-!
# Maximal cuts

A cut is maximal when its gaps are blank and each lexeme is the longest that stands at its place,
with all of the remaining text before it. Nothing in that speaks of scanning.

* `cut_of_maximal`, `maximal_cut`: the scanner finds the maximal cut of a text if there is one, and
  a cut of the scanner whose gaps are blank is maximal; so there is at most one
  (`Cut.Maximal.unique`).
* `place_append`, `place_getElem?`: a token stands where its lexeme was cut.
* `tokenize_maximal`: a text is tokenized exactly if it has a maximal cut, into its lexemes.
-/

namespace StagedAnalysis

/-! ## Cutting step by step -/

theorem cut_nil : cut [] = ⟨[], []⟩ := by
  rw [cut]
  rfl

theorem cut_of_munch {s rest : List Char} {l : Lexeme} (h : munch s = some (l, rest)) :
    cut s = (cut rest).take l := by
  rw [cut]
  split
  · rename_i l' rest' h'
    rw [h, Option.some.injEq, Prod.mk.injEq] at h'
    rw [h'.1, h'.2]
  · rename_i h'
    rw [h] at h'
    cases h'

theorem cut_of_munch_eq_none {c : Char} {s : List Char} (h : munch (c :: s) = none) :
    cut (c :: s) = (cut s).skip c := by
  rw [cut]
  split
  · rename_i h'
    rw [h] at h'
    cases h'
  · rfl

namespace Cut

/-- More characters in the first gap. -/
def indent (g : List Char) (c : Cut) : Cut := g.foldr skip c

@[simp] theorem indent_cons (d : Char) (g : List Char) (c : Cut) :
    c.indent (d :: g) = (c.indent g).skip d := rfl

theorem indent_rest (g rest : List Char) : indent g ⟨[], rest⟩ = ⟨[], g ++ rest⟩ := by
  induction g with
  | nil => rfl
  | cons d g ih => rw [indent_cons, ih]; rfl

theorem indent_segments (g : List Char) (s : Segment) (ss : List Segment) (rest : List Char) :
    indent g ⟨s :: ss, rest⟩ = ⟨⟨g ++ s.gap, s.lexeme⟩ :: ss, rest⟩ := by
  induction g with
  | nil => rfl
  | cons d g ih => rw [indent_cons, ih]; rfl

theorem gaps_take (l : Lexeme) (c : Cut) : (c.take l).gaps = [] :: c.gaps := rfl

/-- A character is put in front of the first gap. -/
theorem gaps_skip (d : Char) (c : Cut) :
    ∃ g gs, c.gaps = g :: gs ∧ (c.skip d).gaps = (d :: g) :: gs := by
  rcases c with ⟨_ | ⟨s, ss⟩, rest⟩
  · exact ⟨rest, [], rfl, rfl⟩
  · exact ⟨s.gap, ss.map Segment.gap ++ [rest], rfl, rfl⟩

end Cut

/-- No lexeme starts with a blank. -/
theorem munch_of_isBlank {d : Char} (hd : Text.isBlank d = true) (s : List Char) :
    munch (d :: s) = none := by
  refine munch_eq_none_iff.2 fun l hl hp => ?_
  obtain ⟨w, hw, -⟩ := exists_text_eq_cons hl hp
  rw [hl.not_isBlank_head hw] at hd
  cases hd

theorem cut_append_of_blank {g : List Char} (hg : Text.Blank g) (s : List Char) :
    cut (g ++ s) = (cut s).indent g := by
  induction g with
  | nil => rfl
  | cons d g ih =>
    rw [Text.blank_cons] at hg
    rw [List.cons_append, cut_of_munch_eq_none (munch_of_isBlank hg.1 _), ih hg.2, Cut.indent_cons]

/-- Blank text is a gap and no lexeme. -/
theorem cut_of_blank {s : List Char} (h : Text.Blank s) : cut s = ⟨[], s⟩ := by
  have hc := cut_append_of_blank h []
  rwa [List.append_nil, cut_nil, Cut.indent_rest, List.append_nil] at hc

/-! ## Maximal cuts -/

/-- Blank gaps, and between them lexemes that are each the longest at its place. -/
inductive Cut.Maximal : Cut → Prop
  | rest {g : List Char} : Text.Blank g → Maximal ⟨[], g⟩
  | segment {g : List Char} {l : Lexeme} {ss : List Segment} {rest : List Char} :
      Text.Blank g → l.LongestAt (l.text ++ Cut.text ⟨ss, rest⟩) → Maximal ⟨ss, rest⟩ →
      Maximal ⟨⟨g, l⟩ :: ss, rest⟩

namespace Cut

theorem text_segment (s : Segment) (ss : List Segment) (rest : List Char) :
    text ⟨s :: ss, rest⟩ = s.gap ++ (s.lexeme.text ++ text ⟨ss, rest⟩) := by
  simp [text, Segment.text]

theorem Maximal.skip {d : Char} (hd : Text.isBlank d = true) {c : Cut} (h : c.Maximal) :
    (c.skip d).Maximal := by
  cases h with
  | rest hg => exact .rest (Text.blank_cons.2 ⟨hd, hg⟩)
  | segment hg hl hs => exact .segment (Text.blank_cons.2 ⟨hd, hg⟩) hl hs

end Cut

/-- The scanner finds the maximal cut. -/
theorem cut_of_maximal {c : Cut} (h : c.Maximal) : cut c.text = c := by
  induction h with
  | @rest g hg =>
    have h := cut_append_of_blank hg []
    rw [List.append_nil, cut_nil, Cut.indent_rest, List.append_nil] at h
    exact h
  | @segment g l ss rest hg hl _ ih =>
    have hm := munch_eq_some_iff.2 ⟨hl, rfl⟩
    rw [Cut.text_segment, cut_append_of_blank hg, cut_of_munch hm, ih]
    show Cut.indent g ⟨⟨[], l⟩ :: ss, rest⟩ = _
    rw [Cut.indent_segments, List.append_nil]

theorem Cut.Maximal.unique {c d : Cut} (hc : c.Maximal) (hd : d.Maximal) (h : c.text = d.text) :
    c = d := by
  rw [← cut_of_maximal hc, ← cut_of_maximal hd, h]

/-- What the scanner leaves between lexemes decides whether its cut is maximal. -/
theorem maximal_cut {s : List Char} (h : ∀ g ∈ (cut s).gaps, Text.Blank g) :
    (cut s).Maximal := by
  fun_induction cut s with
  | case1 s l rest hm ih =>
    rw [Cut.gaps_take] at h
    have hs : s = l.text ++ (cut rest).text := by rw [text_cut, munch_text hm]
    have hl := longestAt_of_munch hm
    rw [hs] at hl
    exact .segment Text.blank_nil hl (ih fun g hg => h g (.tail _ hg))
  | case2 => exact .rest Text.blank_nil
  | case3 d s _ ih =>
    obtain ⟨g, gs, hg, hs⟩ := (cut s).gaps_skip d
    rw [hs] at h
    have hd := Text.blank_cons.1 (h _ (.head _))
    refine (ih fun g' hg' => ?_).skip hd.1
    rw [hg] at hg'
    rcases List.mem_cons.1 hg' with rfl | hg'
    · exact hd.2
    · exact h g' (.tail _ hg')

theorem Cut.Maximal.blank_gaps {c : Cut} (h : c.Maximal) : ∀ g ∈ c.gaps, Text.Blank g := by
  induction h with
  | rest hg => simpa [Cut.gaps] using hg
  | segment hg _ _ ih =>
    intro g' hg'
    rcases List.mem_cons.1 hg' with rfl | hg'
    · exact hg
    · exact ih g' hg'

theorem Cut.Maximal.longestAt {c : Cut} (h : c.Maximal) {before after : List Segment} {s : Segment}
    (hs : c.segments = before ++ s :: after) :
    s.lexeme.LongestAt (s.lexeme.text ++ Cut.text ⟨after, c.rest⟩) := by
  induction h generalizing before with
  | rest => simp at hs
  | segment _ hl _ ih =>
    cases before with
    | nil =>
      obtain ⟨rfl, rfl⟩ := List.cons.inj hs
      exact hl
    | cons b before => exact ih (List.cons.inj hs).2

/-! ## Tokens at their places -/

theorem place_append (line : Int) (n : Nat) (ss ts : List Segment) :
    place line n (ss ++ ts) =
      place line n ss ++ place line (n + (ss.flatMap Segment.text).length) ts := by
  induction ss generalizing n with
  | nil => simp [place]
  | cons s ss ih =>
    simp only [List.cons_append, place, ih, List.flatMap_cons, Segment.text, List.length_append]
    simp only [Nat.add_assoc]

theorem length_place (line : Int) (n : Nat) (ss : List Segment) :
    (place line n ss).length = ss.length := by
  induction ss generalizing n with
  | nil => rfl
  | cons s ss ih => simp [place, ih]

/-- A token stands after the text before it and the gap before its lexeme. -/
theorem place_getElem? (line : Int) (n : Nat) (before after : List Segment) (s : Segment) :
    (place line n (before ++ s :: after))[before.length]? =
      some ⟨s.lexeme.kind, String.ofList s.lexeme.text, line,
        n + (before.flatMap Segment.text ++ s.gap).length + 1⟩ := by
  rw [place_append, List.getElem?_append_right (by simp [length_place]), length_place,
    Nat.sub_self]
  simp [place, Nat.add_assoc]

/-- These tokens are the lexemes of the cut: in order, on the given line, and each in the column
after the text that stands before it. -/
def Cut.Yields (c : Cut) (line : Int) (ts : List Token) : Prop :=
  ts.length = c.segments.length ∧
    ∀ before s after, c.segments = before ++ s :: after →
      ts[before.length]? = some ⟨s.lexeme.kind, String.ofList s.lexeme.text, line,
        1 + (before.flatMap Segment.text ++ s.gap).length⟩

theorem Cut.yields_place (c : Cut) (line : Int) : c.Yields line (place line 0 c.segments) := by
  refine ⟨length_place _ _ _, fun before s after hs => ?_⟩
  rw [hs, place_getElem?, Int.natCast_zero, Int.zero_add, Int.add_comm]

theorem Cut.yields_iff {c : Cut} {line : Int} {ts : List Token} :
    c.Yields line ts ↔ ts = place line 0 c.segments := by
  refine ⟨fun ⟨hl, hs⟩ => ?_, fun h => h ▸ c.yields_place line⟩
  obtain ⟨hl', hs'⟩ := c.yields_place line
  refine List.ext_getElem? fun i => ?_
  by_cases hi : i < c.segments.length
  · have he : c.segments = c.segments.take i ++ c.segments[i] :: c.segments.drop (i + 1) := by
      rw [List.getElem_cons_drop, List.take_append_drop]
    have hi' : (c.segments.take i).length = i := by rw [List.length_take]; omega
    rw [← hi', hs _ _ _ he, hs' _ _ _ he]
  · rw [List.getElem?_eq_none (by omega), List.getElem?_eq_none (by omega)]

theorem scan_eq_ok_iff {line : Int} {s : List Char} {ts : List Token} :
    scan line s = .ok ts ↔
      (∀ g ∈ (cut s).gaps, Text.Blank g) ∧ ts = place line 0 (cut s).segments := by
  unfold scan
  cases hf : (cut s).gaps.find? fun g => !decide (Text.Blank g) with
  | none =>
    have hg : ∀ g ∈ (cut s).gaps, Text.Blank g := by simpa using hf
    simp only [Except.ok.injEq, eq_comm (a := ts)]
    exact ⟨fun h => ⟨hg, h⟩, fun h => h.2⟩
  | some g =>
    have hg := List.find?_some hf
    have hm := List.mem_of_find?_eq_some hf
    simp only [Bool.not_eq_true', decide_eq_false_iff_not] at hg
    simp only [reduceCtorEq, false_iff, not_and]
    exact fun h => absurd (h g hm) hg

/-- A text is tokenized where it has a maximal cut, and into that. -/
theorem scan_eq_ok_iff_maximal {line : Int} {s : List Char} {ts : List Token} :
    scan line s = .ok ts ↔ ∃ c : Cut, c.Maximal ∧ c.text = s ∧ c.Yields line ts := by
  simp only [scan_eq_ok_iff, Cut.yields_iff]
  constructor
  · rintro ⟨hg, rfl⟩
    exact ⟨cut s, maximal_cut hg, text_cut s, rfl⟩
  · rintro ⟨c, hc, rfl, rfl⟩
    rw [cut_of_maximal hc]
    exact ⟨hc.blank_gaps, rfl⟩

/-! ## Lexemes of tokens -/

/-- A token without its place. -/
def Token.asLexeme (t : Token) : Lexeme := ⟨t.kind, t.lexeme.toList⟩

@[simp] theorem map_asLexeme_place (line : Int) (n : Nat) (ss : List Segment) :
    (place line n ss).map Token.asLexeme = ss.map Segment.lexeme := by
  induction ss generalizing n with
  | nil => rfl
  | cons s ss ih => simp [place, Token.asLexeme, ih]

theorem Cut.Maximal.wellFormed {c : Cut} (h : c.Maximal) :
    ∀ l ∈ c.segments.map Segment.lexeme, l.WellFormed := by
  intro l hl
  obtain ⟨s, hs, rfl⟩ := List.mem_map.1 hl
  obtain ⟨before, after, he⟩ := List.append_of_mem hs
  exact (h.longestAt he).wellFormed

theorem Cut.Yields.map_asLexeme {c : Cut} {line : Int} {ts : List Token} (h : c.Yields line ts) :
    ts.map Token.asLexeme = c.segments.map Segment.lexeme := by
  rw [Cut.yields_iff.1 h, map_asLexeme_place]

theorem wellFormed_of_scan {line : Int} {s : List Char} {ts : List Token}
    (h : scan line s = .ok ts) {t : Token} (ht : t ∈ ts) : t.asLexeme.WellFormed := by
  obtain ⟨c, hc, -, hy⟩ := scan_eq_ok_iff_maximal.1 h
  refine hc.wellFormed _ ?_
  rw [← hy.map_asLexeme]
  exact List.mem_map_of_mem ht

/-- **Tokenizing is maximal munch.** A text is tokenized exactly if it can be cut into blank gaps
and lexemes that are each the longest at their place. There is one such cut, and the tokens are its
lexemes, each of the kind whose class it belongs to. -/
theorem tokenize_maximal (text : String) (line : Int) :
    ((∃ ts, tokenize text line = .ok ts) ↔ ∃ c : Cut, c.Maximal ∧ c.text = text.toList) ∧
    (∀ c d : Cut, c.Maximal → d.Maximal → c.text = text.toList → d.text = text.toList → c = d) ∧
    ∀ (c : Cut) (ts : List Token), c.Maximal → c.text = text.toList →
      (tokenize text line = .ok ts ↔ c.Yields line ts) ∧
      (c.Yields line ts → ∀ t ∈ ts, t.kind.Admits t.lexeme.toList ∧
        (t.kind = .keyword ↔ t.lexeme ∈ keywords) ∧ (t.kind = .assignment ↔ t.lexeme = "=")) := by
  refine ⟨?accepts, fun c d hc hd hct hdt => hc.unique hd (hct.trans hdt.symm), ?tokens⟩
  case accepts =>
    constructor
    · rintro ⟨ts, h⟩
      obtain ⟨c, hc, ht, -⟩ := scan_eq_ok_iff_maximal.1 h
      exact ⟨c, hc, ht⟩
    · rintro ⟨c, hc, ht⟩
      exact ⟨_, scan_eq_ok_iff_maximal.2 ⟨c, hc, ht, c.yields_place line⟩⟩
  case tokens =>
    intro c ts hc ht
    have h : tokenize text line = .ok ts ↔ c.Yields line ts := by
      refine ⟨fun h => ?_, fun hy => scan_eq_ok_iff_maximal.2 ⟨c, hc, ht, hy⟩⟩
      obtain ⟨d, hd, hdt, hy⟩ := scan_eq_ok_iff_maximal.1 h
      rwa [hc.unique hd (ht.trans hdt.symm)]
    refine ⟨h, fun hy t hm => ?_⟩
    have hw := wellFormed_of_scan (h.2 hy) hm
    refine ⟨hw, ?_, ?_⟩
    · have hk := hw.kind_eq_keyword_iff
      rwa [Token.asLexeme, String.ofList_toList] at hk
    · refine (hw.kind_eq_assignment_iff).trans ?_
      rw [← String.toList_inj]
      rfl

end StagedAnalysis

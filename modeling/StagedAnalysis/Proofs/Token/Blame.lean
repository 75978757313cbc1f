import StagedAnalysis.Proofs.Document.Blank
import StagedAnalysis.Proofs.Token.Failure
import StagedAnalysis.Proofs.Token.Resumption

/-!
# What an error of the scanner is about

A text that cannot be tokenized falls into what was read, what is blamed, and the rest: lexemes in
blank gaps up to the last one before the error, then text in which no lexeme stands anywhere and
that is not blank, then nothing or a lexeme. There is only one such division, and the error quotes
the text in the middle without the blanks at its ends.

* `Text.trim_infix`, `Text.not_isBlank_head_trim`, `Text.not_isBlank_last_trim`: what trimming
  leaves of a text.
* `Blame`, `Blame.Of`: the division.
* `Blame.exists_of_scanned`, `Blame.Of.find?_gaps`: the first gap that is not blank is blamed.
* `Blame.Of.unique`: there is no other division.
* `tokenize_blame`: the main statement.
-/

namespace StagedAnalysis

/-! ## Trimmed text -/

namespace Text

variable {s : List Char} {c : Char}

theorem trim_prefix_trimStart (s : List Char) : trim s <+: trimStart s := by
  rw [← List.reverse_suffix, trim, trimEnd, List.reverse_reverse]
  exact List.dropWhile_suffix isBlank

theorem trim_infix (s : List Char) : trim s <:+: s :=
  (trim_prefix_trimStart s).isInfix.trans (List.dropWhile_suffix isBlank).isInfix

theorem not_isBlank_of_head_dropWhile (h : (s.dropWhile isBlank).head? = some c) :
    isBlank c = false := by
  rw [← List.find?_not_eq_head?_dropWhile] at h
  simpa using List.find?_some h

theorem not_isBlank_head_trim (h : (trim s).head? = some c) : isBlank c = false := by
  obtain ⟨t, ht⟩ := trim_prefix_trimStart s
  refine not_isBlank_of_head_dropWhile (s := s) ?_
  rw [← trimStart, ← ht, List.head?_append, h]
  rfl

theorem not_isBlank_last_trim (h : (trim s).getLast? = some c) : isBlank c = false := by
  rw [trim, trimEnd, List.getLast?_reverse] at h
  exact not_isBlank_of_head_dropWhile h

end Text

/-! ## The division of a text -/

/-- Segments that were read, the text that is blamed, and the rest. -/
structure Blame where
  read : List Segment
  blamed : List Char
  rest : List Char

/-- The division is one of this text. -/
structure Blame.Of (b : Blame) (s : List Char) : Prop where
  text : s = b.read.flatMap Segment.text ++ (b.blamed ++ b.rest)
  read : ReadBefore (b.blamed ++ b.rest) b.read
  skipped : Skipped b.blamed b.rest
  rest : b.rest = [] ∨ ∃ l : Lexeme, l.WellFormed ∧ l.text <+: b.rest
  not_blank : ¬Text.Blank b.blamed

namespace Blame

variable {b c : Blame} {s : List Char}

theorem Of.cons {g : List Char} {l : Lexeme} (hg : Text.Blank g) (hl : l.LongestAt (l.text ++ s))
    (h : b.Of s) : Blame.Of { b with read := ⟨g, l⟩ :: b.read } (g ++ (l.text ++ s)) where
  text := by
    rw [h.text]
    simp [Segment.text]
  read := by
    rw [h.text] at hl
    exact .cons hg hl h.read
  skipped := h.skipped
  rest := h.rest
  not_blank := h.not_blank

/-- The first gap that is not blank is blamed. -/
theorem exists_of_scanned {c : Cut} (hc : c.Scanned) {g : List Char}
    (hg : c.gaps.find? (fun g => !decide (Text.Blank g)) = some g) :
    ∃ b : Blame, b.Of c.text ∧ b.blamed = g := by
  induction hc with
  | @rest h hs =>
    obtain rfl := List.mem_singleton.1 (List.mem_of_find?_eq_some hg)
    have hb : ¬Text.Blank g := by simpa using List.find?_some hg
    exact ⟨⟨[], g, []⟩, ⟨by simp [Cut.text], by simpa using .nil, hs, .inl rfl, hb⟩, rfl⟩
  | @segment h l ss rest hs hl _ ih =>
    rw [Cut.text_segment]
    by_cases hb : Text.Blank h
    · have hg : (Cut.gaps ⟨ss, rest⟩).find? (fun g => !decide (Text.Blank g)) = some g := by
        simpa [Cut.gaps, hb] using hg
      obtain ⟨b, ho, hu⟩ := ih hg
      exact ⟨_, ho.cons hb hl, hu⟩
    · obtain rfl : h = g := by simpa [Cut.gaps, hb] using hg
      exact ⟨⟨[], h, l.text ++ Cut.text ⟨ss, rest⟩⟩,
        ⟨rfl, .nil, hs, .inr ⟨l, hl.wellFormed, List.prefix_append _ _⟩, hb⟩, rfl⟩

/-- The segments that were read come first in the cut of the text, and then the gap that is
blamed. -/
theorem Of.cut_eq (h : b.Of s) :
    b.read <+: (cut s).segments ∧
      ∃ gs, (cut s).gaps = b.read.map Segment.gap ++ b.blamed :: gs := by
  have hfirst : ∃ gs, (cut b.rest).gaps = [] :: gs := by
    rcases h.rest with hr | ⟨l, hl, hp⟩
    · rw [hr, cut_nil]
      exact ⟨[], rfl⟩
    · obtain ⟨m, rest, hm, -⟩ := exists_munch_of_stands hl hp
      rw [cut_of_munch hm]
      exact ⟨_, rfl⟩
  have hcut : cut s = Cut.append ⟨b.read, []⟩ ((cut b.rest).indent b.blamed) := by
    rw [h.text, cut_of_readBefore h.read, cut_of_skipped h.skipped]
  obtain ⟨gs, hgs⟩ := hfirst
  obtain ⟨g, gs', hg, hi⟩ := (cut b.rest).gaps_indent b.blamed
  obtain ⟨rfl, rfl⟩ := List.cons.inj (hgs.symm.trans hg)
  rw [List.append_nil] at hi
  refine ⟨?_, gs, ?_⟩
  · rw [hcut]
    exact List.prefix_append _ _
  · rw [hcut, Cut.gaps_append, ← hi]
    rfl

theorem Of.find?_gaps (h : b.Of s) :
    (cut s).gaps.find? (fun g => !decide (Text.Blank g)) = some b.blamed := by
  obtain ⟨-, gs, hgs⟩ := h.cut_eq
  rw [hgs, List.find?_append, find?_gaps_of_blank h.read.blank_gap,
    List.find?_cons_of_pos (by simp [h.not_blank])]
  rfl

/-- The gaps before the blamed one are just the blank ones at the start. -/
theorem Of.takeWhile_gaps (h : b.Of s) :
    (cut s).gaps.takeWhile (fun g => decide (Text.Blank g)) = b.read.map Segment.gap := by
  obtain ⟨-, gs, hgs⟩ := h.cut_eq
  rw [hgs, List.takeWhile_append_of_pos fun g hg => by simpa using h.read.blank_gap g hg,
    List.takeWhile_cons_of_neg (by simp [h.not_blank]), List.append_nil]

theorem Of.unique (hb : b.Of s) (hc : c.Of s) : b = c := by
  have hread : b.read = c.read := by
    have hl := congrArg List.length (hb.takeWhile_gaps.symm.trans hc.takeWhile_gaps)
    rw [List.length_map, List.length_map] at hl
    exact (List.prefix_of_prefix_length_le hb.cut_eq.1 hc.cut_eq.1 hl.le).eq_of_length hl
  have hblamed : b.blamed = c.blamed :=
    Option.some.inj (hb.find?_gaps.symm.trans hc.find?_gaps)
  have hrest : b.rest = c.rest := by
    have ht := hb.text.symm.trans hc.text
    rwa [hread, hblamed, List.append_cancel_left_eq, List.append_cancel_left_eq] at ht
  cases b
  cases c
  exact congr (congr (congrArg Blame.mk hread) hblamed) hrest

end Blame

/-! ## The rule -/

theorem scan_eq_error_iff_blame {line : Int} {s : List Char} {e : LexicalError} :
    scan line s = .error e ↔
      ∃ b : Blame, b.Of s ∧ e = ⟨String.ofList (Text.trim b.blamed), line⟩ := by
  rw [scan_eq_error_iff]
  constructor
  · rintro ⟨g, hg, rfl⟩
    obtain ⟨b, hb, rfl⟩ := Blame.exists_of_scanned (scanned_cut s) hg
    rw [text_cut] at hb
    exact ⟨b, hb, rfl⟩
  · rintro ⟨b, hb, rfl⟩
    exact ⟨b.blamed, hb.find?_gaps, rfl⟩

/-- **What an error is about.** A text cannot be tokenized exactly if it falls into lexemes that
were read, text that is blamed, and the rest. There is one such division. What was read before can
be tokenized, into its lexemes; the error quotes the blamed text without the blanks at its ends,
which is some text of its own, and shows the given line. -/
theorem tokenize_blame (text : String) (line : Int) :
    ((∃ e, tokenize text line = .error e) ↔ ∃ b : Blame, b.Of text.toList) ∧
    (∀ b c : Blame, b.Of text.toList → c.Of text.toList → b = c) ∧
    ∀ b : Blame, b.Of text.toList →
      let near := Text.trim b.blamed
      (∃ ts, tokenize (String.ofList (b.read.flatMap Segment.text)) line = .ok ts ∧
        Cut.Yields ⟨b.read, []⟩ line ts) ∧
      (∃ e, tokenize text line = .error e ∧
        e.message = "Unrecognized token near: '" ++ String.ofList near ++ "'" ∧ e.line = line) ∧
      near ≠ [] ∧ near <:+: text.toList ∧ (∀ c, near.head? = some c → Text.isBlank c = false) ∧
      ∀ c, near.getLast? = some c → Text.isBlank c = false := by
  refine ⟨?fails, fun b c hb hc => hb.unique hc, fun b hb => ⟨?read, ?error, ?quoted⟩⟩
  case fails =>
    constructor
    · rintro ⟨e, h⟩
      obtain ⟨b, hb, -⟩ := scan_eq_error_iff_blame.1 h
      exact ⟨b, hb⟩
    · rintro ⟨b, hb⟩
      exact ⟨_, scan_eq_error_iff_blame.2 ⟨b, hb, rfl⟩⟩
  case read =>
    have hr : ReadBefore ([] ++ (b.blamed ++ b.rest)) b.read := hb.read
    have hm : Cut.Maximal ⟨b.read, []⟩ :=
      Cut.maximal_iff_readBefore.2 ⟨hr.of_append, Text.blank_nil⟩
    refine ⟨_, scan_eq_ok_iff_maximal.2 ⟨_, hm, ?_, Cut.yields_place _ line⟩,
      Cut.yields_place _ line⟩
    rw [String.toList_ofList, Cut.text, List.append_nil]
  case error => exact ⟨_, scan_eq_error_iff_blame.2 ⟨b, hb, rfl⟩, rfl, rfl⟩
  case quoted =>
    refine ⟨mt Text.trim_eq_nil_iff.1 hb.not_blank, (Text.trim_infix _).trans ?_,
      fun c => Text.not_isBlank_head_trim, fun c => Text.not_isBlank_last_trim⟩
    rw [hb.text]
    exact ⟨_, _, List.append_assoc ..⟩

/-- A quote that is not closed is blamed with what stands before it, and the word behind it is the
rest. -/
theorem tokenize_blame_sample :
    tokenize "a @ \"b c" 7 = .error ⟨"@ \"", 7⟩ ∧
    ∃ b : Blame, b.Of "a @ \"b c".toList ∧
      LexicalError.message ⟨"@ \"", 7⟩ =
        "Unrecognized token near: '" ++ String.ofList (Text.trim b.blamed) ++ "'" ∧
      ∃ ts, tokenize (String.ofList (b.read.flatMap Segment.text)) 7 = .ok ts := by
  have he : tokenize "a @ \"b c" 7 = .error ⟨"@ \"", 7⟩ := by decide +kernel
  obtain ⟨hfails, -, hblame⟩ := tokenize_blame "a @ \"b c" 7
  obtain ⟨b, hb⟩ := hfails.1 ⟨_, he⟩
  obtain ⟨⟨ts, hts, -⟩, ⟨e, hte, hm, -⟩, -⟩ := hblame b hb
  rw [← Except.error.inj (he.symm.trans hte)] at hm
  exact ⟨he, b, hb, hm, ts, hts⟩

end StagedAnalysis

import Mathlib.Data.List.Chain
import StagedAnalysis.Proofs.Document.Lines
import StagedAnalysis.Proofs.Token.MaximalCut

/-!
# Printing

A line is written as lexemes with white space of any kind around them. Written without space some
lexemes glue: they are read as something else. This file shows that the pairs in `Lexeme.Glues` are
exactly those, and that nothing but the next lexeme matters.

* `Cut.Written`, `Cut.Spaced`: what is written, and that it is written with a gap where one is
  needed.
* `longestAt_append`: a lexeme is the longest before a blank, before the end, and before any lexeme
  that it does not glue to; `not_longestAt_of_glues`: before one that it glues to it is not.
* `maximal_of_spaced`, `Maximal.spaced`: a written line is its own maximal cut exactly if it is
  spaced.
* `Cut.ext_of_lexemes`: no other gaps would give the same lexemes and the same text.
-/

namespace StagedAnalysis

/-! ## Lexemes that glue -/

/-- Written one right after the other, the two are read as something else. -/
def Lexeme.Glues (l m : Lexeme) : Prop :=
  ((l.kind = .keyword ∨ l.kind = .identifier) ∧
      (m.kind = .keyword ∨ m.kind = .identifier ∨ m.kind = .number)) ∨
    (l.kind = .number ∧ m.kind = .number) ∨
    (l.text ∈ [['='], ['<'], ['>']] ∧ m.text ∈ [['='], ['=', '=']])

instance (l m : Lexeme) : Decidable (l.Glues m) := inferInstanceAs (Decidable (_ ∨ _))

/-- What has to follow a lexeme to lengthen it. -/
def Lexeme.Continues (l : Lexeme) (c : Char) : Prop :=
  (IsWord l.text ∧ isWordChar c = true) ∨
    (IsNumber l.text ∧ (c.isDigit = true ∨ c = '.')) ∨
    (l.text ∈ [['='], ['<'], ['>']] ∧ c = '=')

/-- A literal ends with the first quote after its own, so none is the start of another. -/
theorem not_isLiteral_append {l w : List Char} {c : Char} (hl : IsLiteral l) :
    ¬IsLiteral (l ++ c :: w) := by
  rintro ⟨b, hb, hm⟩
  obtain ⟨a, ha, rfl⟩ := hl
  have he : a ++ '"' :: c :: w = b ++ '"' :: [] := by simpa using hm
  have h1 := munchString_append ha (c :: w)
  rw [he, munchString_append hb] at h1
  simp at h1

/-- The operators that a longer symbol starts with. -/
theorem symbol_continues {l w : List Char} {c : Char} (hl : IsSymbol l)
    (hm : IsSymbol (l ++ c :: w)) : l ∈ [['='], ['<'], ['>']] ∧ c = '=' := by
  rcases l with _ | ⟨a, _ | ⟨b, l⟩⟩
  · exact absurd rfl (ne_nil_of_isSymbol hl)
  · have h1 : ¬IsSymbol ['!'] := by
      rw [isSymbol_singleton_iff]
      decide
    have h2 : ∀ op ∈ operators, 2 ≤ op.length → op.take 1 ≠ ['!'] →
        op.take 1 ∈ [['='], ['<'], ['>']] ∧ op[1]? = some '=' := by decide
    rcases hm with hm | ⟨d, -, hd⟩
    · simpa using h2 _ hm (by simp) fun he => h1 (he ▸ hl)
    · simp at hd
  · have h3 : ∀ op ∈ operators, op.length ≤ 2 := by decide
    rcases hm with hm | ⟨d, -, hd⟩
    · have := h3 _ hm
      simp at this
    · simp at hd

/-- A longer lexeme goes on with a character of the same class. -/
theorem continues_of_text_eq {l m : Lexeme} (hl : l.WellFormed) (hm : m.WellFormed) {c : Char}
    {w : List Char} (h : m.text = l.text ++ c :: w) : l.Continues c := by
  obtain ⟨d, v, hd⟩ := List.exists_cons_of_ne_nil hl.text_ne_nil
  have h1 := hl.shape_cons hd
  have h2 := hm.shape_cons (show m.text = d :: (v ++ c :: w) by rw [h, hd]; rfl)
  rw [← List.cons_append, ← hd] at h2
  rw [← hd] at h1
  split_ifs at h1 h2
  · exact absurd h2.1 (not_isLiteral_append h1.1)
  · exact .inl ⟨h1.1, isWordChar_of_mem h2.1 (by simp)⟩
  · exact .inr (.inl ⟨h1.1, isDigit_or_dot_of_mem h2.1 (by simp)⟩)
  · exact .inr (.inr (symbol_continues h1.1 h2.1))

theorem not_isBlank_of_continues {l : Lexeme} {c : Char} (h : l.Continues c) :
    Text.isBlank c = false := by
  rcases h with ⟨-, hc⟩ | ⟨-, hc | rfl⟩ | ⟨-, rfl⟩
  · exact not_isBlank_of_isWordChar hc
  · exact not_isBlank_of_isDigit hc
  · decide
  · decide

theorem text_eq_equals_iff {m : Lexeme} (hm : m.WellFormed) {c : Char} {w : List Char}
    (hc : m.text = c :: w) : m.text ∈ [['='], ['=', '=']] ↔ c = '=' := by
  constructor
  · intro h
    rw [hc] at h
    rcases List.mem_cons.1 h with h | h
    · exact (List.cons.inj h).1
    · exact (List.cons.inj (List.mem_singleton.1 h)).1
  · rintro rfl
    have ho : ∀ op ∈ operators, op.head? = some '=' → op ∈ [['='], ['=', '=']] := by decide
    have hy := (hm.isSymbol_iff hc).2 (by decide)
    rcases hy with h | ⟨d, hd, hs⟩
    · exact ho _ h (by rw [hc]; rfl)
    · rw [hc] at hs
      rw [← (List.cons.inj hs).1] at hd
      exact absurd hd (by decide)

/-- Two lexemes glue when the second starts with what continues the first. -/
theorem glues_iff_continues {l m : Lexeme} (hl : l.WellFormed) (hm : m.WellFormed) {c : Char}
    {w : List Char} (hc : m.text = c :: w) : l.Glues m ↔ l.Continues c := by
  have hdot := hm.head_ne_dot hc
  have hword : m.kind = .keyword ∨ m.kind = .identifier ∨ m.kind = .number ↔
      isWordChar c = true := by
    rw [← or_assoc, hm.kind_word_iff, hm.kind_eq_number_iff, hm.isWord_iff hc, hm.isNumber_iff hc,
      isWordChar_iff]
  unfold Lexeme.Glues Lexeme.Continues
  rw [hword, hl.kind_word_iff, hl.kind_eq_number_iff, hm.kind_eq_number_iff, hm.isNumber_iff hc,
    text_eq_equals_iff hm hc]
  simp only [hdot, or_false]

/-! ## The longest lexeme before a given text -/

/-- Nothing runs long unless the text goes on in the class of the lexeme. -/
theorem longestAt_append {l : Lexeme} (hl : l.WellFormed) {s : List Char}
    (hs : ∀ c t, s = c :: t → ¬l.Continues c) : l.LongestAt (l.text ++ s) where
  wellFormed := hl
  stands := List.prefix_append _ _
  longest m hm hp := by
    refine Nat.le_of_not_lt fun hlen => ?_
    obtain ⟨v, hv⟩ := List.prefix_of_prefix_length_le (List.prefix_append l.text s) hp (by omega)
    cases v with
    | nil =>
      rw [← hv, List.append_nil] at hlen
      omega
    | cons c w =>
      rw [← hv, List.prefix_append_right_inj] at hp
      obtain ⟨t, ht⟩ := hp
      exact hs c (w ++ t) ht.symm (continues_of_text_eq hl hm hv.symm)

/-- A character that continues a lexeme makes a longer one, a dot only with the digit after it. -/
theorem exists_wellFormed_append {l : Lexeme} (hl : l.WellFormed) {c : Char} (hc : l.Continues c)
    (hdot : c ≠ '.') : ∃ m : Lexeme, m.WellFormed ∧ m.text = l.text ++ [c] := by
  rcases hc with ⟨hw, hc⟩ | ⟨hn, hc⟩ | ⟨ho, rfl⟩
  · refine ⟨.word (l.text ++ [c]), wellFormed_word ?_, rfl⟩
    obtain ⟨d, s, hd⟩ := List.exists_cons_of_ne_nil hl.text_ne_nil
    rw [hd] at hw ⊢
    refine ⟨hw.1, fun x hx => ?_⟩
    rcases List.mem_append.1 hx with hx | hx
    · exact hw.2 x hx
    · rw [List.mem_singleton.1 hx]
      exact hc
  · have hc : c.isDigit = true := hc.resolve_right hdot
    have hd : ∀ {a : List Char}, IsDigits a → IsDigits (a ++ [c]) := fun ha => by
      refine ⟨by simp, fun x hx => ?_⟩
      rcases List.mem_append.1 hx with hx | hx
      · exact ha.2 x hx
      · rw [List.mem_singleton.1 hx]
        exact hc
    refine ⟨⟨.number, l.text ++ [c]⟩, ?_, rfl⟩
    rcases hn with ha | ⟨a, b, ha, hb, he⟩
    · exact .inl (hd ha)
    · exact .inr ⟨a, b ++ [c], ha, hd hb, by rw [he]; simp⟩
  · have h2 : ∀ op ∈ [['='], ['<'], ['>']],
        op ++ ['='] ∈ operators ∧ op ++ ['='] ≠ ['='] := by decide
    exact ⟨⟨.operator, l.text ++ ['=']⟩, h2 _ ho, rfl⟩

theorem not_longestAt_of_glues {l m : Lexeme} (hl : l.WellFormed) (hm : m.WellFormed)
    (h : l.Glues m) (s : List Char) : ¬l.LongestAt (l.text ++ (m.text ++ s)) := by
  intro hlong
  obtain ⟨c, w, hc⟩ := List.exists_cons_of_ne_nil hm.text_ne_nil
  obtain ⟨n, hn, ht⟩ := exists_wellFormed_append hl ((glues_iff_continues hl hm hc).1 h)
    (hm.head_ne_dot hc)
  have hle := hlong.longest n hn ⟨w ++ s, by rw [ht, hc]; simp⟩
  rw [ht, List.length_append, List.length_singleton] at hle
  omega

/-! ## Written lines -/

namespace Cut

/-- Any lexemes with any white space around them, all on one line. -/
structure Written (c : Cut) : Prop where
  wellFormed : ∀ s ∈ c.segments, s.lexeme.WellFormed
  blank : ∀ g ∈ c.gaps, Text.Blank g
  newline_not_mem : ∀ g ∈ c.gaps, '\n' ∉ g

/-- Lexemes that glue are kept apart. -/
def Spaced (c : Cut) : Prop :=
  c.segments.IsChain fun s t => s.lexeme.Glues t.lexeme → t.gap ≠ []

instance (c : Cut) : Decidable c.Spaced := inferInstanceAs (Decidable (List.IsChain _ _))

theorem Written.tail {s : Segment} {ss : List Segment} {rest : List Char}
    (h : Written ⟨s :: ss, rest⟩) : Written ⟨ss, rest⟩ where
  wellFormed t ht := h.wellFormed t (.tail _ ht)
  blank g hg := h.blank g (.tail _ hg)
  newline_not_mem g hg := h.newline_not_mem g (.tail _ hg)

/-- What comes after a lexeme starts with a blank or with the next lexeme. -/
theorem not_continues_of_spaced {s : Segment} {ss : List Segment} {rest : List Char}
    (hw : Written ⟨s :: ss, rest⟩) (hs : Spaced ⟨s :: ss, rest⟩) {c : Char} {t : List Char}
    (ht : text ⟨ss, rest⟩ = c :: t) : ¬s.lexeme.Continues c := by
  intro hc
  have hb := not_isBlank_of_continues hc
  cases ss with
  | nil =>
    have hr : Text.Blank (c :: t) := ht ▸ hw.tail.blank rest (.head _)
    rw [(Text.blank_cons.1 hr).1] at hb
    cases hb
  | cons u us =>
    rw [text_segment] at ht
    cases hg : u.gap with
    | cons d g =>
      have hd : Text.Blank u.gap := hw.tail.blank u.gap (.head _)
      rw [hg, List.cons_append] at ht
      rw [hg, (List.cons.inj ht).1, Text.blank_cons, hb] at hd
      cases hd.1
    | nil =>
      have hu := hw.wellFormed u (.tail _ (.head _))
      obtain ⟨d, v, hd⟩ := List.exists_cons_of_ne_nil hu.text_ne_nil
      rw [hg, hd] at ht
      rw [← (List.cons.inj ht).1] at hc
      have hglue := (glues_iff_continues (hw.wellFormed s (.head _)) hu hd).2 hc
      exact (List.isChain_cons_cons.1 hs).1 hglue hg

theorem maximal_of_spaced {c : Cut} (hw : c.Written) (hs : c.Spaced) : c.Maximal := by
  obtain ⟨ss, rest⟩ := c
  induction ss with
  | nil => exact .rest (hw.blank rest (.head _))
  | cons s ss ih =>
    refine .segment (hw.blank s.gap (.head _)) ?_ (ih hw.tail (List.IsChain.tail hs))
    exact longestAt_append (hw.wellFormed s (.head _))
      fun c t ht => not_continues_of_spaced hw hs ht

theorem Maximal.spaced {c : Cut} (h : c.Maximal) : c.Spaced := by
  induction h with
  | rest => exact .nil
  | @segment g l ss rest _ hl hm ih =>
    cases ss with
    | nil => exact .singleton _
    | cons u us =>
      refine .cons_cons (fun hglue hu => ?_) ih
      have hu' := hm.wellFormed u.lexeme (.head _)
      rw [text_segment, hu] at hl
      exact not_longestAt_of_glues hl.wellFormed hu' hglue _ hl

/-! ## The gaps of a line -/

theorem append_inj_of_blank {g h x y : List Char} (hg : Text.Blank g) (hh : Text.Blank h)
    (hx : x.takeWhile Text.isBlank = []) (hy : y.takeWhile Text.isBlank = [])
    (he : g ++ x = h ++ y) : g = h ∧ x = y := by
  have ht := congrArg (List.takeWhile Text.isBlank) he
  rw [List.takeWhile_append_of_pos hg, List.takeWhile_append_of_pos hh, hx, hy, List.append_nil,
    List.append_nil] at ht
  rw [ht, List.append_cancel_left_eq] at he
  exact ⟨ht, he⟩

theorem takeWhile_isBlank_lexeme {l : Lexeme} (hl : l.WellFormed) (s : List Char) :
    (l.text ++ s).takeWhile Text.isBlank = [] := by
  obtain ⟨c, w, hc⟩ := List.exists_cons_of_ne_nil hl.text_ne_nil
  rw [hc, List.cons_append, List.takeWhile_cons_of_neg (by simp [hl.not_isBlank_head hc])]

/-- The lexemes of a text leave only one choice of blank gaps. -/
theorem ext_of_lexemes {c d : Cut} (hc : ∀ s ∈ c.segments, s.lexeme.WellFormed)
    (hcb : ∀ g ∈ c.gaps, Text.Blank g) (hdb : ∀ g ∈ d.gaps, Text.Blank g)
    (hl : c.segments.map Segment.lexeme = d.segments.map Segment.lexeme)
    (ht : c.text = d.text) : c = d := by
  obtain ⟨ss, rest⟩ := c
  obtain ⟨us, rest'⟩ := d
  induction ss generalizing us with
  | nil =>
    obtain rfl : us = [] := List.map_eq_nil_iff.1 hl.symm
    have hr : rest = rest' := ht
    rw [hr]
  | cons s ss ih =>
    cases us with
    | nil => cases hl
    | cons u us =>
      obtain ⟨hsu, hl⟩ := List.cons.inj hl
      have hs := hc s (.head _)
      rw [text_segment, text_segment, ← hsu] at ht
      obtain ⟨hg, ht⟩ := append_inj_of_blank (hcb s.gap (.head _)) (hdb u.gap (.head _))
        (takeWhile_isBlank_lexeme hs _) (takeWhile_isBlank_lexeme hs _) ht
      rw [List.append_cancel_left_eq] at ht
      have he := ih (fun t ht => hc t (.tail _ ht)) (fun g hg => hcb g (.tail _ hg)) us
        (fun g hg => hdb g (.tail _ hg)) hl ht
      obtain ⟨rfl, rfl⟩ := Cut.mk.inj he
      obtain ⟨g, l⟩ := s
      obtain ⟨h, m⟩ := u
      obtain rfl : g = h := hg
      obtain rfl : l = m := hsu
      rfl

end Cut

/-! ## Reading what was written -/

theorem Cut.Written.newline_not_mem_text {c : Cut} (h : c.Written) : '\n' ∉ c.text := by
  obtain ⟨ss, rest⟩ := c
  induction ss with
  | nil => exact h.newline_not_mem rest (.head _)
  | cons s ss ih =>
    have hs := (h.wellFormed s (.head _)).newline_not_mem
    have hg := h.newline_not_mem s.gap (.head _)
    have ht := ih h.tail
    simp only [Cut.text_segment, List.mem_append]
    rintro (hn | hn | hn)
    · exact hg hn
    · exact hs hn
    · exact ht hn

/-- The text of lines that are written one below the other. -/
def Cut.page (cs : List Cut) : String := Text.unlines (cs.map fun c => String.ofList c.text)

theorem lines_page {cs : List Cut} (hne : cs ≠ []) (hw : ∀ c ∈ cs, c.Written) :
    Text.lines (Cut.page cs).toList = cs.map Cut.text := by
  unfold Cut.page Text.unlines Text.lines
  rw [String.toList_ofList, List.map_map]
  simp only [Function.comp_def, String.toList_ofList]
  refine Text.pieces_join (by simpa using hne) fun l hl => ?_
  obtain ⟨c, hc, rfl⟩ := List.mem_map.1 hl
  exact (hw c hc).newline_not_mem_text

theorem scan_of_spaced {c : Cut} (hw : c.Written) (hs : c.Spaced) (line : Int) :
    ∃ ts, scan line c.text = .ok ts ∧ c.Yields line ts :=
  ⟨_, scan_eq_ok_iff_maximal.2 ⟨c, Cut.maximal_of_spaced hw hs, rfl, c.yields_place line⟩,
    c.yields_place line⟩

/-- A line that is not spaced may be read, but not as the lexemes that were written. -/
theorem ne_of_not_spaced {c : Cut} (hw : c.Written) (hs : ¬c.Spaced) {line : Int}
    {ts : List Token} (h : scan line c.text = .ok ts) :
    ts.map Token.asLexeme ≠ c.segments.map Segment.lexeme := by
  intro he
  obtain ⟨d, hd, ht, hy⟩ := scan_eq_ok_iff_maximal.1 h
  rw [hy.map_asLexeme] at he
  have hcd := Cut.ext_of_lexemes hw.wellFormed hw.blank hd.blank_gaps he.symm ht.symm
  rw [← hcd] at hd
  exact hs hd.spaced

/-- **Printing and reading.** Lines of lexemes of any classes, with any white space around them, are
read as they were written, line by line and column by column, if a gap stands wherever two would
glue; and a line in which two glue is not read as it was written. Every token that is read is
again one that can be printed. -/
theorem ofText_page (cs : List Cut) (hne : cs ≠ []) (hw : ∀ c ∈ cs, c.Written) :
    let d := Document.ofText (Cut.page cs)
    ((∀ c ∈ cs, c.Spaced) → d.ok = true) ∧ d.lines.length = cs.length ∧
    (∀ (k : Nat) c, cs[k]? = some c → ∃ l, d.lines[k]? = some l ∧ l.number = k + 1 ∧
      (c.Spaced → ∃ ts, l.result = .ok ts ∧ c.Yields (k + 1) ts) ∧
      (¬c.Spaced → ∀ ts, l.result = .ok ts →
        ts.map Token.asLexeme ≠ c.segments.map Segment.lexeme)) ∧
    ∀ (text : String) (line : Int) (ts : List Token), tokenize text line = .ok ts →
      ∀ t ∈ ts, t.asLexeme.WellFormed := by
  intro d
  have hl := lines_page hne hw
  have hd : d.lines = Document.readLines 1 (cs.map Cut.text) := congrArg (Document.readLines 1) hl
  refine ⟨fun hs => ?ok, ?length, fun k c hc => ?line, fun _ _ _ h t ht => wellFormed_of_scan h ht⟩
  case ok =>
    refine Document.ok_ofChars_iff.2 fun k l hk => ?_
    rw [hl, List.getElem?_map, Option.map_eq_some_iff] at hk
    obtain ⟨c, hc, rfl⟩ := hk
    have hm := List.mem_of_getElem? hc
    obtain ⟨ts, h, -⟩ := scan_of_spaced (hw c hm) (hs c hm) (1 + k)
    exact ⟨ts, h⟩
  case length => rw [hd, Document.length_readLines, List.length_map]
  case line =>
    have hm := hw c (List.mem_of_getElem? hc)
    refine ⟨.read (k + 1) c.text, ?_, rfl, fun hs => scan_of_spaced hm hs _,
      fun hs ts h => ne_of_not_spaced hm hs h⟩
    rw [hd, Document.readLines_getElem?, List.getElem?_map, hc, Int.add_comm]
    rfl

/-- Two lines of which the second would need a gap. -/
def Cut.sample : List Cut :=
  [⟨[⟨[], ⟨.number, ['1', '2']⟩⟩, ⟨[], ⟨.identifier, ['a']⟩⟩, ⟨[], ⟨.assignment, ['=']⟩⟩,
      ⟨[' '], ⟨.operator, ['=', '=']⟩⟩, ⟨[], ⟨.string, ['"', '>', '"']⟩⟩], ['\t']⟩,
    ⟨[⟨[], ⟨.number, ['1', '2']⟩⟩, ⟨[], ⟨.number, ['3', '.', '4']⟩⟩], []⟩]

theorem Cut.written_sample : ∀ c ∈ Cut.sample, c.Written := by
  have h12 : Kind.number.Admits ['1', '2'] := .inl ⟨by decide, by simp⟩
  have h34 : Kind.number.Admits ['3', '.', '4'] :=
    .inr ⟨['3'], ['4'], ⟨by decide, by simp⟩, ⟨by decide, by simp⟩, rfl⟩
  have ha : Kind.identifier.Admits ['a'] := ⟨⟨by decide, by simp⟩, by decide⟩
  have he : Kind.operator.Admits ['=', '='] := ⟨by decide, by decide⟩
  have hs : Kind.string.Admits ['"', '>', '"'] := ⟨['>'], by simp [isQuotable], rfl⟩
  simp only [Cut.sample, List.forall_mem_cons]
  refine ⟨⟨?_, ?_, by decide⟩, ⟨?_, ?_, by decide⟩, by simp⟩
  · simp only [List.forall_mem_cons]
    exact ⟨h12, ha, rfl, he, hs, by simp⟩
  · simp [Cut.gaps, Text.Blank, Text.isBlank]
  · simp only [List.forall_mem_cons]
    exact ⟨h12, h34, by simp⟩
  · simp [Cut.gaps, Text.Blank, Text.isBlank]

theorem ofText_page_sample :
    Cut.sample ≠ [] ∧ (∀ c ∈ Cut.sample, c.Written) ∧
    (∃ l, (Document.ofText (Cut.page Cut.sample)).lines[0]? = some l ∧ ∃ ts, l.result = .ok ts ∧
      ts.map Token.lexeme = ["12", "a", "=", "==", "\">\""]) ∧
    ∃ l, (Document.ofText (Cut.page Cut.sample)).lines[1]? = some l ∧ ∀ ts, l.result = .ok ts →
      ts.map Token.asLexeme ≠ [⟨.number, ['1', '2']⟩, ⟨.number, ['3', '.', '4']⟩] := by
  obtain ⟨-, -, hl, -⟩ := ofText_page Cut.sample (by decide) Cut.written_sample
  obtain ⟨l, h0, -, h1, -⟩ := hl 0 _ rfl
  obtain ⟨l', h0', -, -, h2⟩ := hl 1 _ rfl
  obtain ⟨ts, hr, hy⟩ := h1 (by decide)
  refine ⟨by decide, Cut.written_sample, ⟨l, h0, ts, hr, ?_⟩, l', h0', h2 (by decide)⟩
  rw [Cut.yields_iff.1 hy]
  rfl

end StagedAnalysis

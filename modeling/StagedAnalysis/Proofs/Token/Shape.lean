import Mathlib.Tactic.SplitIfs
import StagedAnalysis.Text.Blank
import StagedAnalysis.Token.Grammar

/-!
# Shapes of lexemes

The classes of lexemes have four shapes, and what a shape may start with and hold decides which
lexemes can stand at a place.

* `Lexeme.WellFormed.shape_cons`: the first character decides the shape, and with the text the kind
  (`Lexeme.eq_of_text_eq`), the reserved words and the sign of assignment set apart from the other
  words and operators.
* `Lexeme.WellFormed.not_isBlank_head`, `Lexeme.WellFormed.not_isBlank_last`,
  `Lexeme.WellFormed.not_isBlank_of_mem`: no lexeme has a blank at either end, and only a literal
  holds one; `Lexeme.WellFormed.newline_not_mem`: none holds a line feed.
-/

namespace StagedAnalysis

/-! ## Shapes -/

/-- An operator or a punctuation mark. -/
def IsSymbol (s : List Char) : Prop := s ∈ operators ∨ ∃ c ∈ punctuationMarks, s = [c]

namespace Lexeme

def symbol (text : List Char) : Lexeme :=
  if text ∈ operators then .operator text else ⟨.punctuation, text⟩

end Lexeme

theorem isWord_of_mem_keywords {s : List Char} (h : String.ofList s ∈ keywords) : IsWord s := by
  have hk : ∀ k ∈ keywords, ∃ c cs, k.toList = c :: cs ∧ isWordStart c = true ∧
      cs.all isWordChar = true := by
    simp only [keywords, List.forall_mem_cons]
    refine ⟨?_, ?_, ?_, ?_, ?_, ?_, ?_, ?_, ?_, ?_, by simp⟩ <;>
      exact ⟨_, _, rfl, by decide, by decide⟩
  obtain ⟨c, cs, hs, hc, hcs⟩ := hk _ h
  rw [String.toList_ofList] at hs
  rw [hs]
  exact ⟨hc, List.all_eq_true.1 hcs⟩

theorem not_mem_operators_of_mark {c : Char} (h : c ∈ punctuationMarks) : [c] ∉ operators := by
  simp only [punctuationMarks, List.mem_cons, List.not_mem_nil, or_false] at h
  rcases h with rfl | rfl | rfl | rfl | rfl | rfl <;> decide

/-- A lexeme is what its text calls for. -/
theorem Lexeme.WellFormed.shape {l : Lexeme} (h : l.WellFormed) :
    (IsWord l.text ∧ l = .word l.text) ∨ (IsNumber l.text ∧ l = ⟨.number, l.text⟩) ∨
      (IsLiteral l.text ∧ l = ⟨.string, l.text⟩) ∨ (IsSymbol l.text ∧ l = .symbol l.text) := by
  obtain ⟨k, s⟩ := l
  cases k with
  | keyword =>
    have hk : String.ofList s ∈ keywords := h
    exact .inl ⟨isWord_of_mem_keywords hk, by simp [Lexeme.word, hk]⟩
  | identifier => exact .inl ⟨h.1, by simp [Lexeme.word, show String.ofList s ∉ keywords from h.2]⟩
  | number => exact .inr (.inl ⟨h, rfl⟩)
  | string => exact .inr (.inr (.inl ⟨h, rfl⟩))
  | operator =>
    obtain ⟨hm, hne⟩ : s ∈ operators ∧ s ≠ ['='] := h
    exact .inr (.inr (.inr ⟨.inl hm, by simp [Lexeme.symbol, Lexeme.operator, hm, hne]⟩))
  | assignment =>
    obtain rfl : s = ['='] := h
    exact .inr (.inr (.inr ⟨.inl (by decide), by decide⟩))
  | punctuation =>
    obtain ⟨c, hc, rfl⟩ : ∃ c ∈ punctuationMarks, s = [c] := h
    have hn := not_mem_operators_of_mark hc
    exact .inr (.inr (.inr ⟨.inr ⟨c, hc, rfl⟩, by simp [Lexeme.symbol, hn]⟩))

/-! ## First characters -/

theorem isDigit_head {c : Char} {s : List Char} (h : IsNumber (c :: s)) : c.isDigit = true := by
  rcases h with ⟨-, h⟩ | ⟨a, b, ⟨ha, h⟩, -, he⟩
  · exact h c List.mem_cons_self
  · cases a with
    | nil => exact absurd rfl ha
    | cons d a =>
      obtain ⟨rfl, -⟩ := List.cons.inj he
      exact h c List.mem_cons_self

theorem head_literal {c : Char} {s : List Char} (h : IsLiteral (c :: s)) : c = '"' := by
  obtain ⟨body, -, he⟩ := h
  exact (List.cons.inj he).1

/-- The characters that symbols start with. -/
def symbolStarts : List Char :=
  ['=', '!', '<', '>', '+', '-', '*', '/', '(', ')', ',', ';', '\x7b', '\x7d']

theorem ne_nil_of_isSymbol {s : List Char} (h : IsSymbol s) : s ≠ [] := by
  rintro rfl
  rcases h with h | ⟨c, -, he⟩
  · exact absurd h (by decide)
  · cases he

theorem isSymbol_singleton_iff {c : Char} :
    IsSymbol [c] ↔ [c] ∈ operators ∨ c ∈ punctuationMarks := by
  simp [IsSymbol]

theorem head_symbol {c : Char} {s : List Char} (h : IsSymbol (c :: s)) : c ∈ symbolStarts := by
  rcases h with h | ⟨d, hd, he⟩
  · have hop : ∀ op ∈ operators, op.head? ∈ symbolStarts.map some := by decide
    simpa using hop _ h
  · obtain ⟨rfl, -⟩ := List.cons.inj he
    have hm : punctuationMarks ⊆ symbolStarts := by simp [punctuationMarks, symbolStarts]
    exact hm hd

theorem symbolStarts_spec {c : Char} (h : c ∈ symbolStarts) :
    isWordStart c = false ∧ c.isDigit = false ∧ c ≠ '"' := by
  have hs : ∀ d ∈ symbolStarts, isWordStart d = false ∧ d.isDigit = false ∧ d ≠ '"' := by
    simp [symbolStarts, isWordStart]
  exact hs c h

theorem isDigit_toNat {c : Char} : c.isDigit = true ↔ 48 ≤ c.toNat ∧ c.toNat ≤ 57 := by
  simp [Char.isDigit, UInt32.le_iff_toNat_le]

theorem isWordStart_toNat {c : Char} (h : isWordStart c = true) :
    65 ≤ c.toNat ∧ c.toNat ≤ 122 := by
  have hs : isWordStart c = (decide ('A'.val ≤ c.val ∧ c.val ≤ 'Z'.val) ||
      (decide ('a'.val ≤ c.val) && decide (c.val ≤ 'z'.val)) || c == '_') := rfl
  simp only [hs, Bool.or_eq_true, Bool.and_eq_true, decide_eq_true_eq, beq_iff_eq,
    UInt32.le_iff_toNat_le] at h
  rcases h with (⟨h1, h2⟩ | ⟨h1, h2⟩) | rfl
  · exact ⟨h1, Nat.le_trans h2 (by decide)⟩
  · exact ⟨Nat.le_trans (by decide) h1, h2⟩
  · decide

theorem isDigit_eq_false_of_isWordStart {c : Char} (h : isWordStart c = true) :
    c.isDigit = false := by
  have hs := isWordStart_toNat h
  rw [← Bool.not_eq_true, isDigit_toNat]
  omega

/-- The first character decides the shape of a lexeme. -/
theorem Lexeme.WellFormed.shape_cons {l : Lexeme} (h : l.WellFormed) {c : Char} {s : List Char}
    (ht : l.text = c :: s) :
    if c = '"' then IsLiteral (c :: s) ∧ l = ⟨.string, c :: s⟩
    else if isWordStart c then IsWord (c :: s) ∧ l = .word (c :: s)
    else if c.isDigit then IsNumber (c :: s) ∧ l = ⟨.number, c :: s⟩
    else IsSymbol (c :: s) ∧ l = .symbol (c :: s) := by
  have hs := h.shape
  rw [ht] at hs
  rcases hs with hw | hn | hl | hy
  · have hc : isWordStart c = true := hw.1.1
    have hq : c ≠ '"' := fun e => by rw [e] at hc; cases hc
    rw [if_neg hq, if_pos hc]
    exact hw
  · have hc := isDigit_head hn.1
    have hq : c ≠ '"' := fun e => by rw [e] at hc; cases hc
    have hs : ¬isWordStart c = true := fun hs => by
      rw [isDigit_eq_false_of_isWordStart hs] at hc
      cases hc
    rw [if_neg hq, if_neg hs, if_pos hc]
    exact hn
  · rw [if_pos (head_literal hl.1)]
    exact hl
  · obtain ⟨hs, hd, hq⟩ := symbolStarts_spec (head_symbol hy.1)
    rw [if_neg hq, hs, hd]
    exact hy

theorem Lexeme.WellFormed.text_ne_nil {l : Lexeme} (h : l.WellFormed) : l.text ≠ [] := by
  intro hn
  have hs := h.shape
  rw [hn] at hs
  rcases hs with ⟨hw, -⟩ | ⟨⟨hd, -⟩ | ⟨a, b, -, -, he⟩, -⟩ | ⟨⟨body, -, he⟩, -⟩ | ⟨hy, -⟩
  · exact hw
  · exact hd rfl
  · simp at he
  · cases he
  · exact ne_nil_of_isSymbol hy rfl

/-- The text of a lexeme fixes its kind. -/
theorem Lexeme.eq_of_text_eq {l m : Lexeme} (hl : l.WellFormed) (hm : m.WellFormed)
    (h : l.text = m.text) : l = m := by
  obtain ⟨c, s, hc⟩ := List.exists_cons_of_ne_nil hl.text_ne_nil
  have h1 := hl.shape_cons hc
  have h2 := hm.shape_cons (h ▸ hc)
  split_ifs at h1 h2 <;> exact h1.2.trans h2.2.symm

/-! ## Kinds by shape -/

namespace Lexeme.WellFormed

variable {l : Lexeme} (h : l.WellFormed)
include h

theorem admits {k : Kind} (hk : l.kind = k) : k.Admits l.text := hk ▸ h

/-- A kind that admits the text of a lexeme is its kind. -/
theorem kind_eq {k : Kind} (hk : k.Admits l.text) : l.kind = k := by
  have hw : Lexeme.WellFormed ⟨k, l.text⟩ := hk
  rw [Lexeme.eq_of_text_eq h hw rfl]

theorem kind_eq_keyword_iff : l.kind = .keyword ↔ String.ofList l.text ∈ keywords :=
  ⟨h.admits, h.kind_eq (k := .keyword)⟩

theorem kind_eq_assignment_iff : l.kind = .assignment ↔ l.text = ['='] :=
  ⟨h.admits, h.kind_eq (k := .assignment)⟩

theorem kind_eq_number_iff : l.kind = .number ↔ IsNumber l.text :=
  ⟨h.admits, h.kind_eq (k := .number)⟩

theorem kind_word_iff : l.kind = .keyword ∨ l.kind = .identifier ↔ IsWord l.text := by
  constructor
  · rintro (hk | hk)
    · exact isWord_of_mem_keywords (h.admits hk)
    · exact (h.admits hk).1
  · intro hw
    by_cases hk : String.ofList l.text ∈ keywords
    · exact .inl (h.kind_eq hk)
    · exact .inr (h.kind_eq (k := .identifier) ⟨hw, hk⟩)

section
variable {c : Char} {s : List Char} (ht : l.text = c :: s)
include ht

theorem isWord_iff : IsWord l.text ↔ isWordStart c = true := by
  rw [ht]
  refine ⟨fun hw => hw.1, fun hc => ?_⟩
  have hs := h.shape_cons ht
  split_ifs at hs with hq
  · rw [hq] at hc
    cases hc
  · exact hs.1

theorem isNumber_iff : IsNumber l.text ↔ c.isDigit = true := by
  rw [ht]
  refine ⟨isDigit_head, fun hd => ?_⟩
  have hs := h.shape_cons ht
  split_ifs at hs with hq hw
  · rw [hq] at hd
    cases hd
  · rw [isDigit_eq_false_of_isWordStart hw] at hd
    cases hd
  · exact hs.1

theorem isSymbol_iff : IsSymbol l.text ↔ c ∈ symbolStarts := by
  rw [ht]
  refine ⟨head_symbol, fun hc => ?_⟩
  obtain ⟨hw, hd, hq⟩ := symbolStarts_spec hc
  have hs := h.shape_cons ht
  rw [if_neg hq, hw, hd] at hs
  exact hs.1

/-- A number has no dot at its start, and nothing else has one anywhere outside quotes. -/
theorem head_ne_dot : c ≠ '.' := by
  rintro rfl
  have hs := h.shape_cons ht
  rw [if_neg (by decide), if_neg (by decide), if_neg (by decide)] at hs
  exact absurd (head_symbol hs.1) (by decide)

end

end Lexeme.WellFormed

/-! ## Blanks -/

theorem isBlank_toNat {c : Char} (h : Text.isBlank c = true) : c.toNat ≤ 32 ∨ 128 ≤ c.toNat := by
  simp only [Text.isBlank, Bool.or_eq_true, Bool.and_eq_true, decide_eq_true_eq, beq_iff_eq] at h
  omega

theorem not_isBlank_of_toNat {c : Char} (h1 : 32 < c.toNat) (h2 : c.toNat < 128) :
    Text.isBlank c = false := by
  rw [← Bool.not_eq_true]
  intro h
  have := isBlank_toNat h
  omega

theorem isWordChar_iff {c : Char} :
    isWordChar c = true ↔ isWordStart c = true ∨ c.isDigit = true := by
  simp only [isWordChar, isWordStart, Char.isAlphanum, Bool.or_eq_true, or_right_comm]

theorem not_isBlank_of_isDigit {c : Char} (h : c.isDigit = true) : Text.isBlank c = false := by
  have := isDigit_toNat.1 h
  exact not_isBlank_of_toNat (by omega) (by omega)

theorem not_isBlank_of_isWordChar {c : Char} (h : isWordChar c = true) :
    Text.isBlank c = false := by
  rcases isWordChar_iff.1 h with h | h
  · have := isWordStart_toNat h
    exact not_isBlank_of_toNat (by omega) (by omega)
  · exact not_isBlank_of_isDigit h

theorem isWordChar_of_mem {s : List Char} (h : IsWord s) {c : Char} (hc : c ∈ s) :
    isWordChar c = true := by
  cases s with
  | nil => cases hc
  | cons d s =>
    rcases List.mem_cons.1 hc with rfl | hc
    · exact isWordChar_iff.2 (.inl h.1)
    · exact h.2 c hc

theorem isDigit_or_dot_of_mem {s : List Char} (h : IsNumber s) {c : Char} (hc : c ∈ s) :
    c.isDigit = true ∨ c = '.' := by
  rcases h with ⟨-, h⟩ | ⟨a, b, ⟨-, ha⟩, ⟨-, hb⟩, rfl⟩
  · exact .inl (h c hc)
  · rcases List.mem_append.1 hc with hc | hc
    · exact .inl (ha c hc)
    · rcases List.mem_cons.1 hc with hc | hc
      · exact .inr hc
      · exact .inl (hb c hc)

theorem not_isBlank_of_isSymbol {s : List Char} (h : IsSymbol s) {c : Char} (hc : c ∈ s) :
    Text.isBlank c = false := by
  rcases h with h | ⟨d, hd, rfl⟩
  · have hop : ∀ op ∈ operators, ∀ d ∈ op, Text.isBlank d = false := by
      simp [operators, Text.isBlank]
    exact hop s h c hc
  · have hm : ∀ d ∈ punctuationMarks, Text.isBlank d = false := by
      simp [punctuationMarks, Text.isBlank]
    rw [List.mem_singleton.1 hc]
    exact hm d hd

namespace Lexeme.WellFormed

variable {l : Lexeme} (h : l.WellFormed) {c : Char}
include h

/-- Only a literal holds a blank. -/
theorem not_isBlank_of_mem (hk : l.kind ≠ .string) (hc : c ∈ l.text) : Text.isBlank c = false := by
  rcases h.shape with ⟨hw, -⟩ | ⟨hn, -⟩ | ⟨-, he⟩ | ⟨hy, -⟩
  · exact not_isBlank_of_isWordChar (isWordChar_of_mem hw hc)
  · rcases isDigit_or_dot_of_mem hn hc with hd | rfl
    · exact not_isBlank_of_isDigit hd
    · decide
  · exact absurd (congrArg Lexeme.kind he) hk
  · exact not_isBlank_of_isSymbol hy hc

theorem not_isBlank_head {s : List Char} (ht : l.text = c :: s) : Text.isBlank c = false := by
  by_cases hk : l.kind = .string
  · obtain ⟨body, -, he⟩ : IsLiteral l.text := h.admits hk
    rw [ht] at he
    rw [(List.cons.inj he).1]
    decide
  · exact h.not_isBlank_of_mem hk (ht ▸ List.mem_cons_self)

theorem not_isBlank_last {s : List Char} (ht : l.text = s ++ [c]) : Text.isBlank c = false := by
  by_cases hk : l.kind = .string
  · obtain ⟨body, -, he⟩ : IsLiteral l.text := h.admits hk
    have hc : s ++ [c] = ('"' :: body) ++ ['"'] := ht ▸ he
    rw [(List.append_inj' hc rfl).2 |> List.singleton_inj.1]
    decide
  · exact h.not_isBlank_of_mem hk (ht ▸ by simp)

/-- No lexeme goes on over the end of a line. -/
theorem newline_not_mem : '\n' ∉ l.text := by
  intro hc
  by_cases hk : l.kind = .string
  · obtain ⟨body, hb, he⟩ : IsLiteral l.text := h.admits hk
    rw [he] at hc
    have hn : '\n' ∈ body := by simpa using hc
    have hq := hb _ hn
    exact absurd hq (by decide)
  · have hb := h.not_isBlank_of_mem hk hc
    exact absurd hb (by decide)

end Lexeme.WellFormed

end StagedAnalysis

import StagedAnalysis.Token.Basic

/-!
# Lexemes

The words of the language and the reader of a single one. `munch` takes the longest lexeme that
stands at the start of a text: every class of lexeme starts with characters of its own, so the
first character decides the class and the rest of the class is read as far as it goes.
-/

namespace StagedAnalysis

/-! ## Vocabulary -/

/-- The reserved words. -/
def keywords : List String :=
  ["String", "double", "else", "float", "for", "if", "int", "return", "void", "while"]

/-- The operators, each before those that it starts with. -/
def operators : List (List Char) :=
  [['=', '='], ['!', '='], ['<', '='], ['>', '='], ['='], ['+'], ['-'], ['*'], ['/'], ['<'], ['>']]

def punctuationMarks : List Char := ['(', ')', ',', ';', '{', '}']

/-! ## Character classes -/

def isWordStart (c : Char) : Bool := c.isAlpha || c == '_'

def isWordChar (c : Char) : Bool := c.isAlphanum || c == '_'

/-- What may stand between the quotes of a string literal. -/
def isQuotable (c : Char) : Bool := c != '"' && c != '\n'

/-! ## Reading one lexeme -/

structure Lexeme where
  kind : Kind
  text : List Char
  deriving DecidableEq, Repr

namespace Lexeme

/-- A word is a keyword when it is reserved. -/
def word (text : List Char) : Lexeme :=
  ⟨if String.ofList text ∈ keywords then .keyword else .identifier, text⟩

/-- The operator of one equals sign assigns. -/
def operator (text : List Char) : Lexeme :=
  ⟨if text = ['='] then .assignment else .operator, text⟩

end Lexeme

/-- A string literal, after its opening quote; it has to close on its line. -/
def munchString (s : List Char) : Option (Lexeme × List Char) :=
  match s.dropWhile isQuotable with
  | '"' :: rest => some (⟨.string, '"' :: (s.takeWhile isQuotable ++ ['"'])⟩, rest)
  | _ => none

/-- A number, after its first digit. A dot belongs to it only where a digit follows. -/
def munchNumber (d : Char) (s : List Char) : Lexeme × List Char :=
  let whole := d :: s.takeWhile Char.isDigit
  match s.dropWhile Char.isDigit with
  | '.' :: f :: rest =>
    if f.isDigit then
      (⟨.number, whole ++ '.' :: f :: rest.takeWhile Char.isDigit⟩, rest.dropWhile Char.isDigit)
    else (⟨.number, whole⟩, '.' :: f :: rest)
  | rest => (⟨.number, whole⟩, rest)

def munchSymbol (c : Char) (s : List Char) : Option (Lexeme × List Char) :=
  match operators.find? (·.isPrefixOf (c :: s)) with
  | some op => some (.operator op, (c :: s).drop op.length)
  | none => if c ∈ punctuationMarks then some (⟨.punctuation, [c]⟩, s) else none

/-- The longest lexeme at the start of the text, and the text after it. -/
def munch : List Char → Option (Lexeme × List Char)
  | [] => none
  | c :: s =>
    if c = '"' then munchString s
    else if isWordStart c then
      some (.word (c :: s.takeWhile isWordChar), s.dropWhile isWordChar)
    else if c.isDigit then some (munchNumber c s)
    else munchSymbol c s

/-! ## Nothing is lost -/

theorem munchString_text {s rest : List Char} {l : Lexeme} (h : munchString s = some (l, rest)) :
    l.text ++ rest = '"' :: s := by
  unfold munchString at h
  split at h
  · next r hr =>
    obtain ⟨rfl, rfl⟩ := by simpa using h
    have := List.takeWhile_append_dropWhile (p := isQuotable) (l := s)
    rw [hr] at this
    simpa using this
  · simp at h

theorem munchNumber_text (d : Char) (s : List Char) :
    (munchNumber d s).1.text ++ (munchNumber d s).2 = d :: s := by
  have hs := List.takeWhile_append_dropWhile (p := Char.isDigit) (l := s)
  unfold munchNumber
  split
  · next f rest hr =>
    rw [hr] at hs
    split
    · simpa [List.takeWhile_append_dropWhile] using hs
    · simpa using hs
  · next hr => simp [hs]

theorem munchSymbol_text {c : Char} {s rest : List Char} {l : Lexeme}
    (h : munchSymbol c s = some (l, rest)) : l.text ++ rest = c :: s := by
  unfold munchSymbol at h
  split at h
  · next op hop =>
    obtain ⟨rfl, rfl⟩ := by simpa using h
    have hp := List.find?_some hop
    obtain ⟨t, ht⟩ := List.isPrefixOf_iff_prefix.1 hp
    simp [Lexeme.operator, ← ht]
  · split at h
    · obtain ⟨rfl, rfl⟩ := by simpa using h
      rfl
    · simp at h

/-- A lexeme and the text after it are the text. -/
theorem munch_text {s rest : List Char} {l : Lexeme} (h : munch s = some (l, rest)) :
    l.text ++ rest = s := by
  unfold munch at h
  split at h
  · simp at h
  · next c s =>
    split at h
    · next hc => subst hc; exact munchString_text h
    · split at h
      · obtain ⟨rfl, rfl⟩ := by simpa using h
        simp [Lexeme.word, List.takeWhile_append_dropWhile]
      · split at h
        · have := munchNumber_text c s
          simp_all
        · exact munchSymbol_text h

theorem munchSymbol_text_ne_nil {c : Char} {s rest : List Char} {l : Lexeme}
    (h : munchSymbol c s = some (l, rest)) : l.text ≠ [] := by
  unfold munchSymbol at h
  split at h
  · next op hop =>
    obtain ⟨rfl, rfl⟩ := by simpa using h
    have hm := List.mem_of_find?_eq_some hop
    simp only [operators, List.mem_cons, List.not_mem_nil, or_false] at hm
    rcases hm with rfl | rfl | rfl | rfl | rfl | rfl | rfl | rfl | rfl | rfl | rfl <;>
      simp [Lexeme.operator]
  · split at h
    · obtain ⟨rfl, rfl⟩ := by simpa using h
      simp
    · simp at h

/-- No lexeme is empty. -/
theorem munch_text_ne_nil {s rest : List Char} {l : Lexeme} (h : munch s = some (l, rest)) :
    l.text ≠ [] := by
  unfold munch at h
  split at h
  · simp at h
  · next c s =>
    split at h
    · unfold munchString at h
      split at h
      · obtain ⟨rfl, rfl⟩ := by simpa using h
        simp
      · simp at h
    · split at h
      · obtain ⟨rfl, rfl⟩ := by simpa using h
        simp [Lexeme.word]
      · split at h
        · unfold munchNumber at h
          split at h
          · split at h <;> (obtain ⟨rfl, rfl⟩ := by simpa using h) <;> simp
          · obtain ⟨rfl, rfl⟩ := by simpa using h
            simp
        · exact munchSymbol_text_ne_nil h

theorem length_lt_of_munch {s rest : List Char} {l : Lexeme} (h : munch s = some (l, rest)) :
    rest.length < s.length := by
  have := List.length_pos_iff.2 (munch_text_ne_nil h)
  rw [← munch_text h, List.length_append]
  omega

end StagedAnalysis

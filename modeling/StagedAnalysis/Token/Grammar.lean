import StagedAnalysis.Token.Lexeme

/-!
# Classes of lexemes

What a lexeme of each kind looks like, said without reading one. Main statement:
`wellFormed_of_munch`, the reader gives every lexeme a kind whose class it belongs to.
-/

namespace StagedAnalysis

/-! ## Classes -/

def IsWord : List Char → Prop
  | [] => False
  | c :: cs => isWordStart c ∧ ∀ d ∈ cs, isWordChar d

def IsDigits (s : List Char) : Prop := s ≠ [] ∧ ∀ c ∈ s, c.isDigit

/-- Digits, or digits on both sides of one dot. -/
def IsNumber (s : List Char) : Prop :=
  IsDigits s ∨ ∃ a b, IsDigits a ∧ IsDigits b ∧ s = a ++ '.' :: b

/-- A quote at either end, and neither a quote nor a line feed between. -/
def IsLiteral (s : List Char) : Prop :=
  ∃ body, (∀ c ∈ body, isQuotable c) ∧ s = '"' :: (body ++ ['"'])

/-- The texts that a token of this kind may have. -/
def Kind.Admits : Kind → List Char → Prop
  | .keyword, s => String.ofList s ∈ keywords
  | .identifier, s => IsWord s ∧ String.ofList s ∉ keywords
  | .number, s => IsNumber s
  | .string, s => IsLiteral s
  | .operator, s => s ∈ operators ∧ s ≠ ['=']
  | .assignment, s => s = ['=']
  | .punctuation, s => ∃ c ∈ punctuationMarks, s = [c]

def Lexeme.WellFormed (l : Lexeme) : Prop := l.kind.Admits l.text

/-! ## Reading stays inside the classes -/

theorem forall_mem_takeWhile {p : Char → Bool} {s : List Char} : ∀ c ∈ s.takeWhile p, p c :=
  List.all_eq_true.1 List.all_takeWhile

theorem wellFormed_word {s : List Char} (h : IsWord s) : (Lexeme.word s).WellFormed := by
  unfold Lexeme.WellFormed Lexeme.word
  split
  · next hk => exact hk
  · next hk => exact ⟨h, hk⟩

theorem wellFormed_munchString {s rest : List Char} {l : Lexeme}
    (h : munchString s = some (l, rest)) : l.WellFormed := by
  unfold munchString at h
  split at h
  · obtain ⟨rfl, rfl⟩ := by simpa using h
    exact ⟨_, forall_mem_takeWhile, rfl⟩
  · simp at h

theorem isDigits_cons {d : Char} {s : List Char} (hd : d.isDigit) :
    IsDigits (d :: s.takeWhile Char.isDigit) := by
  refine ⟨by simp, fun c hc => ?_⟩
  rcases List.mem_cons.1 hc with rfl | hc
  · exact hd
  · exact forall_mem_takeWhile c hc

theorem wellFormed_munchNumber {d : Char} {s : List Char} (hd : d.isDigit) :
    (munchNumber d s).1.WellFormed := by
  unfold munchNumber
  split
  · split
    · next hf => exact .inr ⟨_, _, isDigits_cons hd, isDigits_cons hf, rfl⟩
    · exact .inl (isDigits_cons hd)
  · exact .inl (isDigits_cons hd)

theorem wellFormed_munchSymbol {c : Char} {s rest : List Char} {l : Lexeme}
    (h : munchSymbol c s = some (l, rest)) : l.WellFormed := by
  unfold munchSymbol at h
  split at h
  · next op hop =>
    obtain ⟨rfl, rfl⟩ := by simpa using h
    have hm := List.mem_of_find?_eq_some hop
    unfold Lexeme.WellFormed Lexeme.operator
    split
    · next he => exact he
    · next he => exact ⟨hm, he⟩
  · split at h
    · next hc =>
      obtain ⟨rfl, rfl⟩ := by simpa using h
      exact ⟨c, hc, rfl⟩
    · simp at h

theorem wellFormed_of_munch {s rest : List Char} {l : Lexeme} (h : munch s = some (l, rest)) :
    l.WellFormed := by
  unfold munch at h
  split at h
  · simp at h
  · next c s =>
    split at h
    · exact wellFormed_munchString h
    · split at h
      · next hc =>
        obtain ⟨rfl, rfl⟩ := by simpa using h
        exact wellFormed_word ⟨hc, forall_mem_takeWhile⟩
      · split at h
        · next hd =>
          have := wellFormed_munchNumber (s := s) hd
          simp_all
        · exact wellFormed_munchSymbol h

end StagedAnalysis

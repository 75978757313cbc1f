import StagedAnalysis.Proofs.Token.Shape

/-!
# The longest lexeme

`munch` reads by the first character and never compares lengths. This file shows that what it reads
is nevertheless the longest lexeme of any class that stands at the start of the text, and that it
reads nothing only where no lexeme stands.

* `munchString_append`, `length_le_munchNumber`, `length_le_operator`: within its shape no lexeme
  is longer than the one that is read.
* `exists_munch_of_stands`: where a lexeme stands, one is read that is as long.
* `munch_eq_some_iff`, `munch_eq_none_iff`: what `munch` reads, said without reading.
-/

namespace StagedAnalysis

/-! ## Within a shape -/

/-- A run of characters is no longer than the longest run. -/
theorem length_le_takeWhile {p : Char → Bool} {w s : List Char} (hw : w <+: s)
    (hp : ∀ c ∈ w, p c = true) : w.length ≤ (s.takeWhile p).length := by
  obtain ⟨t, rfl⟩ := hw
  rw [List.takeWhile_append_of_pos hp, List.length_append]
  omega

theorem takeWhile_append_cons {p : Char → Bool} {a t : List Char} {c : Char}
    (ha : ∀ x ∈ a, p x = true) (hc : p c = false) : (a ++ c :: t).takeWhile p = a := by
  rw [List.takeWhile_append_of_pos ha, List.takeWhile_cons_of_neg (by simp [hc]), List.append_nil]

theorem dropWhile_append_cons {p : Char → Bool} {a t : List Char} {c : Char}
    (ha : ∀ x ∈ a, p x = true) (hc : p c = false) : (a ++ c :: t).dropWhile p = c :: t := by
  rw [List.dropWhile_append_of_pos ha, List.dropWhile_cons_of_neg (by simp [hc])]

/-- A literal ends at the first quote after its own, so there is only one to read. -/
theorem munchString_append {body : List Char} (h : ∀ c ∈ body, isQuotable c = true)
    (t : List Char) :
    munchString (body ++ '"' :: t) = some (⟨.string, '"' :: (body ++ ['"'])⟩, t) := by
  have hq : isQuotable '"' = false := by decide
  unfold munchString
  rw [dropWhile_append_cons h hq, takeWhile_append_cons h hq]
  rfl

theorem length_whole_le (d : Char) (s : List Char) :
    (d :: s.takeWhile Char.isDigit).length ≤ (munchNumber d s).1.text.length := by
  unfold munchNumber
  dsimp only
  split
  · split <;> simp
  · simp

theorem length_le_munchNumber {m s : List Char} {d : Char} (hm : IsNumber m) (hp : m <+: d :: s) :
    m.length ≤ (munchNumber d s).1.text.length := by
  rcases hm with ⟨hne, hm⟩ | ⟨a, b, ⟨ha, had⟩, ⟨hb, hbd⟩, rfl⟩
  · -- digits only: they are part of the whole digits that are read
    refine Nat.le_trans ?_ (length_whole_le d s)
    cases m with
    | nil => exact absurd rfl hne
    | cons c m =>
      have hw := length_le_takeWhile (List.cons_prefix_cons.1 hp).2 fun x hx => hm x (.tail _ hx)
      simpa using hw
  · -- a dot with digits after it: the reader finds the same dot
    obtain ⟨c, a, rfl⟩ := List.exists_cons_of_ne_nil ha
    obtain ⟨f, b, rfl⟩ := List.exists_cons_of_ne_nil hb
    obtain ⟨t, ht⟩ := hp
    obtain ⟨rfl, rfl⟩ : c = d ∧ a ++ '.' :: f :: (b ++ t) = s := by simpa using ht
    have hdot : '.'.isDigit = false := by decide
    have ha' : ∀ x ∈ a, x.isDigit = true := fun x hx => had x (.tail _ hx)
    have hb' : ∀ x ∈ b, x.isDigit = true := fun x hx => hbd x (.tail _ hx)
    have hf : f.isDigit = true := hbd f (.head _)
    unfold munchNumber
    rw [takeWhile_append_cons ha' hdot, dropWhile_append_cons ha' hdot]
    simp [hf, List.takeWhile_append_of_pos hb']

/-- No operator is listed before a longer one that starts with it. -/
theorem pairwise_operators : operators.Pairwise fun a b => ¬a <+: b := by decide

theorem length_le_operator {op m s : List Char}
    (h : operators.find? (·.isPrefixOf s) = some op) (hm : m ∈ operators) (hp : m <+: s) :
    m.length ≤ op.length := by
  obtain ⟨ho, before, after, he, hb⟩ := List.find?_eq_some_iff_append.1 h
  have ho : op <+: s := List.isPrefixOf_iff_prefix.1 ho
  have hpw := pairwise_operators
  rw [he] at hm hpw
  rcases List.mem_append.1 hm with hm | hm
  · have hn := hb m hm
    rw [List.isPrefixOf_iff_prefix.2 hp] at hn
    cases hn
  · rcases List.mem_cons.1 hm with rfl | hm
    · exact Nat.le_refl _
    · have hn := List.rel_of_pairwise_cons (List.pairwise_append.1 hpw).2.1 hm
      rcases List.prefix_or_prefix_of_prefix ho hp with h1 | h1
      · exact absurd h1 hn
      · exact h1.length_le

/-! ## Reading takes the longest -/

/-- `l` stands at the start of `s`, and no lexeme there is longer. -/
structure Lexeme.LongestAt (l : Lexeme) (s : List Char) : Prop where
  wellFormed : l.WellFormed
  stands : l.text <+: s
  longest : ∀ m : Lexeme, m.WellFormed → m.text <+: s → m.text.length ≤ l.text.length

theorem Lexeme.LongestAt.unique {l m : Lexeme} {s : List Char} (hl : l.LongestAt s)
    (hm : m.LongestAt s) : l = m := by
  have h1 := hl.longest m hm.wellFormed hm.stands
  have h2 := hm.longest l hl.wellFormed hl.stands
  have hp := List.prefix_of_prefix_length_le hl.stands hm.stands h2
  exact Lexeme.eq_of_text_eq hl.wellFormed hm.wellFormed (hp.eq_of_length_le h1)

section
variable {m : Lexeme} {c : Char} {s : List Char} (hm : m.WellFormed) (hp : m.text <+: c :: s)
include hm hp

/-- A lexeme at the start of a text starts with its first character. -/
theorem exists_text_eq_cons : ∃ w, m.text = c :: w ∧ w <+: s := by
  obtain ⟨d, w, hw⟩ := List.exists_cons_of_ne_nil hm.text_ne_nil
  rw [hw, List.cons_prefix_cons] at hp
  exact ⟨w, by rw [hw, hp.1], hp.2⟩

/-- After a quote only a literal can stand, and it is the one that is read. -/
theorem munch_eq_some_of_quote (hc : c = '"') :
    ∃ rest, munch (c :: s) = some (m, rest) := by
  obtain ⟨w, hw, hws⟩ := exists_text_eq_cons hm hp
  have hs := hm.shape_cons hw
  rw [if_pos hc] at hs
  obtain ⟨⟨body, hbody, hb⟩, he⟩ := hs
  obtain ⟨t, rfl⟩ := hws
  obtain ⟨-, rfl⟩ := List.cons.inj hb
  refine ⟨t, ?_⟩
  rw [munch, if_pos hc, List.append_assoc, he, hc]
  exact munchString_append hbody t

theorem length_le_word (hq : c ≠ '"') (hc : isWordStart c = true) :
    m.text.length ≤ (c :: s.takeWhile isWordChar).length := by
  obtain ⟨w, hw, hws⟩ := exists_text_eq_cons hm hp
  have hs := hm.shape_cons hw
  rw [if_neg hq, if_pos hc] at hs
  have hl := length_le_takeWhile hws hs.1.2
  rw [hw]
  simpa using hl

theorem length_le_number (hq : c ≠ '"') (hw : isWordStart c = false) (hc : c.isDigit = true) :
    m.text.length ≤ (munchNumber c s).1.text.length := by
  obtain ⟨w, hw', -⟩ := exists_text_eq_cons hm hp
  have hs := hm.shape_cons hw'
  rw [if_neg hq, hw, if_neg (by simp), if_pos hc, ← hw'] at hs
  exact length_le_munchNumber hs.1 hp

theorem isSymbol_of_stands (hq : c ≠ '"') (hw : isWordStart c = false) (hd : c.isDigit = false) :
    IsSymbol m.text := by
  obtain ⟨w, hw', -⟩ := exists_text_eq_cons hm hp
  have hs := hm.shape_cons hw'
  rw [if_neg hq, hw, hd, if_neg (by simp), if_neg (by simp), ← hw'] at hs
  exact hs.1

end

/-- Where a symbol stands, one is read that is as long. -/
theorem exists_munchSymbol {m : Lexeme} {c : Char} {s : List Char} (hp : m.text <+: c :: s)
    (hy : IsSymbol m.text) :
    ∃ l rest, munchSymbol c s = some (l, rest) ∧ m.text.length ≤ l.text.length := by
  unfold munchSymbol
  cases hf : operators.find? (·.isPrefixOf (c :: s)) with
  | some op =>
    refine ⟨_, _, rfl, ?_⟩
    rcases hy with hy | ⟨d, -, he⟩
    · exact length_le_operator hf hy hp
    · have hne : ∀ op ∈ operators, 1 ≤ op.length := by decide
      rw [he]
      exact hne op (List.mem_of_find?_eq_some hf)
  | none =>
    rcases hy with hy | ⟨d, hd, he⟩
    · exact absurd (List.isPrefixOf_iff_prefix.2 hp) (by simpa using List.find?_eq_none.1 hf _ hy)
    · rw [he, List.cons_prefix_cons] at hp
      obtain ⟨rfl, -⟩ := hp
      exact ⟨_, _, if_pos hd, Nat.le_of_eq (congrArg List.length he)⟩

/-- Where a lexeme stands, one is read that is as long. -/
theorem exists_munch_of_stands {m : Lexeme} {s : List Char} (hm : m.WellFormed)
    (hp : m.text <+: s) : ∃ l rest, munch s = some (l, rest) ∧ m.text.length ≤ l.text.length := by
  cases s with
  | nil => exact absurd (List.prefix_nil.1 hp) hm.text_ne_nil
  | cons c s =>
    by_cases hq : c = '"'
    · obtain ⟨rest, h⟩ := munch_eq_some_of_quote hm hp hq
      exact ⟨m, rest, h, Nat.le_refl _⟩
    cases hw : isWordStart c with
    | true =>
      refine ⟨_, _, by rw [munch, if_neg hq, if_pos hw], ?_⟩
      exact length_le_word hm hp hq hw
    | false =>
      cases hd : c.isDigit with
      | true =>
        refine ⟨_, _, by rw [munch, if_neg hq, hw, if_neg (by simp), if_pos hd], ?_⟩
        exact length_le_number hm hp hq hw hd
      | false =>
        rw [munch, if_neg hq, hw, hd, if_neg (by simp), if_neg (by simp)]
        exact exists_munchSymbol hp (isSymbol_of_stands hm hp hq hw hd)

theorem longestAt_of_munch {l : Lexeme} {s rest : List Char} (h : munch s = some (l, rest)) :
    l.LongestAt s where
  wellFormed := wellFormed_of_munch h
  stands := ⟨rest, munch_text h⟩
  longest m hm hp := by
    obtain ⟨l', rest', h', hle⟩ := exists_munch_of_stands hm hp
    rw [h, Option.some.injEq, Prod.mk.injEq] at h'
    rw [h'.1]
    exact hle

theorem munch_eq_some_iff {l : Lexeme} {s rest : List Char} :
    munch s = some (l, rest) ↔ l.LongestAt s ∧ s = l.text ++ rest := by
  refine ⟨fun h => ⟨longestAt_of_munch h, (munch_text h).symm⟩, fun ⟨h, hs⟩ => ?_⟩
  obtain ⟨l', rest', h', -⟩ := exists_munch_of_stands h.wellFormed h.stands
  obtain rfl := (longestAt_of_munch h').unique h
  have ht := munch_text h'
  rw [hs, List.append_cancel_left_eq] at ht
  rw [h', ht]

theorem munch_eq_none_iff {s : List Char} :
    munch s = none ↔ ∀ l : Lexeme, l.WellFormed → ¬l.text <+: s := by
  constructor
  · intro h l hl hp
    obtain ⟨l', rest, h', -⟩ := exists_munch_of_stands hl hp
    rw [h] at h'
    cases h'
  · intro h
    cases hm : munch s with
    | none => rfl
    | some p => exact absurd ⟨p.2, munch_text hm⟩ (h p.1 (wellFormed_of_munch hm))

end StagedAnalysis

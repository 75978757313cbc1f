import Mathlib.Data.List.Forall2
import StagedAnalysis.Proofs.Document.Lines
import StagedAnalysis.Proofs.Token.Seam

/-!
# Whole text and single lines

A text can be read at once or line by line. Both ways fail on the same texts, and where they do not
they find the same lexemes at the same places.

* `blank_gaps_join`: the gaps of a text are blank if those of each of its lines are.
* `Located`: how the place in the whole text and the place on the line go together.
* `forall₂_place`, `forall₂_readLines`: the tokens of one line, and of all lines from a given
  offset on.
-/

namespace StagedAnalysis

/-! ## Lines and offsets -/

/-- The offset at which the line of the `n`-th character starts: right after the last line feed
before it. -/
def lineStart (s : List Char) (n : Nat) : Nat :=
  ((s.take n).reverse.dropWhile (· != '\n')).length

/-- Whole lines: nothing, or text that ends with a line feed. -/
def EndsLine (p : List Char) : Prop := p = [] ∨ ∃ q, p = q ++ ['\n']

section
variable {p l : List Char} (hp : EndsLine p) (hl : '\n' ∉ l) (q : List Char) {j : Nat}
  (hj : j ≤ l.length)

include hj in
theorem take_append_line : (p ++ (l ++ q)).take (p.length + j) = p ++ l.take j := by
  rw [List.take_length_add_append, List.take_append_of_le_length hj]

include hl hj in
theorem count_take_line :
    ((p ++ (l ++ q)).take (p.length + j)).count '\n' = p.count '\n' := by
  have hn : '\n' ∉ l.take j := fun h => hl (List.mem_of_mem_take h)
  rw [take_append_line q hj, List.count_append, List.count_eq_zero_of_not_mem hn, Nat.add_zero]

include hp hl hj in
theorem lineStart_line : lineStart (p ++ (l ++ q)) (p.length + j) = p.length := by
  have hn : ∀ c ∈ (l.take j).reverse, (c != '\n') = true := by
    intro c hc
    rw [bne_iff_ne]
    rintro rfl
    exact hl (List.mem_of_mem_take (List.mem_reverse.1 hc))
  rw [lineStart, take_append_line q hj, List.reverse_append, List.dropWhile_append_of_pos hn]
  rcases hp with rfl | ⟨p, rfl⟩
  · rfl
  · rw [List.reverse_append, List.reverse_singleton, List.singleton_append,
      List.dropWhile_cons_of_neg (by decide)]
    simp

end

/-! ## Places -/

/-- `u` is the token `t` of the text `s`, placed on its line: the line is found by the line feeds
before it, and the column counts from the start of that line. -/
structure Located (s : List Char) (t u : Token) : Prop where
  kind : u.kind = t.kind
  lexeme : u.lexeme = t.lexeme
  place : ∃ n : Nat, t.column = 1 + n ∧ u.line = 1 + (s.take n).count '\n' ∧
    u.column = t.column - lineStart s n

/-- The tokens of one line, seen from the whole text. -/
theorem forall₂_place {p l : List Char} (hp : EndsLine p) (hl : '\n' ∉ l) (q : List Char) {j : Nat}
    {ss : List Segment} (hj : j + (ss.flatMap Segment.text).length ≤ l.length) :
    List.Forall₂ (Located (p ++ (l ++ q))) (place 1 (p.length + j) ss)
      (place (1 + p.count '\n') j ss) := by
  induction ss generalizing j with
  | nil => exact .nil
  | cons s ss ih =>
    simp only [List.flatMap_cons, Segment.text, List.length_append] at hj
    have hk : j + s.gap.length ≤ l.length := by omega
    refine .cons ⟨rfl, rfl, p.length + (j + s.gap.length), ?_, ?_, ?_⟩ ?_
    · dsimp only
      omega
    · rw [count_take_line hl q hk]
    · rw [lineStart_line hp hl q hk]
      dsimp only
      omega
    · have hi := ih (j := j + s.gap.length + s.lexeme.text.length) (by omega)
      rw [← Nat.add_assoc, ← Nat.add_assoc] at hi
      exact hi

/-! ## All lines -/

theorem scan_of_blank {n : Int} {s : List Char} (h : ∀ g ∈ (cut s).gaps, Text.Blank g) :
    scan n s = .ok (place n 0 (cut s).segments) := scan_eq_ok_iff.2 ⟨h, rfl⟩

theorem length_flatMap_cut_le (s : List Char) :
    ((cut s).segments.flatMap Segment.text).length ≤ s.length := by
  have h := congrArg List.length (text_cut s)
  rw [Cut.text, List.length_append] at h
  omega

/-- The tokens of all lines, seen from the whole text with other lines before them. -/
theorem forall₂_readLines {p : List Char} (hp : EndsLine p) {ls : List (List Char)} (hne : ls ≠ [])
    (hls : ∀ l ∈ ls, '\n' ∉ l) (hb : ∀ l ∈ ls, ∀ g ∈ (cut l).gaps, Text.Blank g) :
    List.Forall₂ (Located (p ++ Text.join '\n' ls))
      (place 1 p.length (cut (Text.join '\n' ls)).segments)
      ((Document.readLines (1 + p.count '\n') ls).flatMap Line.tokens) := by
  induction ls generalizing p with
  | nil => exact absurd rfl hne
  | cons l ls ih =>
    have hl := hls l (.head _)
    have ht : (Line.read (1 + p.count '\n') l).tokens =
        place (1 + p.count '\n') 0 (cut l).segments :=
      tokens_read (scan_of_blank (hb l (.head _)))
    have hj : 0 + ((cut l).segments.flatMap Segment.text).length ≤ l.length := by
      rw [Nat.zero_add]
      exact length_flatMap_cut_le l
    rw [Document.readLines, List.flatMap_cons, ht]
    cases ls with
    | nil =>
      have h := forall₂_place hp hl [] hj
      simpa [Text.join, Document.readLines] using h
    | cons m ls =>
      have h := forall₂_place hp hl ('\n' :: Text.join '\n' (m :: ls)) hj
      have hi := ih (p := p ++ (l ++ ['\n'])) (.inr ⟨p ++ l, by simp⟩) (by simp)
        (fun k hk => hls k (.tail _ hk)) (fun k hk => hb k (.tail _ hk))
      have hc : (p ++ (l ++ ['\n'])).count '\n' = p.count '\n' + 1 := by
        rw [List.count_append, List.count_append, List.count_eq_zero_of_not_mem hl]
        simp
      rw [hc, List.length_append, List.length_append] at hi
      show List.Forall₂ (Located (p ++ (l ++ '\n' :: Text.join '\n' (m :: ls))))
        (place 1 p.length (cut (l ++ '\n' :: Text.join '\n' (m :: ls))).segments) _
      rw [cut_append_newline, Cut.place_append_segments, place_skip, text_cut]
      refine List.rel_append h ?_
      simpa [Nat.add_assoc, Int.add_assoc] using hi

theorem blank_gaps_join {ls : List (List Char)} (hne : ls ≠ []) :
    (∀ g ∈ (cut (Text.join '\n' ls)).gaps, Text.Blank g) ↔
      ∀ l ∈ ls, ∀ g ∈ (cut l).gaps, Text.Blank g := by
  induction ls with
  | nil => exact absurd rfl hne
  | cons l ls ih =>
    cases ls with
    | nil => simp [Text.join]
    | cons m ls =>
      show (∀ g ∈ (cut (l ++ '\n' :: Text.join '\n' (m :: ls))).gaps, Text.Blank g) ↔ _
      rw [cut_append_newline, Cut.blank_gaps_append, blank_gaps_skip_newline, ih (by simp),
        List.forall_mem_cons (a := l)]

theorem exists_scan_iff {n : Int} {s : List Char} :
    (∃ ts, scan n s = .ok ts) ↔ ∀ g ∈ (cut s).gaps, Text.Blank g :=
  ⟨fun ⟨_, h⟩ => (scan_eq_ok_iff.1 h).1, fun h => ⟨_, scan_of_blank h⟩⟩

/-- A document could be read if the gaps of each of its lines are blank. -/
theorem ok_ofChars_iff_blank {s : List Char} :
    (Document.ofChars s).ok = true ↔ ∀ l ∈ Text.lines s, ∀ g ∈ (cut l).gaps, Text.Blank g := by
  rw [Document.ok_ofChars_iff]
  simp only [exists_scan_iff]
  constructor
  · intro h l hl
    obtain ⟨k, hk⟩ := List.mem_iff_getElem?.1 hl
    exact h k l hk
  · exact fun h k l hk => h l (List.mem_of_getElem? hk)

/-- **At once or line by line.** A text can be tokenized as a whole exactly if each of its lines can
be read, and the tokens are the same in kind, lexeme and order. The line of a token is told by the
line feeds before its place in the whole text, and its column counts from the start of that line. -/
theorem forall₂_tokenize_ofText (text : String) :
    ((∃ ts, tokenize text 1 = .ok ts) ↔ (Document.ofText text).ok = true) ∧
    ∀ ts, tokenize text 1 = .ok ts →
      List.Forall₂ (Located text.toList) ts (Document.ofText text).tokens := by
  have hne : Text.lines text.toList ≠ [] := Text.pieces_ne_nil _
  have hj : Text.join '\n' (Text.lines text.toList) = text.toList := Text.join_pieces _
  have hb := blank_gaps_join hne
  rw [hj] at hb
  have hok : (∃ ts, tokenize text 1 = .ok ts) ↔ (Document.ofText text).ok = true := by
    show _ ↔ (Document.ofChars text.toList).ok = true
    rw [ok_ofChars_iff_blank]
    exact exists_scan_iff.trans hb
  refine ⟨hok, fun ts h => ?_⟩
  obtain ⟨hg, rfl⟩ := scan_eq_ok_iff.1 h
  have hf := forall₂_readLines (p := []) (.inl rfl) hne
    (fun l hl => Text.not_mem_of_mem_pieces hl) (hb.1 hg)
  rw [hj] at hf
  exact hf

end StagedAnalysis

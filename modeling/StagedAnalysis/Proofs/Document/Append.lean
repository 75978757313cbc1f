import StagedAnalysis.Proofs.Document.Lines
import StagedAnalysis.Proofs.Token.MaximalCut

/-!
# Documents one after the other

A line is read without regard to its number, which only marks what comes out. So the lines of two
texts, one below the other, are those of the first and then those of the second, further down by the
number of lines of the first; and so are their tokens.

* `Line.mapNumber`, `mapNumber_read`: all that the number of a line decides.
* `lines_append`, `tokens_append`: documents compose line by line.
* `line_of_mem_tokens`: the lines on which the tokens of a document stand.
-/

namespace StagedAnalysis

/-! ## Numbers of lines -/

/-- The token with another number for its line. -/
def Token.mapLine (f : Int → Int) (t : Token) : Token := { t with line := f t.line }

theorem map_mapLine_place (f : Int → Int) (line : Int) (n : Nat) (ss : List Segment) :
    (place line n ss).map (Token.mapLine f) = place (f line) n ss := by
  induction ss generalizing n with
  | nil => rfl
  | cons s ss ih =>
    simp only [place, List.map_cons, ih]
    rfl

theorem line_of_mem_place {line : Int} {n : Nat} {ss : List Segment} {t : Token}
    (h : t ∈ place line n ss) : t.line = line := by
  induction ss generalizing n with
  | nil => cases h
  | cons s ss ih =>
    rcases List.mem_cons.1 h with rfl | h
    · rfl
    · exact ih h

theorem line_of_mem_tokens_read {n : Int} {s : List Char} {t : Token}
    (ht : t ∈ (Line.read n s).tokens) : t.line = n := by
  obtain ⟨ts, hs, ht⟩ := scan_of_mem_tokens_read ht
  rw [(scan_eq_ok_iff.1 hs).2] at ht
  exact line_of_mem_place ht

/-- The error with another number for its line. -/
def LexicalError.mapLine (f : Int → Int) (e : LexicalError) : LexicalError :=
  { e with line := f e.line }

namespace Line

/-- The line under another number, which its tokens and its error take over. -/
def mapNumber (f : Int → Int) (l : Line) : Line where
  number := f l.number
  text := l.text
  result := match l.result with
    | .ok ts => .ok (ts.map (Token.mapLine f))
    | .error e => .error (e.mapLine f)

/-- Reading a line uses its number to mark what comes out, and for nothing else. -/
theorem mapNumber_read (f : Int → Int) (n : Int) (s : List Char) :
    (read n s).mapNumber f = read (f n) s := by
  unfold mapNumber read scan
  cases (cut s).gaps.find? fun g => !decide (Text.Blank g) with
  | none => simp only [map_mapLine_place]
  | some g => rfl

theorem tokens_mapNumber (f : Int → Int) (l : Line) :
    (l.mapNumber f).tokens = l.tokens.map (Token.mapLine f) := by
  unfold tokens mapNumber
  cases l.result <;> rfl

end Line

namespace Document

/-! ## Lines in a row -/

theorem readLines_append (n : Int) (ls ms : List (List Char)) :
    readLines n (ls ++ ms) = readLines n ls ++ readLines (n + ls.length) ms := by
  induction ls generalizing n with
  | nil => simp [readLines]
  | cons l ls ih =>
    simp only [List.cons_append, readLines, ih, List.length_cons]
    rw [show n + 1 + (ls.length : Int) = n + ((ls.length + 1 : Nat) : Int) by omega]

theorem map_mapNumber_readLines (n k : Int) (ls : List (List Char)) :
    (readLines n ls).map (Line.mapNumber (· + k)) = readLines (n + k) ls := by
  induction ls generalizing n with
  | nil => rfl
  | cons l ls ih =>
    simp only [readLines, List.map_cons, Line.mapNumber_read, ih]
    rw [show n + 1 + k = n + k + 1 by omega]

/-- The lines of two texts, one below the other. -/
theorem lines_append (a b : List Char) :
    (ofChars (a ++ '\n' :: b)).lines =
      (ofChars a).lines ++
        (ofChars b).lines.map (Line.mapNumber (· + ((Text.lines a).length : Int))) := by
  have hl : Text.lines (a ++ '\n' :: b) = Text.lines a ++ Text.lines b := Text.pieces_append a b
  simp only [ofChars, hl, readLines_append, map_mapNumber_readLines]

/-- The tokens of two texts on separate lines. -/
theorem tokens_append (a b : List Char) :
    (ofChars (a ++ '\n' :: b)).tokens =
      (ofChars a).tokens ++
        (ofChars b).tokens.map (Token.mapLine (· + ((Text.lines a).length : Int))) := by
  simp only [tokens, lines_append, List.flatMap_append, List.flatMap_map, List.map_flatMap,
    Line.tokens_mapNumber]

/-- The tokens of a text stand on its lines. -/
theorem line_of_mem_tokens {s : List Char} {t : Token} (h : t ∈ (ofChars s).tokens) :
    1 ≤ t.line ∧ t.line ≤ (Text.lines s).length := by
  obtain ⟨r, hr, ht⟩ := List.mem_flatMap.1 h
  obtain ⟨k, l, hl, rfl⟩ := mem_readLines hr
  have hk := (List.getElem?_eq_some_iff.1 hl).1
  have hn := line_of_mem_tokens_read ht
  omega

theorem line_of_mem_tokens_add {s : List Char} {k : Int} {t : Token}
    (h : t ∈ (ofChars s).tokens.map (Token.mapLine (· + k))) :
    1 + k ≤ t.line ∧ t.line ≤ (Text.lines s).length + k := by
  obtain ⟨u, hu, rfl⟩ := List.mem_map.1 h
  have hl := line_of_mem_tokens hu
  show 1 + k ≤ u.line + k ∧ u.line + k ≤ _
  omega

end Document

end StagedAnalysis

import StagedAnalysis.Proofs.Document.Append
import StagedAnalysis.Proofs.Token.Shape

/-!
# Documents line by line

A document is its lines in a row and nothing besides: a text below another adds its own lines with
higher numbers, and a text put in place of a line changes that line only. The tokens stand in the
order of their places, each where its line shows its lexeme.

* `unlines_texts`, `readLines_set`: the lines give the text back, and each depends on its own text.
* `pairwise_place`, `pairwise_readLines`: places grow along a line and along a document.
* `standsOn_of_mem_tokens_read`: a token is found on its line.
* `lines_ofText_append`: the main statement.
-/

namespace StagedAnalysis

/-! ## Places -/

/-- The place of the first token comes before that of the second: on a line further up, or further
left on the same line. -/
def Token.Precedes (t u : Token) : Prop := t.line < u.line ∨ t.line = u.line ∧ t.column < u.column

/-- The line holds the lexeme of the token at the column of the token, and has its number. -/
structure Token.StandsOn (t : Token) (l : Line) : Prop where
  line : t.line = l.number
  lexeme : ∃ before after, l.text.toList = before ++ (t.lexeme.toList ++ after) ∧
    t.column = 1 + before.length

theorem column_of_mem_place {line : Int} {n : Nat} {ss : List Segment} {t : Token}
    (h : t ∈ place line n ss) : n < t.column := by
  induction ss generalizing n with
  | nil => cases h
  | cons s ss ih =>
    rcases List.mem_cons.1 h with rfl | h
    · dsimp only
      omega
    · have hi := ih h
      omega

/-- No lexeme is empty, so the next one starts further right. -/
theorem pairwise_place {line : Int} {n : Nat} {ss : List Segment}
    (hs : ∀ s ∈ ss, s.lexeme.text ≠ []) :
    (place line n ss).Pairwise fun t u => t.column < u.column := by
  induction ss generalizing n with
  | nil => exact .nil
  | cons s ss ih =>
    refine .cons (fun u hu => ?_) (ih fun s hm => hs s (.tail _ hm))
    have hl := List.length_pos_iff.2 (hs s (.head _))
    have hu := column_of_mem_place hu
    dsimp only
    omega

/-- A token comes from the segment that stands before its column. -/
theorem exists_of_mem_place {line : Int} {n : Nat} {ss : List Segment} {t : Token}
    (h : t ∈ place line n ss) :
    ∃ before s after, ss = before ++ s :: after ∧ t.lexeme = String.ofList s.lexeme.text ∧
      t.column = n + (before.flatMap Segment.text ++ s.gap).length + 1 := by
  induction ss generalizing n with
  | nil => cases h
  | cons s ss ih =>
    rcases List.mem_cons.1 h with rfl | h
    · exact ⟨[], s, ss, rfl, rfl, by simp⟩
    · obtain ⟨before, u, after, rfl, hl, hc⟩ := ih h
      refine ⟨s :: before, u, after, rfl, hl, ?_⟩
      rw [hc]
      simp only [List.flatMap_cons, Segment.text, List.length_append]
      omega

/-! ## One line -/

theorem pairwise_scan {n : Int} {s : List Char} {ts : List Token} (h : scan n s = .ok ts) :
    ts.Pairwise Token.Precedes := by
  obtain ⟨hg, rfl⟩ := scan_eq_ok_iff.1 h
  have hne : ∀ u ∈ (cut s).segments, u.lexeme.text ≠ [] := fun u hu =>
    ((maximal_cut hg).wellFormed _ (List.mem_map_of_mem hu)).text_ne_nil
  refine (pairwise_place hne).imp_of_mem fun ht hu hc => .inr ⟨?_, hc⟩
  rw [line_of_mem_place ht, line_of_mem_place hu]

theorem pairwise_tokens_read (n : Int) (s : List Char) :
    (Line.read n s).tokens.Pairwise Token.Precedes := by
  cases hs : scan n s with
  | ok ts =>
    rw [tokens_read hs]
    exact pairwise_scan hs
  | error e =>
    rw [tokens_read_of_error hs]
    exact .nil

/-- A token stands where its lexeme was cut from the line. -/
theorem standsOn_of_mem_tokens_read {n : Int} {s : List Char} {t : Token}
    (h : t ∈ (Line.read n s).tokens) : t.StandsOn (.read n s) := by
  refine ⟨line_of_mem_tokens_read h, ?_⟩
  obtain ⟨ts, hs, ht⟩ := scan_of_mem_tokens_read h
  rw [(scan_eq_ok_iff.1 hs).2] at ht
  obtain ⟨before, u, after, hc, hl, hp⟩ := exists_of_mem_place ht
  refine ⟨before.flatMap Segment.text ++ u.gap, after.flatMap Segment.text ++ (cut s).rest, ?_, ?_⟩
  · have hx : (cut s).text = before.flatMap Segment.text ++ u.gap ++
        (u.lexeme.text ++ (after.flatMap Segment.text ++ (cut s).rest)) := by
      simp [Cut.text, hc, Segment.text]
    show (String.ofList s).toList = _
    rw [String.toList_ofList, hl, String.toList_ofList, ← hx, text_cut]
  · rw [hp]
    omega

/-! ## All lines -/

namespace Document

theorem texts_readLines (n : Int) (ls : List (List Char)) :
    (readLines n ls).map Line.text = ls.map String.ofList := by
  induction ls generalizing n with
  | nil => rfl
  | cons l ls ih => simp only [readLines, List.map_cons, ih, Line.read]

/-- The lines give the text back. -/
theorem unlines_texts (text : String) :
    Text.unlines ((ofText text).lines.map Line.text) = text := by
  simp only [ofText, ofChars, texts_readLines, Text.unlines, List.map_map, Function.comp_def,
    String.toList_ofList, List.map_id']
  rw [Text.lines, Text.join_pieces, String.ofList_toList]

theorem readLines_set (n : Int) (ls : List (List Char)) (k : Nat) (l : List Char) :
    readLines n (ls.set k l) = (readLines n ls).set k (.read (n + k) l) := by
  induction ls generalizing n k with
  | nil => rfl
  | cons m ls ih =>
    cases k with
    | zero => simp [readLines]
    | succ k =>
      simp only [List.set_cons_succ, readLines, ih]
      rw [show n + 1 + (k : Int) = n + ((k + 1 : Nat) : Int) by omega]

/-- Another text in place of a line changes that line only. -/
theorem lines_set (text : String) (k : Nat) {t : String} (ht : '\n' ∉ t.toList) :
    (ofText (Text.unlines (((ofText text).lines.map Line.text).set k t))).lines =
      (ofText text).lines.set k ⟨k + 1, t, tokenize t (k + 1)⟩ := by
  have hne : (Text.lines text.toList).set k t.toList ≠ [] := by
    rw [ne_eq, List.set_eq_nil_iff]
    exact Text.pieces_ne_nil _
  have hls : ∀ l ∈ (Text.lines text.toList).set k t.toList, '\n' ∉ l := by
    intro l hl
    rcases List.mem_or_eq_of_mem_set hl with hl | rfl
    · exact Text.not_mem_of_mem_pieces hl
    · exact ht
  have hset : ((ofText text).lines.map Line.text).set k t =
      ((Text.lines text.toList).set k t.toList).map String.ofList := by
    rw [ofText, ofChars, texts_readLines, List.map_set, String.ofList_toList]
  have hread : Line.read (1 + k) t.toList = ⟨k + 1, t, tokenize t (k + 1)⟩ := by
    rw [Int.add_comm, Line.read, String.ofList_toList]
    rfl
  rw [hset, ← hread]
  simp only [ofText, ofChars, Text.unlines, List.map_map, Function.comp_def, String.toList_ofList,
    List.map_id']
  rw [Text.lines, Text.pieces_join hne hls, readLines_set]

theorem pairwise_number_readLines (n : Int) (ls : List (List Char)) :
    (readLines n ls).Pairwise fun l m => l.number < m.number := by
  induction ls generalizing n with
  | nil => exact .nil
  | cons l ls ih =>
    refine .cons (fun m hm => ?_) (ih (n + 1))
    obtain ⟨k, s, -, rfl⟩ := mem_readLines hm
    show n < n + 1 + k
    omega

/-- Tokens of different lines stand in the order of the lines. -/
theorem pairwise_readLines (n : Int) (ls : List (List Char)) :
    ((readLines n ls).flatMap Line.tokens).Pairwise Token.Precedes := by
  refine List.pairwise_flatMap.2 ⟨fun l hl => ?_, ?_⟩
  · obtain ⟨k, s, -, rfl⟩ := mem_readLines hl
    exact pairwise_tokens_read _ s
  · refine (pairwise_number_readLines n ls).imp_of_mem fun hl hm hlt t ht u hu => .inl ?_
    obtain ⟨j, s, -, rfl⟩ := mem_readLines hl
    obtain ⟨k, r, -, rfl⟩ := mem_readLines hm
    rw [line_of_mem_tokens_read ht, line_of_mem_tokens_read hu]
    exact hlt

end Document

open Document in
/-- **Documents compose line by line.** Of a text below another nothing changes but the numbers of
its lines, for the lines, their tokens and their errors. So a document is told by its lines: they
give the text back, they are numbered from one on, and another text in place of one of them leaves
all others as they are. The tokens of the lines that could be read stand in the order of their
places, and each is found on its line. -/
theorem lines_ofText_append (a b : String) :
    let lines := fun text => (ofText text).lines
    lines (a ++ "\n" ++ b) =
      lines a ++ (lines b).map (Line.mapNumber (· + ((lines a).length : Int))) ∧
    ∀ text, Text.unlines ((lines text).map Line.text) = text ∧
      (∀ (k : Nat) l, (lines text)[k]? = some l → l.number = k + 1) ∧
      (∀ (k : Nat) t, '\n' ∉ t.toList →
        lines (Text.unlines (((lines text).map Line.text).set k t)) =
          (lines text).set k ⟨k + 1, t, tokenize t (k + 1)⟩) ∧
      (ofText text).tokens.Pairwise Token.Precedes ∧
      ∀ t ∈ (ofText text).tokens, ∃ l ∈ lines text, l.ok = true ∧ t ∈ l.tokens ∧ t.StandsOn l := by
  intro lines
  refine ⟨?append, fun text => ⟨unlines_texts text, ?number, fun k t ht => lines_set text k ht,
    pairwise_readLines 1 _, ?stands⟩⟩
  case append =>
    have hn : (lines a).length = (Text.lines a.toList).length := length_readLines 1 _
    have ht : (a ++ "\n" ++ b).toList = a.toList ++ '\n' :: b.toList := by simp
    rw [hn]
    simp only [lines, ofText, ht, lines_append]
  case number =>
    intro k l hl
    obtain ⟨s, -, rfl⟩ := Option.map_eq_some_iff.1 ((readLines_getElem? 1 _ k).symm.trans hl)
    exact Int.add_comm 1 k
  case stands =>
    intro t ht
    obtain ⟨l, hl, ht⟩ := List.mem_flatMap.1 ht
    obtain ⟨k, s, -, rfl⟩ := mem_readLines hl
    obtain ⟨ts, hs, -⟩ := scan_of_mem_tokens_read ht
    exact ⟨_, hl, ok_read_iff.2 ⟨ts, hs⟩, ht, standsOn_of_mem_tokens_read ht⟩

end StagedAnalysis

import StagedAnalysis.Proofs.Structure.Parts

/-!
# Lines without findings

Lines that have no findings of their own may be put between any two lines of a text. What the check
finds in the text stays, and where it stands below the new lines it moves down by their number.
Neither the lines above nor those below have to be in order, and any line may fail to be read.

* `map_makeRoom_tokens`, `tokens_append_append`: the tokens of a text with room for more lines in
  it, and with the lines in it.
* `check_insert_lines`: the main statement.
-/

namespace StagedAnalysis

/-- The number of a line once `m` lines have been put in after the first `n`. -/
def makeRoom (n m : Nat) (line : Int) : Int := if n < line then line + m else line

theorem makeRoom_injective (n m : Nat) : Function.Injective (makeRoom n m) := by
  intro k l h
  unfold makeRoom at h
  split at h <;> split at h <;> omega

theorem Finding.toDiagnostic_mapLine (g : Int → Int) (f : Finding) :
    (f.mapLine g).toDiagnostic =
      { f.toDiagnostic with
        message := .text (f.mapLine g).message
        line := f.line?.map fun line => .number (g line) } := by
  cases f <;> rfl

namespace Document

/-- Making room moves the lines below and keeps those above. -/
theorem map_makeRoom_tokens (a c : List Char) (m : Nat) :
    (ofChars (a ++ '\n' :: c)).tokens.map (Token.mapLine (makeRoom (Text.lines a).length m)) =
      (ofChars a).tokens ++
        (ofChars c).tokens.map (Token.mapLine (· + ((Text.lines a).length + m : Int))) := by
  have ha : ∀ t ∈ (ofChars a).tokens, t.mapLine (makeRoom (Text.lines a).length m) = t := by
    intro t ht
    have hl := line_of_mem_tokens ht
    have hr : makeRoom (Text.lines a).length m t.line = t.line := if_neg (by omega)
    rw [Token.mapLine, hr]
  have hc : ∀ t ∈ (ofChars c).tokens,
      (t.mapLine (· + ((Text.lines a).length : Int))).mapLine
          (makeRoom (Text.lines a).length m) =
        t.mapLine (· + ((Text.lines a).length + m : Int)) := by
    intro t ht
    have hl := line_of_mem_tokens ht
    have hr : makeRoom (Text.lines a).length m (t.line + (Text.lines a).length) =
        t.line + ((Text.lines a).length + m : Int) :=
      (if_pos (by omega)).trans (Int.add_assoc _ _ _)
    simp only [Token.mapLine, hr]
  rw [tokens_append, List.map_append, List.map_map, List.map_congr_left ha, List.map_id']
  exact congrArg _ (List.map_congr_left hc)

/-- The tokens of three texts on separate lines. -/
theorem tokens_append_append (a b c : List Char) :
    (ofChars (a ++ '\n' :: (b ++ '\n' :: c))).tokens =
      (ofChars a).tokens ++
        ((ofChars b).tokens.map (Token.mapLine (· + ((Text.lines a).length : Int))) ++
          (ofChars c).tokens.map
            (Token.mapLine (· + ((Text.lines a).length + (Text.lines b).length : Int)))) := by
  have hc : ∀ t ∈ (ofChars c).tokens,
      (t.mapLine (· + ((Text.lines b).length : Int))).mapLine (· + ((Text.lines a).length : Int)) =
        t.mapLine (· + ((Text.lines a).length + (Text.lines b).length : Int)) := by
    intro t _
    simp only [Token.mapLine, Token.mk.injEq, true_and, and_true]
    omega
  rw [tokens_append a, tokens_append b, List.map_append, List.map_map]
  exact congrArg _ (congrArg _ (List.map_congr_left hc))

end Document

open Document in
theorem check_insert_chars {a b c : List Char}
    (h : Structure.check (ofChars b).tokens = []) :
    Structure.check (ofChars (a ++ '\n' :: (b ++ '\n' :: c))).tokens =
      (Structure.check (ofChars (a ++ '\n' :: c)).tokens).map
        (Finding.mapLine (makeRoom (Text.lines a).length (Text.lines b).length)) := by
  have hb : Structure.check
      ((ofChars b).tokens.map (Token.mapLine (· + ((Text.lines a).length : Int)))) = [] := by
    rw [Structure.check_map (Token.moves_mapLine _).relabels (fun _ _ => (Int.add_left_inj _).1), h,
      List.map_nil]
  rw [← Structure.check_map (Token.moves_mapLine _).relabels (makeRoom_injective _ _),
    map_makeRoom_tokens, tokens_append_append]
  -- the three parts stand on lines of their own
  refine Structure.check_insert hb ?_ ?_ ?_
  · intro t ht u hu
    have hl := line_of_mem_tokens ht
    have hk := line_of_mem_tokens_add hu
    omega
  · intro t ht u hu
    have hl := line_of_mem_tokens ht
    have hk := line_of_mem_tokens_add hu
    omega
  · intro t ht u hu
    have hl := line_of_mem_tokens_add ht
    have hk := line_of_mem_tokens_add hu
    omega

/-- **Lines without findings are neutral.** Lines in which the check finds nothing may stand between
any others: the findings are those without these lines, in the same order and with all they say,
but for the numbers of the lines below, which grow by the number of the lines put in. -/
theorem check_insert_lines (a b c : String)
    (h : Structure.check (Document.ofText b).tokens = []) :
    let g := makeRoom (Text.lines a.toList).length (Text.lines b.toList).length
    let longer := Structure.check (Document.ofText (a ++ "\n" ++ b ++ "\n" ++ c)).tokens
    let shorter := Structure.check (Document.ofText (a ++ "\n" ++ c)).tokens
    longer = shorter.map (Finding.mapLine g) ∧
    longer.map Finding.toDiagnostic = shorter.map fun f =>
      { f.toDiagnostic with
        message := .text (f.mapLine g).message
        line := f.line?.map fun line => .number (g line) } := by
  intro g longer shorter
  have hlonger : (a ++ "\n" ++ b ++ "\n" ++ c).toList =
      a.toList ++ '\n' :: (b.toList ++ '\n' :: c.toList) := by simp
  have hshorter : (a ++ "\n" ++ c).toList = a.toList ++ '\n' :: c.toList := by simp
  have he : longer = shorter.map (Finding.mapLine g) := by
    simp only [longer, shorter, Document.ofText, hlonger, hshorter]
    exact check_insert_chars h
  refine ⟨he, ?_⟩
  rw [he, List.map_map]
  exact List.map_congr_left fun f _ => f.toDiagnostic_mapLine g

/-- Lines put in below a parenthesis closed too often, an open brace and a line that cannot be read;
one of the lines put in cannot be read either. -/
theorem check_insert_lines_sample :
    Structure.check (Document.ofText "if (y) \x7b\n@\ny = 2; \x7d").tokens = [] ∧
    Structure.check (Document.ofText ("x = 1\n) \x7b\n#" ++ "\n" ++
        "if (y) \x7b\n@\ny = 2; \x7d" ++ "\n" ++ "y = 3\n)")).tokens =
      [.missingSemicolon 1, .missingSemicolon 7, .unmatchedCloser .parenthesis 2,
        .unmatchedCloser .parenthesis 8, .unmatchedOpener .brace 1] := by
  have h : Structure.check (Document.ofText "if (y) \x7b\n@\ny = 2; \x7d").tokens = [] := by
    decide +kernel
  refine ⟨h, (check_insert_lines "x = 1\n) \x7b\n#" _ "y = 3\n)" h).1.trans ?_⟩
  decide +kernel

end StagedAnalysis

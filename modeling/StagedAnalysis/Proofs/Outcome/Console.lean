import StagedAnalysis.Proofs.Document.Composition
import StagedAnalysis.Proofs.Layout.Positions
import StagedAnalysis.Proofs.Names.Mentioned
import StagedAnalysis.Proofs.Outcome.Lexical
import StagedAnalysis.Proofs.Text.SingleLine
import StagedAnalysis.Proofs.Token.Failure

/-!
# Lines that stages write

What a stage writes to the console is put together from fixed words, numbers, and parts of the lines
of the text. So it is written in single lines, whatever the text.

* `Document.singleLine_lexeme`, `Document.singleLine_near`: the parts that come from the text.
* `Finding.singleLine_message`: a finding brings in nothing but the name it is about.
* `singleLine_console_runLexical`, `singleLine_console_checkStructure`,
  `singleLine_console_checkNames`: the lines of each stage.
-/

namespace StagedAnalysis

open Text (SingleLine singleLine_append singleLine_toString)

/-! ## What comes from the text -/

namespace Document

variable {text : String}

theorem newline_not_mem_of_mem_lines {l : Line} (h : l ∈ (ofText text).lines) :
    ∃ n s, l = .read n s ∧ '\n' ∉ s := by
  obtain ⟨k, s, hs, rfl⟩ := mem_readLines h
  exact ⟨_, s, rfl, Text.not_mem_of_mem_pieces (List.mem_of_getElem? hs)⟩

/-- A lexeme is part of a line. -/
theorem singleLine_lexeme {t : Token} (h : t ∈ (ofText text).tokens) : SingleLine t.lexeme := by
  obtain ⟨l, hl, ht⟩ := List.mem_flatMap.1 h
  obtain ⟨n, s, rfl, hs⟩ := newline_not_mem_of_mem_lines hl
  obtain ⟨before, after, hb, -⟩ := (standsOn_of_mem_tokens_read ht).lexeme
  have hb : s = before ++ (t.lexeme.toList ++ after) := by
    rw [← hb]
    exact String.toList_ofList.symm
  intro hm
  apply hs
  rw [hb]
  simp [hm]

/-- What an error quotes is part of a line. -/
theorem singleLine_near {e : LexicalError} (h : e ∈ (ofText text).errors) : SingleLine e.near := by
  obtain ⟨l, hl, he⟩ := List.mem_filterMap.1 h
  obtain ⟨n, s, rfl, hs⟩ := newline_not_mem_of_mem_lines hl
  have he : scan n s = .error e := by
    cases hr : scan n s with
    | ok ts => simp [Line.error?, Line.read, hr] at he
    | error e' => simpa [Line.error?, Line.read, hr] using he
  exact fun hm => hs (mem_of_mem_near he hm)

end Document

/-! ## Lines about tokens and findings -/

theorem Token.singleLine_listing {t : Token} (h : SingleLine t.lexeme) : SingleLine t.listing := by
  have hk : SingleLine t.kind.tag := by
    cases t.kind <;> decide +kernel
  simp only [listing, singleLine_append, hk, h, and_true]
  decide

theorem LexicalError.singleLine_message {e : LexicalError} (h : SingleLine e.near) :
    SingleLine e.message := by
  unfold message
  simp only [singleLine_append, h, and_true]
  decide +kernel

/-- Fixed words and numbers stand around the name that a finding is about. -/
theorem Finding.singleLine_message {f : Finding}
    (h : ∀ name, f.name? = some name → SingleLine name) : SingleLine f.message := by
  have hd (d : Delimiter) : SingleLine d.name := by
    cases d <;> decide +kernel
  cases f <;> unfold message <;>
    simp only [singleLine_append, singleLine_toString, hd, and_true]
  case missingSemicolon line => decide +kernel
  case unmatchedCloser d line => decide +kernel
  case unmatchedOpener d count => decide +kernel
  all_goals
    simp only [h _ rfl, and_true]
    decide +kernel

/-- The check of the structure is about no names. -/
theorem Structure.name?_of_mem_check {ts : List Token} {f : Finding} (h : f ∈ check ts) :
    f.name? = none := by
  have hc : f.code ∈ ["S001", "S002", "S003"] := by
    rcases List.mem_append.1 h with h | h
    · simp [code_of_mem_unterminated h]
    · rcases List.mem_append.1 h with h | h
      · simp [code_of_mem_unmatchedClosers h]
      · simp [code_of_mem_unmatchedOpeners h]
  cases f <;> simp_all [Finding.name?, Finding.code]

/-! ## The stages -/

/-- Reading hands on no lexeme of several lines. -/
theorem singleLine_of_mem_runLexical {text : String} {t : Token}
    (h : t ∈ (runLexical text).tokens) : SingleLine t.lexeme := by
  by_cases hok : (runLexical text).ok = true
  · rw [runLexical_tokens hok] at h
    exact Document.singleLine_lexeme h
  · rw [runLexical_tokens_of_not_ok hok] at h
    cases h

section
variable {P : String → Prop}

/-- What holds of the fixed lines, of those about errors and of those about tokens holds of all that
reading writes. -/
theorem forall_console_runLexical {text : String}
    (hfixed : ∀ l ∈ [lexicalTitle, "Error: No code loaded. Please open a file first.",
      "No tokens found (empty or whitespace-only file).", "Tokens:"], P l)
    (herror : ∀ e ∈ (Document.ofText text).errors,
      P ("Lexical Error (line " ++ toString e.line ++ "): " ++ e.message))
    (htoken : ∀ t ∈ (Document.ofText text).tokens, P t.listing) :
    ∀ l ∈ (runLexical text).console, P l := by
  simp only [List.forall_mem_cons] at hfixed
  obtain ⟨htitle, hempty, hblank, htokens, -⟩ := hfixed
  by_cases h : text = ""
  · subst h
    exact List.forall_mem_cons.2 ⟨htitle, List.forall_mem_singleton.2 hempty⟩
  · rw [runLexical_of_ne h, Document.outcome]
    split
    · exact List.forall_mem_cons.2 ⟨htitle, List.forall_mem_map.2 herror⟩
    · split
      · exact List.forall_mem_cons.2 ⟨htitle, List.forall_mem_singleton.2 hblank⟩
      · refine List.forall_mem_cons.2 ⟨htitle, List.forall_mem_cons.2 ⟨htokens, ?_⟩⟩
        exact List.forall_mem_map.2 htoken

theorem forall_console_checkStructure {ts : List Token}
    (hfixed : ∀ l ∈ [syntacticTitle, "Syntax OK.", "Syntax Errors:"], P l)
    (hfinding : ∀ f ∈ Structure.check ts, P f.message) :
    ∀ l ∈ (checkStructure ts).console, P l := by
  simp only [List.forall_mem_cons] at hfixed
  obtain ⟨htitle, hfine, herrors, -⟩ := hfixed
  unfold checkStructure
  dsimp only
  split
  · exact List.forall_mem_cons.2 ⟨htitle, List.forall_mem_singleton.2 hfine⟩
  · refine List.forall_mem_cons.2 ⟨htitle, List.forall_mem_cons.2 ⟨herrors, ?_⟩⟩
    exact List.forall_mem_map.2 hfinding

theorem forall_console_checkNames {p : Progress} {ts : List Token}
    (hfixed : ∀ l ∈ [semanticTitle, "Semantic OK. No issues found.",
      "Semantic Warnings/Errors:"], P l)
    (hfinding : ∀ f ∈ (Names.analyze ts).findings, P f.message) :
    ∀ l ∈ (checkNames p ts).console, P l := by
  simp only [List.forall_mem_cons] at hfixed
  obtain ⟨htitle, hfine, herrors, -⟩ := hfixed
  unfold checkNames
  dsimp only
  split
  · exact List.forall_mem_cons.2 ⟨htitle, List.forall_mem_singleton.2 hfine⟩
  · refine List.forall_mem_cons.2 ⟨htitle, List.forall_mem_cons.2 ⟨herrors, ?_⟩⟩
    exact List.forall_mem_map.2 hfinding

end

theorem singleLine_console_runLexical (text : String) :
    ∀ l ∈ (runLexical text).console, SingleLine l := by
  refine forall_console_runLexical (by decide +kernel) (fun e he => ?_) fun t ht => ?_
  · have hm := LexicalError.singleLine_message (Document.singleLine_near he)
    simp only [singleLine_append, singleLine_toString, hm, and_true]
    decide +kernel
  · exact Token.singleLine_listing (Document.singleLine_lexeme ht)

theorem singleLine_console_checkStructure (ts : List Token) :
    ∀ l ∈ (checkStructure ts).console, SingleLine l := by
  refine forall_console_checkStructure (by decide +kernel) fun f hf => ?_
  refine Finding.singleLine_message ?_
  simp [Structure.name?_of_mem_check hf]

theorem singleLine_console_checkNames (p : Progress) {ts : List Token}
    (h : ∀ t ∈ ts, SingleLine t.lexeme) : ∀ l ∈ (checkNames p ts).console, SingleLine l := by
  refine forall_console_checkNames (by decide +kernel) fun f hf => ?_
  refine Finding.singleLine_message fun name hname => ?_
  obtain ⟨t, ht, -, hn⟩ := Names.exists_token_of_mem_findings hf
  rw [hn, Option.some.injEq] at hname
  exact hname ▸ h t ht

end StagedAnalysis

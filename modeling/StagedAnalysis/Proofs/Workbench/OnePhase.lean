import StagedAnalysis.Proofs.Document.Composition
import StagedAnalysis.Proofs.Token.Failure
import StagedAnalysis.Proofs.Workbench.OwnText

/-!
# One phase at a time

The table of diagnostics puts the findings of all outcomes at hand after one another. A stage that
is run again drops the outcomes after it, and a stage only runs where the one before it found
nothing, so at most one outcome has anything to show. Which one can be told from the progress.

* `readingFailed_iff`, `lexPassed_of_checkFailed`: where a failure leaves a session.
* `diagnosticRows_eq`: the rows by progress; `exists_phase`: they name one phase.
* `diagnosticRows_of_readingFailed`, `diagnosticRows_of_checkFailed`, `diagnosticRows_of_analyzed`,
  `diagnosticRows_eq_nil`: the rows by what has failed.
* `findingRows_eq`, `map_tokenRow_eq`: the cells of the rows.
* `listedTokens_eq`: the tokens that are listed are those of the text that was read.
* `diagnosticRows_applyAll`: the main statement.
-/

namespace StagedAnalysis

namespace Document

/-- Where every line could be read there is no error. -/
theorem errors_eq_nil_of_ok {d : Document} (h : d.ok = true) : d.errors = [] := by
  refine List.filterMap_eq_nil_iff.2 fun l hl => ?_
  have hk := List.all_eq_true.1 h l hl
  simpa [Line.ok] using hk

/-- The tokens are those of the lines that could be read. -/
theorem tokens_eq_filter (d : Document) :
    d.tokens = (d.lines.filter Line.ok).flatMap Line.tokens := by
  unfold tokens
  induction d.lines with
  | nil => rfl
  | cons l ls ih =>
    rw [List.flatMap_cons, ih, List.filter_cons]
    split
    · rfl
    · next h =>
      have ht : l.tokens = [] := by
        unfold Line.ok Line.error? at h
        unfold Line.tokens
        cases hr : l.result <;> simp_all
      rw [ht, List.nil_append]

end Document

namespace Session

/-- A session that has not started holds no tokens. -/
theorem Coherent.tokens_of_notStarted {s : Session} (hs : s.Coherent)
    (hp : s.progress = .notStarted) : s.tokens = [] := by
  cases ho : s.lexical? with
  | none => exact hs.unread ho
  | some o =>
    obtain ⟨ht, text, rfl⟩ := hs.read o ho
    rw [ht]
    refine runLexical_tokens_of_not_ok ?_
    simp [hs.notStarted_iff.1 hp _ ho]

/-- The text was read and some line of it failed. -/
def ReadingFailed (s : Session) : Prop :=
  ∃ o d, s.lexical? = some o ∧ o.document = some d ∧ d.ok = false

/-- The structure was checked and something was found. -/
def CheckFailed (s : Session) : Prop := ∃ o, s.syntactic? = some o ∧ o.ok = false

end Session

namespace Workbench

open Session (ReadingFailed CheckFailed)

/-- The row of a line that cannot be tokenized. -/
def ReportsFailure (l : Line) (row : Row) : Prop :=
  ∃ e, tokenize l.text l.number = .error e ∧
    row = [("Fase", .text "Léxico"), ("Línea", .number l.number), ("Código", .text "L001"),
      ("Mensaje", .text e.message)]

def failureRow (e : LexicalError) : Row := diagnosticRow "Léxico" (some e.line) "L001" e.message

/-- One row for each line that failed. -/
theorem forall₂_failures (n : Int) (ls : List (List Char)) :
    List.Forall₂ ReportsFailure ((Document.readLines n ls).filter (!·.ok))
      (((Document.readLines n ls).filterMap Line.error?).map failureRow) := by
  induction ls generalizing n with
  | nil => exact .nil
  | cons l ls ih =>
    rw [Document.readLines, List.filter_cons, List.filterMap_cons]
    cases hs : scan n l with
    | ok ts =>
      have he : (Line.read n l).error? = none := by simp [Line.error?, Line.read, hs]
      simpa [Line.ok, he] using ih (n + 1)
    | error e =>
      have he : (Line.read n l).error? = some e := by simp [Line.error?, Line.read, hs]
      have ht : tokenize (Line.read n l).text n = .error e := by
        simpa [tokenize, Line.read] using hs
      have hr : ReportsFailure (.read n l) (failureRow e) := by
        rw [failureRow, line_of_scan_error hs]
        exact ⟨e, ht, rfl⟩
      simpa [Line.ok, he] using And.intro hr (ih (n + 1))

/-! ## Which stage contributes -/

theorem errors_empty : (Document.ofText "").errors = [] := by
  rw [Document.errors, ofText_empty]
  rfl

theorem lexicalRows_runLexical (text : String) :
    lexicalRows (runLexical text) = (Document.ofText text).errors.map failureRow := by
  by_cases h : text = ""
  · subst h
    rw [errors_empty]
    rfl
  · rw [lexicalRows, runLexical_document h]
    rfl

section
variable {s : Session} (hs : s.Coherent) (hc : s.Current)

include hc in
theorem readingFailed_iff :
    s.ReadingFailed ↔ s.lexical?.isSome ∧ (Document.ofText s.source).ok = false := by
  constructor
  · rintro ⟨o, d, ho, hd, hk⟩
    refine ⟨by simp [ho], ?_⟩
    rw [hc o ho] at hd
    by_cases h : s.source = ""
    · rw [h] at hd
      cases hd
    · rw [runLexical_document h, Option.some.injEq] at hd
      rw [hd, hk]
  · rintro ⟨ho, hk⟩
    obtain ⟨o, ho⟩ := Option.isSome_iff_exists.1 ho
    have h : s.source ≠ "" := by
      intro h
      rw [h, Document.ok, ofText_empty] at hk
      cases hk
    exact ⟨o, _, ho, by rw [hc o ho, runLexical_document h], hk⟩

include hs hc in
/-- Once the analysis has started, every line has been read. -/
theorem read_of_started (h : s.progress ≠ .notStarted) :
    s.lexical?.isSome ∧ (Document.ofText s.source).ok = true := by
  have hn := mt hs.notStarted_iff.2 h
  simp only [not_forall] at hn
  obtain ⟨o, ho, hk⟩ := hn
  rw [hc o ho, Bool.not_eq_false, runLexical_ok_iff] at hk
  exact ⟨by simp [ho], hk.1⟩

include hs hc in
theorem notStarted_of_readingFailed (h : s.ReadingFailed) : s.progress = .notStarted := by
  by_contra hp
  have hk := ((readingFailed_iff hc).1 h).2
  rw [(read_of_started hs hc hp).2] at hk
  cases hk

include hs in
/-- A check that fails goes back to where reading had come. -/
theorem lexPassed_of_checkFailed (h : s.CheckFailed) : s.progress = .lexPassed := by
  obtain ⟨o, ho, hk⟩ := h
  cases hp : s.progress with
  | lexPassed => rfl
  | notStarted =>
    rw [(hs.idle hp).1] at ho
    cases ho
  | syntaxPassed =>
    obtain ⟨o', ho', hk'⟩ := hs.syntaxPassed_iff.1 hp
    rw [ho, Option.some.injEq] at ho'
    rw [← ho', hk] at hk'
    cases hk'

include hs hc in
/-- The rows are those of the stage that the progress has come to. -/
theorem diagnosticRows_eq :
    diagnosticRows s =
      match s.progress with
      | .notStarted => (s.lexical?.map lexicalRows).getD []
      | .lexPassed => (s.syntactic?.map fun o => findingRows "Sintaxis" o.findings).getD []
      | .syntaxPassed =>
        (s.semantic?.map fun o => findingRows "Semántica" o.analysis.findings).getD [] := by
  have hread (h : s.progress ≠ .notStarted) : (s.lexical?.map lexicalRows).getD [] = [] := by
    have he := Document.errors_eq_nil_of_ok (read_of_started hs hc h).2
    cases ho : s.lexical? with
    | none => rfl
    | some o => simp [hc o ho, lexicalRows_runLexical, he]
  unfold diagnosticRows
  cases hp : s.progress with
  | notStarted =>
    obtain ⟨hy, hm⟩ := hs.idle hp
    simp [hy, hm]
  | lexPassed =>
    have hm : s.semantic? = none := by
      cases hm : s.semantic? with
      | none => rfl
      | some o =>
        have hq := (hs.analyzed o hm).1
        rw [hp] at hq
        cases hq
    simp [hread (by simp [hp]), hm]
  | syntaxPassed =>
    obtain ⟨o, ho, hk⟩ := hs.syntaxPassed_iff.1 hp
    have hf : o.findings = [] := by simpa [SyntacticOutcome.ok] using hk
    simp [hread (by simp [hp]), ho, hf, findingRows]

include hs hc in
theorem diagnosticRows_of_readingFailed (h : s.ReadingFailed) :
    List.Forall₂ ReportsFailure (Document.ofText s.source).failures (diagnosticRows s) := by
  obtain ⟨o, ho⟩ := Option.isSome_iff_exists.1 ((readingFailed_iff hc).1 h).1
  rw [diagnosticRows_eq hs hc, notStarted_of_readingFailed hs hc h, ho, hc o ho]
  dsimp only
  rw [Option.map_some, Option.getD_some, lexicalRows_runLexical]
  exact forall₂_failures 1 _

include hs hc in
theorem diagnosticRows_of_checkFailed (h : s.CheckFailed) :
    diagnosticRows s = findingRows "Sintaxis" (Structure.check s.tokens) := by
  rw [diagnosticRows_eq hs hc, lexPassed_of_checkFailed hs h]
  obtain ⟨o, ho, -⟩ := h
  simp [ho, hs.checked o ho]

include hs hc in
theorem diagnosticRows_of_analyzed (h : s.semantic? ≠ none) :
    diagnosticRows s = findingRows "Semántica" (Names.analyze s.tokens).findings := by
  obtain ⟨o, ho⟩ := Option.ne_none_iff_exists'.1 h
  obtain ⟨hp, rfl⟩ := hs.analyzed o ho
  simp [diagnosticRows_eq hs hc, hp, ho]

include hs hc in
/-- An outcome without failures shows nothing. -/
theorem diagnosticRows_eq_nil (hr : ¬s.ReadingFailed) (hk : ¬s.CheckFailed)
    (hm : s.semantic? = none) : diagnosticRows s = [] := by
  rw [diagnosticRows_eq hs hc]
  cases hp : s.progress with
  | notStarted =>
    cases ho : s.lexical? with
    | none => rfl
    | some o =>
      have hd : (Document.ofText s.source).ok = true := by
        by_contra hd
        exact hr ((readingFailed_iff hc).2 ⟨by simp [ho], by simpa using hd⟩)
      simp [hc o ho, lexicalRows_runLexical, Document.errors_eq_nil_of_ok hd]
  | lexPassed =>
    cases ho : s.syntactic? with
    | none => rfl
    | some o =>
      have hf : o.findings = [] := by
        by_contra hf
        exact hk ⟨o, ho, by simpa [SyntacticOutcome.ok] using hf⟩
      simp [hf, findingRows]
  | syntaxPassed => simp [hm]

end

theorem phase_of_mem_findingRows {phase : String} {fs : List Finding} {row : Row}
    (h : row ∈ findingRows phase fs) : row.lookup "Fase" = some (.text phase) := by
  obtain ⟨f, -, rfl⟩ := List.mem_map.1 h
  rfl

theorem phase_of_mem_lexicalRows {o : LexicalOutcome} {row : Row} (h : row ∈ lexicalRows o) :
    row.lookup "Fase" = some (.text "Léxico") := by
  unfold lexicalRows at h
  split at h
  · cases h
  · obtain ⟨e, -, rfl⟩ := List.mem_map.1 h
    rfl

theorem exists_of_mem_getD {α : Type} {o : Option α} {f : α → List Row} {row : Row}
    (h : row ∈ (o.map f).getD []) : ∃ a, row ∈ f a := by
  cases o with
  | none => cases h
  | some a => exact ⟨a, h⟩

/-- All rows name the same phase. -/
theorem exists_phase {s : Session} (hs : s.Coherent) (hc : s.Current) :
    ∃ phase, ∀ row ∈ diagnosticRows s, row.lookup "Fase" = some (.text phase) := by
  rw [diagnosticRows_eq hs hc]
  cases s.progress with
  | notStarted =>
    refine ⟨"Léxico", fun row h => ?_⟩
    obtain ⟨o, ho⟩ := exists_of_mem_getD h
    exact phase_of_mem_lexicalRows ho
  | lexPassed =>
    refine ⟨"Sintaxis", fun row h => ?_⟩
    obtain ⟨o, ho⟩ := exists_of_mem_getD h
    exact phase_of_mem_findingRows ho
  | syntaxPassed =>
    refine ⟨"Semántica", fun row h => ?_⟩
    obtain ⟨o, ho⟩ := exists_of_mem_getD h
    exact phase_of_mem_findingRows ho

/-! ## Cells -/

/-- A finding is shown with its line, where it has one, its code and its message. -/
theorem findingRows_eq (phase : String) (fs : List Finding) :
    findingRows phase fs = fs.map fun f =>
      [("Fase", .text phase), ("Línea", f.line?.elim .missing .number), ("Código", .text f.code),
        ("Mensaje", .text f.message)] := by
  refine List.map_congr_left fun f _ => ?_
  rw [diagnosticRow]
  cases f.line? <;> rfl

/-- A token is shown with its kind, its lexeme and its place. -/
theorem map_tokenRow_eq (ts : List Token) :
    ts.map tokenRow = ts.map fun t =>
      [("kind", .text t.kind.label), ("lexeme", .text t.lexeme), ("line", .number t.line),
        ("column", .number t.column)] := rfl

/-! ## The tokens that are listed -/

theorem listedTokens_eq {s : Session} (hc : s.Current) :
    listedTokens s = if s.lexical?.isSome then (Document.ofText s.source).tokens else [] := by
  unfold listedTokens
  cases ho : s.lexical? with
  | none => rfl
  | some o =>
    rw [hc o ho]
    by_cases h : s.source = ""
    · rw [h, tokens_empty]
      rfl
    · simp [runLexical_document h]

open Session (Op coherent_applyAll current_of_unread unread_start)

/-- **The table of diagnostics belongs to one phase.** Whatever operations have led to a session,
its rows are one for each line that failed, in the order of the lines, where the text was read and
could not be; the findings of the check where that found any; those of the analysis where it has
run; and otherwise there are none. A reading that was forgotten since then no longer counts. The
tokens listed, with their columns, are the session's own once the analysis has started, and before
that those of the lines that could be read, which the session itself does not take. -/
theorem diagnosticRows_applyAll (source : String) {ops : List Op}
    (hops : ∀ op ∈ ops, op.assigns = false) :
    let s := (Session.start source).applyAll ops
    let d := Document.ofText s.source
    let shown (phase : String) (f : Finding) : Row :=
      [("Fase", .text phase), ("Línea", f.line?.elim .missing .number), ("Código", .text f.code),
        ("Mensaje", .text f.message)]
    let listed (t : Token) : Row :=
      [("kind", .text t.kind.label), ("lexeme", .text t.lexeme), ("line", .number t.line),
        ("column", .number t.column)]
    (s.ReadingFailed →
      List.Forall₂ ReportsFailure d.failures (diagnosticRows s) ∧
        d.failures.Pairwise fun l m => l.number < m.number) ∧
    (s.CheckFailed → diagnosticRows s = (Structure.check s.tokens).map (shown "Sintaxis")) ∧
    (s.semantic? ≠ none →
      diagnosticRows s = (Names.analyze s.tokens).findings.map (shown "Semántica")) ∧
    (¬s.ReadingFailed → ¬s.CheckFailed → s.semantic? = none → diagnosticRows s = []) ∧
    (∃ phase, ∀ row ∈ diagnosticRows s, row.lookup "Fase" = some (.text phase)) ∧
    (s.progress ≠ .notStarted → tokenRows s = s.tokens.map listed) ∧
    (s.progress = .notStarted → s.tokens = [] ∧
      tokenRows s =
        if s.lexical?.isSome then ((d.lines.filter Line.ok).flatMap Line.tokens).map listed
        else []) := by
  intro s d shown listed
  have hs : s.Coherent := coherent_applyAll source ops
  have hc : s.Current := (current_of_unread (unread_start source)).applyAll hops
  refine ⟨?reading, fun h => (diagnosticRows_of_checkFailed hs hc h).trans (findingRows_eq _ _),
    fun h => (diagnosticRows_of_analyzed hs hc h).trans (findingRows_eq _ _),
    diagnosticRows_eq_nil hs hc, exists_phase hs hc, ?started, ?notStarted⟩
  case reading =>
    intro h
    refine ⟨diagnosticRows_of_readingFailed hs hc h, ?_⟩
    exact (Document.pairwise_number_readLines 1 _).filter _
  case started =>
    intro hp
    rw [tokenRows, listedTokens_eq hc, if_pos (read_of_started hs hc hp).1,
      Session.tokens_of_started hs hc hp, map_tokenRow_eq]
  case notStarted =>
    intro hp
    refine ⟨hs.tokens_of_notStarted hp, ?_⟩
    rw [tokenRows, listedTokens_eq hc, Document.tokens_eq_filter, map_tokenRow_eq]
    split <;> rfl

/-- A check before its time, and then another text that is read and found wrong. -/
def rereadOps : List Op := [.lexical, .syntactic, .setSource "x = (1", .runAll]

theorem diagnosticRows_applyAll_sample :
    (∀ op ∈ rereadOps, op.assigns = false) ∧
    ((Session.start "int x;\n@").applyAll [.lexical]).ReadingFailed ∧
    List.Forall₂ ReportsFailure (Document.ofText "int x;\n@").failures
      (diagnosticRows ((Session.start "int x;\n@").applyAll [.lexical])) ∧
    ((Session.start "int x;\n@").applyAll [.lexical]).progress = .notStarted ∧
    tokenRows ((Session.start "int x;\n@").applyAll [.lexical]) =
      [[("kind", .text "Keyword"), ("lexeme", .text "int"), ("line", .number 1),
          ("column", .number 1)],
        [("kind", .text "Identifier"), ("lexeme", .text "x"), ("line", .number 1),
          ("column", .number 5)],
        [("kind", .text "Punctuation"), ("lexeme", .text ";"), ("line", .number 1),
          ("column", .number 6)]] ∧
    ((Session.start "int x;\n@").applyAll rereadOps).CheckFailed ∧
    diagnosticRows ((Session.start "int x;\n@").applyAll rereadOps) =
      [[("Fase", .text "Sintaxis"), ("Línea", .number 1), ("Código", .text "S001"),
          ("Mensaje", .text "Missing semicolon at or after assignment on line 1.")],
        [("Fase", .text "Sintaxis"), ("Línea", .missing), ("Código", .text "S003"),
          ("Mensaje", .text "Unmatched opening parenthesis.")]] := by
  have hread : ∀ op ∈ [Op.lexical], op.assigns = false := by decide
  have hops : ∀ op ∈ rereadOps, op.assigns = false := by decide
  have hfailed : ((Session.start "int x;\n@").applyAll [.lexical]).ReadingFailed :=
    ⟨_, _, rfl, runLexical_document (by decide), by decide +kernel⟩
  have hcheck : ((Session.start "int x;\n@").applyAll rereadOps).CheckFailed := by
    have hk : (((Session.start "int x;\n@").applyAll rereadOps).syntactic?.map (·.ok)) =
        some false := by decide +kernel
    obtain ⟨o, ho, hk⟩ := Option.map_eq_some_iff.1 hk
    exact ⟨o, ho, hk⟩
  have hstarted : ((Session.start "int x;\n@").applyAll [.lexical]).progress = .notStarted := by
    decide +kernel
  obtain ⟨hrows, -, -, -, -, -, htokens⟩ := diagnosticRows_applyAll "int x;\n@" hread
  refine ⟨hops, hfailed, (hrows hfailed).1, hstarted, ?tokens, hcheck, ?findings⟩
  case tokens =>
    rw [(htokens hstarted).2]
    decide +kernel
  case findings =>
    rw [(diagnosticRows_applyAll _ hops).2.1 hcheck]
    decide +kernel

end Workbench

end StagedAnalysis

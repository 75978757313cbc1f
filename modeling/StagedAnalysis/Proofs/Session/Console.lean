import Mathlib.Data.List.Induction
import StagedAnalysis.Proofs.Outcome.Console
import StagedAnalysis.Proofs.Session.FullRun

/-!
# The console as a log

The console grows by what each operation writes and is never changed otherwise, save that it can be
cleared. So its lines can be told from the operations since it was cleared last; and as they are
single lines, the transcript has just these lines.

* `emitted`: what an operation writes, by the stages that it runs; `console_apply`: the console
  after it.
* `SinceClear`, `exists_sinceClear`: the operations since the console was cleared last.
* `written`, `console_applyAll_of_not_mem`: what operations write one after the other.
* `singleLine_emitted`, `singleLine_console`: all of it in single lines.
* `console_applyAll`: the main statement.
-/

namespace StagedAnalysis

open Text (SingleLine)

theorem runSyntactic_eq (p : Progress) (ts : List Token) :
    runSyntactic p ts =
      if p = .notStarted then .error ⟨.syntactic, p⟩ else .ok (checkStructure ts) := by
  cases p <;> rfl

theorem runSemantic_eq (p : Progress) (ts : List Token) :
    runSemantic p ts =
      if p = .syntaxPassed then .ok (checkNames p ts) else .error ⟨.semantic, p⟩ := by
  cases p <;> rfl

namespace Session

variable {s : Session}

/-! ## What an operation writes -/

/-- The lines of an outcome, or the message of the stage that was refused. -/
def linesOf {α : Type} (console : α → List String) : Except StageOrderError α → List String
  | .error e => [gateMessage e.stage]
  | .ok o => console o

/-- The lines of all stages that can run one after the other on a text. -/
def fullRunLines (text : String) : List String :=
  let o := runLexical text
  o.console ++
    match runSyntactic o.progress o.tokens with
    | .error _ => []
    | .ok o' =>
      o'.console ++
        match runSemantic o'.progress o.tokens with
        | .error _ => []
        | .ok o'' => o''.console

/-- What an operation writes to the console. -/
def emitted (s : Session) : Op → List String
  | .lexical => (runLexical s.source).console
  | .syntactic => linesOf SyntacticOutcome.console (runSyntactic s.progress s.tokens)
  | .semantic => linesOf SemanticOutcome.console (runSemantic s.progress s.tokens)
  | .runAll => fullRunLines s.source
  | .load _ (some name) => if name = "" then [] else [openedLine name]
  | .load _ none | .setSource _ | .assignSource _ | .clear | .reset | .transcript => []

theorem console_syntactic (s : Session) :
    s.syntactic.1.console = s.console ++ s.emitted .syntactic := by
  unfold Session.syntactic emitted
  cases runSyntactic s.progress s.tokens <;> rfl

theorem console_semantic (s : Session) :
    s.semantic.1.console = s.console ++ s.emitted .semantic := by
  unfold Session.semantic emitted
  cases runSemantic s.progress s.tokens <;> rfl

theorem console_runAll (s : Session) : s.runAll.1.console = s.console ++ fullRunLines s.source := by
  rw [runAll_console, runAll_progress, fullRunLines, runSyntactic_eq]
  by_cases h : (runLexical s.source).ok = true
  · have hp := LexicalOutcome.ok_iff.1 h
    have hc := checkStructure_ne_notStarted (runLexical s.source).tokens
    by_cases hs : (checkStructure (runLexical s.source).tokens).progress = .syntaxPassed
    · simp [h, hp, hs, runSemantic_eq]
    · simp [h, hp, hc, hs, runSemantic_eq]
  · have hp := (runLexical_notStarted_iff s.source).2 (by simpa using h)
    simp [h, hp]

theorem console_load (s : Session) (source : String) (name? : Option String) :
    (s.load source name?).console = s.console ++ s.emitted (.load source name?) := by
  cases name? with
  | none => exact (List.append_nil _).symm
  | some name =>
    unfold load emitted
    by_cases h : name = ""
    · simp [h, reset]
    · simp [h, reset, print]

theorem console_setSource (s : Session) (source : String) :
    (s.setSource source).1.console = s.console := by
  unfold setSource
  split <;> rfl

/-- An operation adds what it writes to the console, unless it clears it. -/
theorem console_apply (s : Session) (op : Op) :
    (s.apply op).1.console = if op = .clear then [] else s.console ++ s.emitted op := by
  cases op with
  | lexical => rfl
  | syntactic => exact s.console_syntactic
  | semantic => exact s.console_semantic
  | runAll => exact s.console_runAll
  | load source name? => exact s.console_load source name?
  | setSource source =>
    rw [if_neg (by simp), emitted, List.append_nil]
    exact s.console_setSource source
  | assignSource source => exact (List.append_nil _).symm
  | clear => rfl
  | reset => exact (List.append_nil _).symm
  | transcript => exact (List.append_nil _).symm

/-! ## Runs -/

/-- What operations write one after the other. -/
def written (s : Session) : List Op → List String
  | [] => []
  | op :: ops => s.emitted op ++ (s.apply op).1.written ops

/-- The operations are those up to the last that clears, and those after it. -/
structure SinceClear (ops before after : List Op) : Prop where
  split : ops = before ++ after
  cleared : before = [] ∨ ∃ ops', before = ops' ++ [.clear]
  kept : .clear ∉ after

theorem exists_sinceClear (ops : List Op) : ∃ before after, SinceClear ops before after := by
  induction ops using List.reverseRecOn with
  | nil => exact ⟨[], [], rfl, .inl rfl, by simp⟩
  | append_singleton ops op ih =>
    by_cases hop : op = .clear
    · subst hop
      exact ⟨ops ++ [.clear], [], by simp, .inr ⟨ops, rfl⟩, by simp⟩
    · obtain ⟨before, after, rfl, hb, ha⟩ := ih
      exact ⟨before, after ++ [op], by simp, hb, by simp [ha, Ne.symm hop]⟩

theorem console_applyAll_of_not_mem {ops : List Op} (h : .clear ∉ ops) :
    (s.applyAll ops).console = s.console ++ s.written ops := by
  induction ops generalizing s with
  | nil => exact (List.append_nil _).symm
  | cons op ops ih =>
    rw [List.mem_cons, not_or] at h
    show ((s.apply op).1.applyAll ops).console = _
    rw [ih h.2, console_apply, if_neg (Ne.symm h.1), written, List.append_assoc]

theorem console_of_cleared {source : String} {ops : List Op}
    (h : ops = [] ∨ ∃ ops', ops = ops' ++ [.clear]) :
    ((start source).applyAll ops).console = [] := by
  rcases h with rfl | ⟨ops', rfl⟩
  · rfl
  · rw [applyAll_concat]
    rfl

/-! ## Single lines -/

theorem Coherent.singleLine_tokens (h : s.Coherent) {t : Token} (ht : t ∈ s.tokens) :
    SingleLine t.lexeme := by
  cases ho : s.lexical? with
  | none =>
    rw [h.unread ho] at ht
    cases ht
  | some o =>
    obtain ⟨hk, text, rfl⟩ := h.read o ho
    exact singleLine_of_mem_runLexical (hk ▸ ht)

theorem singleLine_gateMessage (stage : Stage) : SingleLine (gateMessage stage) := by
  cases stage <;> decide +kernel

theorem singleLine_fullRunLines (text : String) : ∀ l ∈ fullRunLines text, SingleLine l := by
  unfold fullRunLines
  refine List.forall_mem_append.2 ⟨singleLine_console_runLexical text, ?_⟩
  rw [runSyntactic_eq]
  by_cases hp : (runLexical text).progress = .notStarted
  · simp [hp]
  · rw [if_neg hp]
    refine List.forall_mem_append.2 ⟨singleLine_console_checkStructure _, ?_⟩
    rw [runSemantic_eq]
    by_cases hs : (checkStructure (runLexical text).tokens).progress = .syntaxPassed
    · rw [if_pos hs]
      exact singleLine_console_checkNames _ fun t ht => singleLine_of_mem_runLexical ht
    · simp [hs]

/-- Whatever an operation writes is written in single lines, if the name of the file is one. -/
theorem singleLine_emitted (h : s.Coherent) {op : Op}
    (hop : ∀ text name, op = .load text (some name) → SingleLine name) :
    ∀ l ∈ s.emitted op, SingleLine l := by
  cases op with
  | lexical => exact singleLine_console_runLexical s.source
  | syntactic =>
    rw [emitted, runSyntactic_eq]
    split
    · simpa [linesOf] using singleLine_gateMessage .syntactic
    · exact singleLine_console_checkStructure s.tokens
  | semantic =>
    rw [emitted, runSemantic_eq]
    split
    · exact singleLine_console_checkNames _ fun t ht => h.singleLine_tokens ht
    · simpa [linesOf] using singleLine_gateMessage .semantic
  | runAll => exact singleLine_fullRunLines s.source
  | load source name? =>
    cases name? with
    | none => simp [emitted]
    | some name =>
      have hn : SingleLine (openedLine name) :=
        Text.singleLine_append.2 ⟨by decide +kernel, hop source name rfl⟩
      rw [emitted]
      split
      · simp
      · simpa using hn
  | setSource source => simp [emitted]
  | assignSource source => simp [emitted]
  | clear => simp [emitted]
  | reset => simp [emitted]
  | transcript => simp [emitted]

theorem singleLine_console (source : String) {ops : List Op}
    (hops : ∀ text name, .load text (some name) ∈ ops → SingleLine name) :
    ∀ l ∈ ((start source).applyAll ops).console, SingleLine l := by
  induction ops using List.reverseRecOn with
  | nil => simp [applyAll, start]
  | append_singleton ops op ih =>
    rw [applyAll_concat, console_apply]
    split
    · simp
    · refine List.forall_mem_append.2 ⟨ih fun text name hm => ?_, ?_⟩
      · exact hops text name (List.mem_append_left _ hm)
      · refine singleLine_emitted (coherent_applyAll source ops) fun text name ho => ?_
        exact hops text name (by simp [ho])

/-- The transcript of single lines has just these lines. -/
theorem lines_transcript (hne : s.console ≠ []) (h : ∀ l ∈ s.console, SingleLine l) :
    (Text.lines s.transcript.toList).map String.ofList = s.console := by
  rw [Text.lines, transcript, Text.pieces_unlines hne h, List.map_map]
  simp

/-! ## The log -/

/-- **The console is a faithful log.** Whatever operations a session has seen, its console is what
those since it was cleared last have written, one after the other, each from the text, the progress
and the tokens that it met: every stage that ran its own lines, every stage that was refused its
message, a load the name of the file, and nothing for the rest. An operation only adds to the
console, unless it clears it. Where the names of files are single lines so is every line, and the
transcript is cut back into the console. -/
theorem console_applyAll (source : String) (ops : List Op) :
    let s := (start source).applyAll ops
    (∃ before after, SinceClear ops before after ∧
      s.console = ((start source).applyAll before).written after) ∧
    (∀ op, (s.apply op).1.console = if op = .clear then [] else s.console ++ s.emitted op) ∧
    ((∀ text name, .load text (some name) ∈ ops → SingleLine name) →
      (∀ l ∈ s.console, SingleLine l) ∧
      (s.console ≠ [] → (Text.lines s.transcript.toList).map String.ofList = s.console)) := by
  intro s
  refine ⟨?log, s.console_apply, ?lines⟩
  case log =>
    obtain ⟨before, after, h⟩ := exists_sinceClear ops
    refine ⟨before, after, h, ?_⟩
    have hs : s = ((start source).applyAll before).applyAll after := by
      show (start source).applyAll ops = _
      rw [h.split]
      exact List.foldl_append ..
    rw [hs, console_applyAll_of_not_mem h.kept, console_of_cleared h.cleared, List.nil_append]
  case lines =>
    intro hops
    have hl := singleLine_console source hops
    exact ⟨hl, fun hne => lines_transcript hne hl⟩

/-- A refused stage, a file with an error on its second line, and a run after clearing. -/
def logOps : List Op :=
  [.semantic, .clear, .load "int x;\n@ y" (some "a.mc"), .syntactic, .lexical, .reset]

theorem console_applyAll_sample :
    (∀ text name, .load text (some name) ∈ logOps → SingleLine name) ∧
    ((start "").applyAll logOps).console =
      ["Opened file: a.mc", "Syntax Error: Lexical analysis not completed or failed.",
        "--- Lexical Analysis ---", "Lexical Error (line 2): Unrecognized token near: '@'"] ∧
    (Text.lines ((start "").applyAll logOps).transcript.toList).map String.ofList =
      ((start "").applyAll logOps).console := by
  have hname : ∀ text name, .load text (some name) ∈ logOps → SingleLine name := by
    intro text name h
    simp only [logOps, List.mem_cons, List.not_mem_nil, or_false, reduceCtorEq, false_or,
      Op.load.injEq, Option.some.injEq] at h
    rw [h.2]
    decide
  have hc : ((start "").applyAll logOps).console =
      ["Opened file: a.mc", "Syntax Error: Lexical analysis not completed or failed.",
        "--- Lexical Analysis ---", "Lexical Error (line 2): Unrecognized token near: '@'"] := by
    decide +kernel
  refine ⟨hname, hc, ((console_applyAll "" logOps).2.2 hname).2 ?_⟩
  rw [hc]
  simp

end Session

end StagedAnalysis

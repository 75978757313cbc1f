import Mathlib.Data.List.Induction
import StagedAnalysis.Proofs.Session.Coherence

/-!
# The text behind the outcomes

A session keeps the outcomes of a text, but not that text: an assignment may have replaced it since.
`LastRead` names it by the history of the session, as the text at the last operation that read.

* `lastRead_of_lexical`: the lexical outcome is the one of the text that was last read.
* `Current.applyAll`: where nothing assigns, that text is still the one of the session.
* `applyAll_outcomes`: with coherence, every outcome belongs to the text last read.
-/

namespace StagedAnalysis.Session

/-- The operations that read the text. -/
def Op.reads : Op → Bool
  | .lexical | .runAll => true
  | _ => false

/-- The operation that puts a text in place and keeps the outcomes. -/
def Op.assigns : Op → Bool
  | .assignSource _ => true
  | _ => false

/-- `text` is what a session on `source` held at the last of the operations that read. -/
def LastRead (source : String) (ops : List Op) (text : String) : Prop :=
  ∃ before op after, ops = before ++ op :: after ∧ op.reads = true ∧
    (∀ p ∈ after, p.reads = false) ∧ text = ((start source).applyAll before).source

/-! ## The history of the lexical outcome -/

theorem lexical?_apply_of_reads (s : Session) {op : Op} (h : op.reads = true) :
    (s.apply op).1.lexical? = some (runLexical s.source) := by
  cases op with
  | lexical => rfl
  | runAll => exact s.runAll_lexical?
  | _ => cases h

/-- What does not read drops the lexical outcome or keeps it. -/
theorem lexical?_apply_of_not_reads (s : Session) {op : Op} (h : op.reads = false) :
    (s.apply op).1.lexical? = none ∨ (s.apply op).1.lexical? = s.lexical? := by
  cases op with
  | lexical | runAll => cases h
  | syntactic => exact .inr s.syntactic_lexical?
  | semantic => exact .inr s.semantic_lexical?
  | load source name? => exact .inl rfl
  | clear => exact .inl rfl
  | reset => exact .inl rfl
  | setSource source =>
    rcases s.setSource_cases source with ⟨-, he⟩ | ⟨hu, -⟩
    · exact .inr (congrArg Session.lexical? he)
    · exact .inl hu.2.2.1
  | assignSource source => exact .inr rfl
  | transcript => exact .inr rfl

theorem LastRead.concat {source text : String} {ops : List Op} {op : Op}
    (h : LastRead source ops text) (hop : op.reads = false) :
    LastRead source (ops ++ [op]) text := by
  obtain ⟨before, r, after, rfl, hr, ha, ht⟩ := h
  refine ⟨before, r, after ++ [op], by simp, hr, fun p hp => ?_, ht⟩
  rcases List.mem_append.1 hp with hp | hp
  · exact ha p hp
  · rw [List.mem_singleton.1 hp]
    exact hop

theorem lastRead_of_lexical {source : String} {ops : List Op} {o : LexicalOutcome}
    (h : ((start source).applyAll ops).lexical? = some o) :
    ∃ text, LastRead source ops text ∧ o = runLexical text := by
  -- from the end: only the last operation can have changed the outcome
  induction ops using List.reverseRecOn with
  | nil => cases h
  | append_singleton ops op ih =>
    rw [applyAll_concat] at h
    cases hop : op.reads with
    | true =>
      rw [lexical?_apply_of_reads _ hop] at h
      exact ⟨_, ⟨ops, op, [], rfl, hop, by simp, rfl⟩, (Option.some.inj h).symm⟩
    | false =>
      rcases lexical?_apply_of_not_reads ((start source).applyAll ops) hop with hn | hk
      · rw [hn] at h
        cases h
      · obtain ⟨text, hl, ho⟩ := ih (hk ▸ h)
        exact ⟨text, hl.concat hop, ho⟩

/-! ## Without assignments -/

/-- The lexical outcome is that of the present text. -/
def Current (s : Session) : Prop := ∀ o, s.lexical? = some o → o = runLexical s.source

theorem current_of_unread {s : Session} (h : s.Unread) : s.Current := by
  intro o ho
  rw [h.2.2.1] at ho
  cases ho

theorem current_of_reads (s : Session) {op : Op} (h : op.reads = true) :
    (s.apply op).1.Current := by
  intro o ho
  rw [lexical?_apply_of_reads s h, Option.some.injEq] at ho
  have hs : (s.apply op).1.source = s.source := by
    cases op with
    | lexical => rfl
    | runAll => exact s.runAll_source
    | _ => cases h
  rw [hs, ho]

/-- Only the text and the lexical outcome matter. -/
theorem Current.of_same {s s' : Session} (h : s.Current) (hs : s'.source = s.source)
    (hl : s'.lexical? = s.lexical?) : s'.Current := by
  intro o ho
  rw [hl] at ho
  rw [hs]
  exact h o ho

theorem Current.apply {s : Session} (h : s.Current) {op : Op} (hop : op.assigns = false) :
    (s.apply op).1.Current := by
  cases op with
  | lexical => exact current_of_reads s rfl
  | runAll => exact current_of_reads s rfl
  | syntactic => exact h.of_same s.syntactic_source s.syntactic_lexical?
  | semantic => exact h.of_same s.semantic_source s.semantic_lexical?
  | load source name? => exact current_of_unread (s.unread_load source name?)
  | clear => exact current_of_unread s.unread_clear
  | reset => exact current_of_unread s.unread_reset
  | setSource source =>
    show (s.setSource source).1.Current
    rcases s.setSource_cases source with ⟨-, he⟩ | ⟨hu, -⟩
    · rw [he]
      exact h
    · exact current_of_unread hu
  | assignSource source => cases hop
  | transcript => exact h

theorem Current.applyAll {s : Session} (h : s.Current) {ops : List Op}
    (hops : ∀ op ∈ ops, op.assigns = false) : (s.applyAll ops).Current := by
  induction ops generalizing s with
  | nil => exact h
  | cons op ops ih =>
    exact ih (h.apply (hops op List.mem_cons_self)) fun p hp => hops p (List.mem_cons_of_mem _ hp)

/-! ## No outcome is stale -/

/-- Whatever is done with a session, the outcomes it shows are those of the text it read last, and
progress tells which of them there are; without assignments that text is the present one. -/
theorem applyAll_outcomes (source : String) (ops : List Op) :
    let s := (start source).applyAll ops
    (s.lexical? = none →
      s.progress = .notStarted ∧ s.tokens = [] ∧ s.syntactic? = none ∧ s.semantic? = none) ∧
    (∀ o, s.lexical? = some o →
      s.tokens = o.tokens ∧ ∃ text, LastRead source ops text ∧ o = runLexical text) ∧
    (s.progress = .notStarted ↔ s.lexical? = none ∨ ∃ o, s.lexical? = some o ∧ o.ok = false) ∧
    (s.progress = .notStarted → s.syntactic? = none ∧ s.semantic? = none) ∧
    (∀ o, s.syntactic? = some o → o.findings = Structure.check s.tokens) ∧
    (s.progress = .syntaxPassed ↔ ∃ o, s.syntactic? = some o ∧ o.ok = true) ∧
    (∀ o, s.semantic? = some o →
      s.progress = .syntaxPassed ∧ o.analysis = Names.analyze s.tokens ∧
        o.messages = (Names.analyze s.tokens).findings.map Finding.message) ∧
    ((∀ op ∈ ops, op.assigns = false) → ∀ o, s.lexical? = some o → o = runLexical s.source) := by
  intro s
  have h : s.Coherent := coherent_applyAll source ops
  have hn : s.lexical? = none → s.progress = .notStarted := fun hl =>
    h.notStarted_iff.2 fun o ho => by rw [hl] at ho; cases ho
  refine ⟨?unread, ?read, ?notStarted, h.idle, ?checked, h.syntaxPassed_iff, ?analyzed, ?current⟩
  case unread => exact fun hl => ⟨hn hl, h.unread hl, h.idle (hn hl)⟩
  case read => exact fun o ho => ⟨(h.read o ho).1, lastRead_of_lexical ho⟩
  case notStarted =>
    refine ⟨fun hp => ?_, ?_⟩
    · cases hl : s.lexical? with
      | none => exact .inl rfl
      | some o => exact .inr ⟨o, rfl, h.notStarted_iff.1 hp o hl⟩
    · rintro (hl | ⟨o, hl, ho⟩)
      · exact hn hl
      · refine h.notStarted_iff.2 fun o' ho' => ?_
        rw [hl, Option.some.injEq] at ho'
        rw [← ho', ho]
  case checked =>
    intro o ho
    rw [h.checked o ho, checkStructure_findings]
  case analyzed =>
    intro o ho
    obtain ⟨hp, rfl⟩ := h.analyzed o ho
    exact ⟨hp, checkNames_analysis _ _, by rw [SemanticOutcome.messages, checkNames_analysis]⟩
  case current => exact (current_of_unread (unread_start source)).applyAll

end StagedAnalysis.Session

import StagedAnalysis.Session

/-!
# Coherence of a session

The fields of a session are set one by one, some by a stage and some by a reset. `Coherent` says how
they hang together: the outcomes present are those of the session's tokens, and progress tells
which of them there are. No part of it speaks of the text, which may be assigned at any time.

* `Coherent.apply`: every operation keeps it, a refused stage and a stage run again included
  (`Coherent.lexical`, `Coherent.syntactic`, `Coherent.semantic`, `coherent_of_unread`).
* `coherent_applyAll`: it holds of every session that operations lead to.
-/

namespace StagedAnalysis

/-! ## Outcomes and progress -/

theorem runLexical_progress (text : String) :
    (runLexical text).progress = .notStarted ∨ (runLexical text).progress = .lexPassed := by
  unfold runLexical
  split
  · exact .inl rfl
  · unfold Document.outcome
    split
    · exact .inl rfl
    · split
      · exact .inl rfl
      · exact .inr rfl

theorem LexicalOutcome.ok_iff {o : LexicalOutcome} : o.ok = true ↔ o.progress = .lexPassed := by
  simp [LexicalOutcome.ok]

/-- A reading that does not pass makes no progress. -/
theorem runLexical_notStarted_iff (text : String) :
    (runLexical text).progress = .notStarted ↔ (runLexical text).ok = false := by
  rw [← Bool.not_eq_true, LexicalOutcome.ok_iff]
  rcases runLexical_progress text with h | h <;> simp [h]

theorem checkStructure_progress (ts : List Token) :
    (checkStructure ts).progress =
      if (checkStructure ts).ok then .syntaxPassed else .lexPassed := by
  unfold checkStructure SyntacticOutcome.ok
  cases h : (Structure.check ts).isEmpty <;> simp [h]

theorem checkStructure_ne_notStarted (ts : List Token) :
    (checkStructure ts).progress ≠ .notStarted := by
  rw [checkStructure_progress]
  split <;> simp

theorem checkStructure_syntaxPassed_iff (ts : List Token) :
    (checkStructure ts).progress = .syntaxPassed ↔ (checkStructure ts).ok = true := by
  rw [checkStructure_progress]
  split <;> simp_all

@[simp] theorem checkStructure_findings (ts : List Token) :
    (checkStructure ts).findings = Structure.check ts := by
  unfold checkStructure
  dsimp only
  split <;> rfl

@[simp] theorem checkNames_analysis (p : Progress) (ts : List Token) :
    (checkNames p ts).analysis = Names.analyze ts := by
  unfold checkNames
  dsimp only
  split <;> rfl

namespace Session

variable {s : Session}

/-! ## What a stage does -/

theorem syntactic_of_notStarted (h : s.progress = .notStarted) :
    s.syntactic = (s.refuse .syntactic, none) := by
  simp [Session.syntactic, runSyntactic, Stage.require, Stage.admits, h, bind, Except.bind]

theorem syntactic_of_started (h : s.progress ≠ .notStarted) :
    s.syntactic =
      ({ (s.print (checkStructure s.tokens).console).record (checkStructure s.tokens).events with
          progress := (checkStructure s.tokens).progress
          syntactic? := some (checkStructure s.tokens)
          semantic? := none }, some (checkStructure s.tokens)) := by
  have ha : Stage.syntactic.admits s.progress = true := by
    cases hp : s.progress <;> simp_all [Stage.admits]
  simp only [Session.syntactic, runSyntactic, Stage.require, ha]
  rfl

theorem semantic_of_ne (h : s.progress ≠ .syntaxPassed) :
    s.semantic = (s.refuse .semantic, none) := by
  have ha : Stage.semantic.admits s.progress = false := by
    cases hp : s.progress <;> simp_all [Stage.admits]
  simp only [Session.semantic, runSemantic, Stage.require, ha]
  rfl

theorem semantic_of_syntaxPassed (h : s.progress = .syntaxPassed) :
    s.semantic =
      ({ (s.print (checkNames .syntaxPassed s.tokens).console).record
            (checkNames .syntaxPassed s.tokens).events with
          semantic? := some (checkNames .syntaxPassed s.tokens) },
        some (checkNames .syntaxPassed s.tokens)) := by
  simp only [Session.semantic, runSemantic, Stage.require, h]
  rfl

theorem lexical_progress (s : Session) :
    s.lexical.1.progress = .notStarted ∨ s.lexical.1.progress = .lexPassed :=
  runLexical_progress s.source

theorem syntactic_progress (h : s.progress ≠ .notStarted) :
    s.syntactic.1.progress = .lexPassed ∨ s.syntactic.1.progress = .syntaxPassed := by
  rw [syntactic_of_started h]
  show (checkStructure s.tokens).progress = _ ∨ (checkStructure s.tokens).progress = _
  rw [checkStructure_progress]
  split <;> simp

@[simp] theorem syntactic_source (s : Session) : s.syntactic.1.source = s.source := by
  by_cases h : s.progress = .notStarted
  · rw [syntactic_of_notStarted h]
    rfl
  · rw [syntactic_of_started h]
    rfl

@[simp] theorem syntactic_lexical? (s : Session) : s.syntactic.1.lexical? = s.lexical? := by
  by_cases h : s.progress = .notStarted
  · rw [syntactic_of_notStarted h]
    rfl
  · rw [syntactic_of_started h]
    rfl

@[simp] theorem semantic_source (s : Session) : s.semantic.1.source = s.source := by
  by_cases h : s.progress = .syntaxPassed
  · rw [semantic_of_syntaxPassed h]
    rfl
  · rw [semantic_of_ne h]
    rfl

@[simp] theorem semantic_lexical? (s : Session) : s.semantic.1.lexical? = s.lexical? := by
  by_cases h : s.progress = .syntaxPassed
  · rw [semantic_of_syntaxPassed h]
    rfl
  · rw [semantic_of_ne h]
    rfl

/-- A full run ends after the first stage that does not pass. -/
theorem runAll_cases (s : Session) :
    (s.lexical.1.progress = .notStarted ∧ s.runAll.1 = s.lexical.1) ∨
      (s.lexical.1.progress = .lexPassed ∧ s.lexical.1.syntactic.1.progress = .lexPassed ∧
        s.runAll.1 = s.lexical.1.syntactic.1) ∨
      (s.lexical.1.progress = .lexPassed ∧ s.lexical.1.syntactic.1.progress = .syntaxPassed ∧
        s.runAll.1 = s.lexical.1.syntactic.1.semantic.1) := by
  rcases s.lexical_progress with h1 | h1
  · exact .inl ⟨h1, by simp [runAll, h1]⟩
  · have hs : s.lexical.1.progress ≠ .notStarted := by simp [h1]
    rcases syntactic_progress hs with h2 | h2
    · exact .inr (.inl ⟨h1, h2, by simp [runAll, h1, h2]⟩)
    · exact .inr (.inr ⟨h1, h2, by simp [runAll, h1, h2]⟩)

@[simp] theorem runAll_source (s : Session) : s.runAll.1.source = s.source := by
  rcases s.runAll_cases with ⟨-, he⟩ | ⟨-, -, he⟩ | ⟨-, -, he⟩ <;> rw [he]
  · rfl
  · rw [syntactic_source]
    rfl
  · rw [semantic_source, syntactic_source]
    rfl

@[simp] theorem runAll_lexical? (s : Session) :
    s.runAll.1.lexical? = some (runLexical s.source) := by
  rcases s.runAll_cases with ⟨-, he⟩ | ⟨-, -, he⟩ | ⟨-, -, he⟩ <;> rw [he]
  · rfl
  · rw [syntactic_lexical?]
    rfl
  · rw [semantic_lexical?, syntactic_lexical?]
    rfl

/-! ## The invariant -/

/-- The outcomes present belong to the tokens, and progress says which are present. -/
structure Coherent (s : Session) : Prop where
  unread : s.lexical? = none → s.tokens = []
  read : ∀ o, s.lexical? = some o → s.tokens = o.tokens ∧ ∃ text, o = runLexical text
  notStarted_iff : s.progress = .notStarted ↔ ∀ o, s.lexical? = some o → o.ok = false
  idle : s.progress = .notStarted → s.syntactic? = none ∧ s.semantic? = none
  checked : ∀ o, s.syntactic? = some o → o = checkStructure s.tokens
  syntaxPassed_iff : s.progress = .syntaxPassed ↔ ∃ o, s.syntactic? = some o ∧ o.ok = true
  analyzed : ∀ o, s.semantic? = some o →
    s.progress = .syntaxPassed ∧ o = checkNames .syntaxPassed s.tokens

/-- A session without outcomes. -/
def Unread (s : Session) : Prop :=
  s.progress = .notStarted ∧ s.tokens = [] ∧ s.lexical? = none ∧ s.syntactic? = none ∧
    s.semantic? = none

theorem coherent_of_unread (h : s.Unread) : s.Coherent := by
  obtain ⟨hp, ht, hl, hs, hm⟩ := h
  constructor <;> simp [hp, ht, hl, hs, hm]

theorem unread_start (source : String) : (start source).Unread := ⟨rfl, rfl, rfl, rfl, rfl⟩

theorem unread_reset (s : Session) : s.reset.Unread := ⟨rfl, rfl, rfl, rfl, rfl⟩

theorem unread_load (s : Session) (source : String) (name? : Option String) :
    (s.load source name?).Unread := ⟨rfl, rfl, rfl, rfl, rfl⟩

theorem unread_clear (s : Session) : s.clear.Unread := ⟨rfl, rfl, rfl, rfl, rfl⟩

/-- The text changes and all outcomes go, or nothing changes. -/
theorem setSource_cases (s : Session) (source : String) :
    (source = s.source ∧ (s.setSource source).1 = s) ∨
      ((s.setSource source).1.Unread ∧ (s.setSource source).1.source = source) := by
  unfold setSource
  split
  · exact .inl ⟨‹_›, rfl⟩
  · exact .inr ⟨⟨rfl, rfl, rfl, rfl, rfl⟩, rfl⟩

namespace Coherent

/-- The text, the console and the log may be anything. -/
theorem of_same {s' : Session} (h : s.Coherent) (hp : s'.progress = s.progress)
    (ht : s'.tokens = s.tokens) (hl : s'.lexical? = s.lexical?)
    (hs : s'.syntactic? = s.syntactic?) (hm : s'.semantic? = s.semantic?) : s'.Coherent := by
  obtain ⟨h1, h2, h3, h4, h5, h6, h7⟩ := h
  constructor <;> simp only [hp, ht, hl, hs, hm] <;> assumption

theorem refuse (h : s.Coherent) (stage : Stage) : (s.refuse stage).Coherent :=
  h.of_same rfl rfl rfl rfl rfl

theorem assignSource (h : s.Coherent) (source : String) : (s.assignSource source).Coherent :=
  h.of_same rfl rfl rfl rfl rfl

theorem setSource (h : s.Coherent) (source : String) : (s.setSource source).1.Coherent := by
  rcases s.setSource_cases source with ⟨-, he⟩ | ⟨hu, -⟩
  · rw [he]
    exact h
  · exact coherent_of_unread hu

/-- Reading starts afresh, so nothing is asked of the session before. -/
theorem lexical (s : Session) : s.lexical.1.Coherent where
  unread h := by cases h
  read o h := by
    cases h
    exact ⟨rfl, s.source, rfl⟩
  notStarted_iff := by
    refine (runLexical_notStarted_iff s.source).trans ⟨fun h o ho => ?_, fun h => h _ rfl⟩
    cases ho
    exact h
  idle _ := ⟨rfl, rfl⟩
  checked o h := by cases h
  syntaxPassed_iff := by
    refine ⟨fun h => ?_, fun ⟨o, h, _⟩ => by cases h⟩
    have h' : (runLexical s.source).progress = .syntaxPassed := h
    rcases runLexical_progress s.source with hp | hp <;> rw [hp] at h' <;> cases h'
  analyzed o h := by cases h

theorem syntactic (h : s.Coherent) : s.syntactic.1.Coherent := by
  by_cases hp : s.progress = .notStarted
  · rw [syntactic_of_notStarted hp]
    exact h.refuse _
  · rw [syntactic_of_started hp]
    have hn := checkStructure_ne_notStarted s.tokens
    refine ⟨h.unread, h.read, ?notStarted_iff, fun hp' => absurd hp' hn, ?checked,
      ?syntaxPassed_iff, fun o ho => by cases ho⟩
    case notStarted_iff =>
      constructor
      · intro hp'
        exact absurd hp' hn
      · intro ho
        exact absurd (h.notStarted_iff.2 ho) hp
    case checked =>
      intro o ho
      cases ho
      rfl
    case syntaxPassed_iff =>
      refine (checkStructure_syntaxPassed_iff s.tokens).trans ⟨fun ho => ⟨_, rfl, ho⟩, ?_⟩
      rintro ⟨o, ho, hok⟩
      cases ho
      exact hok

theorem semantic (h : s.Coherent) : s.semantic.1.Coherent := by
  by_cases hp : s.progress = .syntaxPassed
  · rw [semantic_of_syntaxPassed hp]
    refine ⟨h.unread, h.read, h.notStarted_iff, ?_, h.checked, h.syntaxPassed_iff, ?_⟩
    · intro hn
      have hn : s.progress = .notStarted := hn
      rw [hp] at hn
      cases hn
    · intro o ho
      cases ho
      exact ⟨hp, rfl⟩
  · rw [semantic_of_ne hp]
    exact h.refuse _

theorem runAll (s : Session) : s.runAll.1.Coherent := by
  have h := lexical s
  rcases s.runAll_cases with ⟨-, he⟩ | ⟨-, -, he⟩ | ⟨-, -, he⟩ <;> rw [he]
  · exact h
  · exact h.syntactic
  · exact h.syntactic.semantic

/-- Every operation keeps coherence. -/
theorem apply (h : s.Coherent) (op : Op) : (s.apply op).1.Coherent := by
  cases op with
  | lexical => exact lexical s
  | syntactic => exact h.syntactic
  | semantic => exact h.semantic
  | runAll => exact runAll s
  | load source name? => exact coherent_of_unread (s.unread_load source name?)
  | setSource source => exact h.setSource source
  | assignSource source => exact h.assignSource source
  | clear => exact coherent_of_unread s.unread_clear
  | reset => exact coherent_of_unread s.unread_reset
  | transcript => exact h

end Coherent

/-! ## Runs -/

theorem applyAll_concat (s : Session) (ops : List Op) (op : Op) :
    s.applyAll (ops ++ [op]) = ((s.applyAll ops).apply op).1 := by
  simp [applyAll]

theorem Coherent.applyAll (h : s.Coherent) (ops : List Op) : (s.applyAll ops).Coherent := by
  induction ops generalizing s with
  | nil => exact h
  | cons op ops ih => exact ih (h.apply op)

theorem coherent_applyAll (source : String) (ops : List Op) :
    ((start source).applyAll ops).Coherent :=
  (coherent_of_unread (unread_start source)).applyAll ops

end Session

end StagedAnalysis

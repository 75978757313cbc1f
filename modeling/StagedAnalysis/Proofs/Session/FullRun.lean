import StagedAnalysis.Proofs.Outcome.Lexical
import StagedAnalysis.Proofs.Session.Coherence

/-!
# A full run forgets the past

Reading starts a session afresh, and the stages after it look at nothing but what reading and each
other have left. So a full run ends as that of a new session on the same text does, and what was
written before stays before it.

* `checked_map`: what the stages after reading have nothing to do with.
* `lexical_after`, `syntactic_after`, `semantic_after`: each stage on a session with a past.
* `runAll_after`: the full run with a past is the one of a new session.
* `stepwise_eq_runAll`: the stages one by one, as far as they are worth running, are the full run.
* `runAll_progress`, `runAll_console`: how far a full run comes and what it writes.
* `runAll_of_fresh`: the main statement.
-/

namespace StagedAnalysis

namespace Session

variable {s : Session}

/-! ## After reading -/

/-- The stages after reading, up to the first that does not pass. -/
def checked (s : Session) : Session :=
  let s := if s.progress = .lexPassed then s.syntactic.1 else s
  if s.progress = .syntaxPassed then s.semantic.1 else s

theorem runAll_eq_checked (s : Session) : s.runAll.1 = s.lexical.1.checked := rfl

/-- What these stages neither look at nor change may be changed before them or after them. -/
theorem checked_map (f : Session → Session) (hp : ∀ r, (f r).progress = r.progress)
    (hsyn : ∀ r, (f r).syntactic.1 = f r.syntactic.1)
    (hsem : ∀ r, (f r).semantic.1 = f r.semantic.1) (r : Session) :
    (f r).checked = f r.checked := by
  simp only [checked]
  rw [hp r, hsyn, ← apply_ite f, hp, hsem, ← apply_ite f]

/-! ## A session with a past -/

/-- The session, where `past` had written what it has written before. -/
def after (s past : Session) : Session :=
  { s with console := past.console ++ s.console, events := past.events ++ s.events }

/-- Reading keeps nothing but the text and what was written. -/
theorem lexical_after (s : Session) : s.lexical.1 = (start s.source).lexical.1.after s := rfl

theorem refuse_after (s past : Session) (stage : Stage) :
    (s.after past).refuse stage = (s.refuse stage).after past := by
  simp [after, refuse, print, record, List.append_assoc]

theorem syntactic_after (s past : Session) :
    (s.after past).syntactic.1 = s.syntactic.1.after past := by
  by_cases h : s.progress = .notStarted
  · have h' : (s.after past).progress = .notStarted := h
    rw [syntactic_of_notStarted h, syntactic_of_notStarted h']
    exact refuse_after s past _
  · have h' : (s.after past).progress ≠ .notStarted := h
    rw [syntactic_of_started h, syntactic_of_started h']
    simp [after, print, record, List.append_assoc]

theorem semantic_after (s past : Session) :
    (s.after past).semantic.1 = s.semantic.1.after past := by
  by_cases h : s.progress = .syntaxPassed
  · have h' : (s.after past).progress = .syntaxPassed := h
    rw [semantic_of_syntaxPassed h, semantic_of_syntaxPassed h']
    simp [after, print, record, List.append_assoc]
  · have h' : (s.after past).progress ≠ .syntaxPassed := h
    rw [semantic_of_ne h, semantic_of_ne h']
    exact refuse_after s past _

/-- A full run ends as that of a new session on the same text. -/
theorem runAll_after (s : Session) : s.runAll.1 = (start s.source).runAll.1.after s := by
  rw [runAll_eq_checked, runAll_eq_checked, lexical_after]
  exact checked_map (·.after s) (fun _ => rfl) (fun r => r.syntactic_after s)
    (fun r => r.semantic_after s) _

/-! ## One by one -/

/-- The stages in order, each one that is worth running when its turn comes. -/
def stepwise (s : Session) : Session :=
  let s := s.lexical.1
  let s := if s.canRun .syntactic then s.syntactic.1 else s
  if s.canRun .semantic then s.semantic.1 else s

theorem canRun_syntactic : s.canRun .syntactic = true ↔ s.progress = .lexPassed := by
  simp [canRun]

theorem canRun_semantic :
    s.canRun .semantic = true ↔ s.progress = .syntaxPassed ∧ s.semantic? = none := by
  simp [canRun]

theorem semantic?_syntactic (h : s.progress ≠ .notStarted) :
    s.syntactic.1.semantic? = none := by
  rw [syntactic_of_started h]

theorem stepwise_eq_runAll (s : Session) : s.stepwise = s.runAll.1 := by
  unfold stepwise
  rcases s.runAll_cases with ⟨h1, he⟩ | ⟨h1, h2, he⟩ | ⟨h1, h2, he⟩
  · simp [canRun_syntactic, canRun_semantic, h1, he]
  · simp [canRun_syntactic, canRun_semantic, h1, h2, he]
  · have hs := semantic?_syntactic (s := s.lexical.1) (by simp [h1])
    simp [canRun_syntactic, canRun_semantic, h1, h2, hs, he]

/-! ## What a full run shows -/

section
variable (s : Session)

theorem syntactic_lexical (h : s.lexical.1.progress = .lexPassed) :
    s.lexical.1.syntactic.1.progress = (checkStructure (runLexical s.source).tokens).progress ∧
    s.lexical.1.syntactic.1.tokens = (runLexical s.source).tokens ∧
    s.lexical.1.syntactic.1.console =
      s.console ++ (runLexical s.source).console ++
        (checkStructure (runLexical s.source).tokens).console := by
  have hp : s.lexical.1.progress ≠ .notStarted := by simp [h]
  rw [syntactic_of_started hp]
  exact ⟨rfl, rfl, rfl⟩

theorem runAll_progress :
    s.runAll.2 =
      if (runLexical s.source).ok then (checkStructure (runLexical s.source).tokens).progress
      else .notStarted := by
  have hp : s.lexical.1.progress = (runLexical s.source).progress := rfl
  show s.runAll.1.progress = _
  rcases s.runAll_cases with ⟨h1, he⟩ | ⟨h1, h2, he⟩ | ⟨h1, h2, he⟩
  · rw [he, h1, if_neg]
    rw [Bool.not_eq_true, ← runLexical_notStarted_iff, ← hp, h1]
  · rw [he, if_pos (LexicalOutcome.ok_iff.2 (hp ▸ h1)), (s.syntactic_lexical h1).1]
  · rw [he, if_pos (LexicalOutcome.ok_iff.2 (hp ▸ h1)), semantic_of_syntaxPassed h2]
    exact (s.syntactic_lexical h1).1

/-- The console has the lines of every stage that ran. -/
theorem runAll_console :
    s.runAll.1.console =
      s.console ++ (runLexical s.source).console ++
        (if s.runAll.2 ≠ .notStarted then (checkStructure (runLexical s.source).tokens).console
          else []) ++
        (if s.runAll.2 = .syntaxPassed then
          (checkNames .syntaxPassed (runLexical s.source).tokens).console else []) := by
  have hp : s.runAll.2 = s.runAll.1.progress := rfl
  rcases s.runAll_cases with ⟨h1, he⟩ | ⟨h1, h2, he⟩ | ⟨h1, h2, he⟩
  · rw [hp, he, h1]
    simp [Session.lexical, print, record, reset]
  · rw [hp, he, h2, (s.syntactic_lexical h1).2.2]
    simp
  · have hs : s.lexical.1.syntactic.1.semantic.1.progress = .syntaxPassed := by
      rw [semantic_of_syntaxPassed h2]
      exact h2
    rw [hp, he, hs, semantic_of_syntaxPassed h2]
    obtain ⟨-, ht, hc⟩ := s.syntactic_lexical h1
    simp [print, record, ht, hc]

/-! ## How far a full run comes -/

theorem runAll_notStarted_iff :
    s.runAll.2 = .notStarted ↔ FailsOnLine s.source ∨ (Document.ofText s.source).tokens = [] := by
  rw [runAll_progress, failsOnLine_iff]
  by_cases h : (runLexical s.source).ok = true
  · obtain ⟨hok, ht⟩ := runLexical_ok_iff.1 h
    simp [h, hok, ht, checkStructure_ne_notStarted]
  · have ht := fun hok ht => h (runLexical_ok_iff.2 ⟨hok, ht⟩)
    cases hok : (Document.ofText s.source).ok with
    | false => simp [h]
    | true => simpa [h] using ht hok

theorem runAll_syntaxPassed_iff :
    s.runAll.2 = .syntaxPassed ↔
      s.runAll.2 ≠ .notStarted ∧ Structure.check (Document.ofText s.source).tokens = [] := by
  rw [runAll_progress]
  by_cases h : (runLexical s.source).ok = true
  · rw [if_pos h, checkStructure_syntaxPassed_iff, runLexical_tokens h, SyntacticOutcome.ok]
    simp [checkStructure_ne_notStarted]
  · simp [h]

theorem runAll_lexPassed_iff :
    s.runAll.2 = .lexPassed ↔
      s.runAll.2 ≠ .notStarted ∧ Structure.check (Document.ofText s.source).tokens ≠ [] := by
  have hs := s.runAll_syntaxPassed_iff
  cases hp : s.runAll.2 <;> simp_all

end

/-- **A full run depends on the text alone.** Whatever has been done with a session, all stages run
on it leave what they leave of a new session on the same text, with the same answer, and write after
the lines that are there the lines that the new session has. It comes to the same to run the stages
one by one as far as each is worth running. How far they come can be told from the text. -/
theorem runAll_of_fresh (s : Session) :
    let fresh := (start s.source).runAll
    let tokens := (Document.ofText s.source).tokens
    (s.runAll.1.progress = fresh.1.progress ∧ s.runAll.1.tokens = fresh.1.tokens ∧
      s.runAll.1.lexical? = fresh.1.lexical? ∧ s.runAll.1.syntactic? = fresh.1.syntactic? ∧
      s.runAll.1.semantic? = fresh.1.semantic? ∧ s.runAll.2 = fresh.2 ∧
      s.runAll.1.console = s.console ++ fresh.1.console) ∧
    s.stepwise = s.runAll.1 ∧
    (s.runAll.2 = .notStarted ↔ FailsOnLine s.source ∨ tokens = []) ∧
    (s.runAll.2 = .lexPassed ↔
      ¬FailsOnLine s.source ∧ tokens ≠ [] ∧ Structure.check tokens ≠ []) ∧
    (s.runAll.2 = .syntaxPassed ↔
      ¬FailsOnLine s.source ∧ tokens ≠ [] ∧ Structure.check tokens = []) := by
  intro fresh tokens
  have ha : s.runAll.1 = fresh.1.after s := s.runAll_after
  have hp : s.runAll.2 = fresh.2 := by
    show s.runAll.1.progress = fresh.1.progress
    rw [ha]
    rfl
  refine ⟨?same, s.stepwise_eq_runAll, s.runAll_notStarted_iff, ?lexPassed, ?syntaxPassed⟩
  case same =>
    rw [ha]
    exact ⟨rfl, rfl, rfl, rfl, rfl, hp, rfl⟩
  case lexPassed =>
    rw [runAll_lexPassed_iff, ne_eq, runAll_notStarted_iff, not_or, and_assoc]
  case syntaxPassed =>
    rw [runAll_syntaxPassed_iff, ne_eq, runAll_notStarted_iff, not_or, and_assoc]

end Session

end StagedAnalysis

import StagedAnalysis.Proofs.Session.FullRun
import StagedAnalysis.Proofs.Session.LastRead

/-!
# Gates

Three gates stand before a stage: `canRun` says whether it is worth a call, a call refuses itself
where the stage is not admitted, and the stage that is run asks once more and errs. They look at the
progress, at the text and at the outcomes in different ways, and agree where nothing was assigned to
the text since it was read.

* `progress_of_canRun`, `canRun_unique`: at most one stage is next.
* `Coherent.canRun_none_iff`: when none is.
* `guarded_runSyntactic`, `guarded_runSemantic`: behind the gate of the call no stage errs.
* `syntactic_of_not_admits`, `semantic_of_not_admits`: what a refused call leaves.
* `Coherent.syntactic_again`: checking again costs the outcome of the names, and only for a while.
* `gates_applyAll`: the main statement.
-/

namespace StagedAnalysis.Session

variable {s : Session}

/-! ## The next stage -/

theorem canRun_lexical :
    s.canRun .lexical = true ↔ ¬Text.Blank s.source.toList ∧ s.progress = .notStarted := by
  simp [canRun]

/-- The one progress from which a stage is worth running. -/
def awaited : Stage → Progress
  | .lexical => .notStarted
  | .syntactic => .lexPassed
  | .semantic => .syntaxPassed

theorem awaited_injective : Function.Injective awaited := by
  intro a b h
  cases a <;> cases b <;> simp [awaited] at h ⊢

theorem progress_of_canRun {stage : Stage} (h : s.canRun stage = true) :
    s.progress = awaited stage := by
  cases stage with
  | lexical => exact (canRun_lexical.1 h).2
  | syntactic => exact canRun_syntactic.1 h
  | semantic => exact (canRun_semantic.1 h).1

theorem canRun_unique {a b : Stage} (ha : s.canRun a = true) (hb : s.canRun b = true) : a = b :=
  awaited_injective ((progress_of_canRun ha).symm.trans (progress_of_canRun hb))

/-- Blank text is never read with success. -/
theorem Coherent.notStarted_of_blank (h : s.Coherent) (hc : s.Current)
    (hb : Text.Blank s.source.toList) : s.progress = .notStarted := by
  refine h.notStarted_iff.2 fun o ho => ?_
  rw [hc o ho, ← Bool.not_eq_true, runLexical_ok_iff]
  exact fun hok => hok.2 (ok_and_tokens_eq_nil_iff.2 hb).2

/-- A stage is worth running until the names are analyzed, unless there is nothing to read. -/
theorem Coherent.canRun_none_iff (h : s.Coherent) (hc : s.Current) :
    (∀ a, s.canRun a = false) ↔
      Text.Blank s.source.toList ∨ ∃ o, s.semantic? = some o := by
  simp only [← Bool.not_eq_true]
  constructor
  · intro hn
    cases hp : s.progress with
    | notStarted =>
      refine .inl (Decidable.not_not.1 fun hb => ?_)
      exact hn .lexical (canRun_lexical.2 ⟨hb, hp⟩)
    | lexPassed => exact absurd (canRun_syntactic.2 hp) (hn .syntactic)
    | syntaxPassed =>
      cases ho : s.semantic? with
      | none => exact absurd (canRun_semantic.2 ⟨hp, ho⟩) (hn .semantic)
      | some o => exact .inr ⟨o, rfl⟩
  · rintro (hb | ⟨o, ho⟩) a ha
    · have hp := progress_of_canRun ha
      rw [h.notStarted_of_blank hc hb] at hp
      obtain rfl : .lexical = a := awaited_injective hp
      exact (canRun_lexical.1 ha).1 hb
    · have hp := progress_of_canRun ha
      rw [(h.analyzed o ho).1] at hp
      obtain rfl : .semantic = a := awaited_injective hp
      rw [(canRun_semantic.1 ha).2] at ho
      cases ho

/-! ## Calls -/

/-- A call of a stage: refused where the stage is not admitted, and else the stage is run, with
nothing around it to catch its error. -/
def guarded {α : Type} (s : Session) (stage : Stage)
    (run : Progress → List Token → Except StageOrderError α) (keep : Session → α → Session) :
    Except StageOrderError (Session × Option α) :=
  if stage.admits s.progress = false then return (s.refuse stage, none)
  else do
    let o ← run s.progress s.tokens
    return (keep s o, some o)

def keepSyntactic (s : Session) (o : SyntacticOutcome) : Session :=
  { (s.print o.console).record o.events with
    progress := o.progress, syntactic? := some o, semantic? := none }

def keepSemantic (s : Session) (o : SemanticOutcome) : Session :=
  { (s.print o.console).record o.events with semantic? := some o }

/-- The stage asks for nothing that the call has not asked for. -/
theorem guarded_runSyntactic (s : Session) :
    s.guarded .syntactic runSyntactic keepSyntactic = .ok s.syntactic := by
  by_cases h : Stage.syntactic.admits s.progress = true <;>
    simp [guarded, Session.syntactic, runSyntactic, Stage.require, keepSyntactic, h, bind,
      Except.bind, pure, Except.pure]

theorem guarded_runSemantic (s : Session) :
    s.guarded .semantic runSemantic keepSemantic = .ok s.semantic := by
  by_cases h : Stage.semantic.admits s.progress = true <;>
    simp [guarded, Session.semantic, runSemantic, Stage.require, keepSemantic, h, bind,
      Except.bind, pure, Except.pure]

theorem syntactic_of_not_admits (h : Stage.syntactic.admits s.progress = false) :
    s.syntactic = (s.refuse .syntactic, none) := by
  refine syntactic_of_notStarted ?_
  cases hp : s.progress <;> simp_all [Stage.admits]

theorem semantic_of_not_admits (h : Stage.semantic.admits s.progress = false) :
    s.semantic = (s.refuse .semantic, none) := by
  refine semantic_of_ne fun hp => ?_
  simp [hp, Stage.admits] at h

theorem exists_syntactic_of_canRun (h : s.canRun .syntactic = true) :
    ∃ o, s.syntactic.2 = some o := by
  have hp : s.progress ≠ .notStarted := by simp [canRun_syntactic.1 h]
  rw [syntactic_of_started hp]
  exact ⟨_, rfl⟩

theorem exists_semantic_of_canRun (h : s.canRun .semantic = true) :
    ∃ o, s.semantic.2 = some o := by
  rw [semantic_of_syntaxPassed (progress_of_canRun h)]
  exact ⟨_, rfl⟩

/-- What is worth reading has code in it. -/
theorem noCode_of_canRun (h : s.canRun .lexical = true) : s.lexical.2.noCode = false :=
  Bool.eq_false_iff.2 fun hn => (canRun_lexical.1 h).1 (noCode_runLexical_iff.1 hn)

/-! ## The check once more -/

/-- The tokens are the same, so the outcomes come out the same. -/
theorem Coherent.syntactic_again (h : s.Coherent) (hp : s.progress = .syntaxPassed) :
    ∃ o, s.syntactic? = some o ∧ s.syntactic.2 = some o ∧ s.syntactic.1.syntactic? = some o ∧
      s.syntactic.1.progress = .syntaxPassed ∧ s.syntactic.1.semantic? = none ∧
      ∃ m, s.syntactic.1.semantic.2 = some m ∧ s.syntactic.1.semantic.1.semantic? = some m ∧
        ∀ m', s.semantic? = some m' → m' = m := by
  obtain ⟨o, ho, hok⟩ := h.syntaxPassed_iff.1 hp
  obtain rfl := h.checked o ho
  have hs := syntactic_of_started (s := s) (by simp [hp])
  have hp' : s.syntactic.1.progress = .syntaxPassed := by
    rw [hs]
    exact (checkStructure_syntaxPassed_iff s.tokens).2 hok
  have ht : s.syntactic.1.tokens = s.tokens := by
    rw [hs]
    rfl
  refine ⟨_, ho, by rw [hs], by rw [hs], hp', by rw [hs], ?_⟩
  rw [semantic_of_syntaxPassed hp', ht]
  exact ⟨_, rfl, rfl, fun m hm => (h.analyzed m hm).2⟩

/-! ## Runs -/

/-- Without assignments the gates agree after any operations. At most one stage is worth running,
and none is only if the text is blank or its names are analyzed; a call of that stage is not
refused; a call never errs, and one that is refused leaves a line on the console and an event. -/
theorem gates_applyAll (source : String) (ops : List Op) (hops : ∀ op ∈ ops, op.assigns = false) :
    let s := (start source).applyAll ops
    (∀ a b, s.canRun a = true → s.canRun b = true → a = b) ∧
    ((∀ a, s.canRun a = false) ↔
      Text.trim s.source.toList = [] ∨ ∃ o, s.semantic? = some o) ∧
    (s.canRun .lexical = true → s.lexical.2.noCode = false) ∧
    (s.canRun .syntactic = true → ∃ o, s.syntactic.2 = some o) ∧
    (s.canRun .semantic = true → ∃ o, s.semantic.2 = some o) ∧
    s.guarded .syntactic runSyntactic keepSyntactic = .ok s.syntactic ∧
    s.guarded .semantic runSemantic keepSemantic = .ok s.semantic ∧
    (Stage.syntactic.admits s.progress = false →
      s.syntactic =
        ({ s with
            console := s.console ++ [gateMessage .syntactic]
            events := s.events ++ [.stageRefused .syntactic s.progress] }, none)) ∧
    (Stage.semantic.admits s.progress = false →
      s.semantic =
        ({ s with
            console := s.console ++ [gateMessage .semantic]
            events := s.events ++ [.stageRefused .semantic s.progress] }, none)) ∧
    (∀ stage, (Event.stageRefused stage s.progress).level = .info) ∧
    (s.progress = .syntaxPassed →
      ∃ o, s.syntactic? = some o ∧ s.syntactic.2 = some o ∧ s.syntactic.1.syntactic? = some o ∧
        s.syntactic.1.progress = .syntaxPassed ∧ s.syntactic.1.semantic? = none ∧
        ∃ m, s.syntactic.1.semantic.2 = some m ∧ s.syntactic.1.semantic.1.semantic? = some m ∧
          ∀ m', s.semantic? = some m' → m' = m) := by
  intro s
  have h : s.Coherent := coherent_applyAll source ops
  have hc : s.Current := (current_of_unread (unread_start source)).applyAll hops
  refine ⟨fun a b => canRun_unique, ?_, noCode_of_canRun, exists_syntactic_of_canRun,
    exists_semantic_of_canRun, guarded_runSyntactic s, guarded_runSemantic s,
    syntactic_of_not_admits, semantic_of_not_admits, fun _ => rfl, h.syntactic_again⟩
  rw [Text.trim_eq_nil_iff]
  exact h.canRun_none_iff hc

/-- A refused call, a full run, and the check once more. -/
def sampleOps : List Op := [.semantic, .setSource "int x = 1;", .runAll, .syntactic]

/-- The names are next, and after them there is nothing to run. -/
theorem gates_applyAll_sample :
    (∀ op ∈ sampleOps ++ [.semantic], op.assigns = false) ∧
      ((start "").applyAll sampleOps).console.head? =
        some "Semantic Error: Syntax analysis not completed or failed." ∧
      ((start "").applyAll sampleOps).canRun .semantic = true ∧
      (∃ o, ((start "").applyAll sampleOps).semantic.2 = some o) ∧
      ∀ a, ((start "").applyAll (sampleOps ++ [.semantic])).canRun a = false := by
  have hops : ∀ op ∈ sampleOps, op.assigns = false := by decide
  have hlast : ∀ op ∈ sampleOps ++ [.semantic], op.assigns = false := by decide
  obtain ⟨-, -, -, -, hrun, -⟩ := gates_applyAll "" sampleOps hops
  obtain ⟨-, hnone, -⟩ := gates_applyAll "" (sampleOps ++ [.semantic]) hlast
  have hcan : ((start "").applyAll sampleOps).canRun .semantic = true := by decide +kernel
  have hsome : ((start "").applyAll (sampleOps ++ [.semantic])).semantic?.isSome = true := by
    decide +kernel
  refine ⟨hlast, by decide +kernel, hcan, hrun hcan, ?_⟩
  exact hnone.2 (.inr (Option.isSome_iff_exists.1 hsome))

end StagedAnalysis.Session

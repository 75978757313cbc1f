import StagedAnalysis.Proofs.Session.Console
import StagedAnalysis.Proofs.Session.Refusals
import StagedAnalysis.Proofs.Workbench.Buttons

/-!
# Pressing a stage

What is enabled was told from the last view, and the text may have changed since: the button of a
stage acts on the text that arrives with it. Where that is the text of the view, the stage runs as
the view promised. Where it is another one, the analysis is back at its start when the stage is
called, so the first stage runs on the new text and the others are refused.

* `delivered`: the text that the buttons find; `session_sync_receiveAll`: the session that they
  find.
* `Session.Reports`, `stageLines`: the outcome of a stage on a text, and what it writes.
* `runStage_of_canRun`, `runStage_of_unread`: a stage whose turn it is, and one that is early.
* `runStage_of_same`, `runStage_lexical`, `runStage_of_other`: a stage on the text that arrives.
* `accepted_cases`: of the stages at most one acts in a step.
* `unrefused_runTyped`: steps without both an edit and a stage refuse nothing.
* `stageClick_of_runTyped`: the main statement.
-/

namespace StagedAnalysis

/-! ## Outcomes -/

/-- The outcome of a stage is there and is that of the text. -/
def Session.Reports (s : Session) (text : String) : Stage → Prop
  | .lexical => s.lexical? = some (runLexical text)
  | .syntactic => s.syntactic? = some (checkStructure (Document.ofText text).tokens)
  | .semantic => s.semantic? = some (checkNames .syntaxPassed (Document.ofText text).tokens)

/-- What a stage writes about a text. -/
def stageLines (text : String) : Stage → List String
  | .lexical => (runLexical text).console
  | .syntactic => (checkStructure (Document.ofText text).tokens).console
  | .semantic => (checkNames .syntaxPassed (Document.ofText text).tokens).console

namespace Workbench.State

variable {c : Config} {w : State} {stage : Stage}

theorem runStage_of_canRun (hs : w.session.Coherent) (hc : w.session.Current)
    (he : w.session.canRun stage = true) :
    (w.runStage stage).session.Reports w.session.source stage ∧
      (w.runStage stage).session.console =
        w.session.console ++ stageLines w.session.source stage := by
  have hp := Session.progress_of_canRun he
  cases stage with
  | lexical => exact ⟨rfl, rfl⟩
  | syntactic =>
    have hn : w.session.progress ≠ .notStarted := by simp [hp, Session.awaited]
    have hr : (w.runStage .syntactic).session = w.session.syntactic.1 := rfl
    rw [hr, Session.syntactic_of_started hn, Session.tokens_of_started hs hc hn]
    exact ⟨rfl, rfl⟩
  | semantic =>
    have hn : w.session.progress ≠ .notStarted := by simp [hp, Session.awaited]
    have hr : (w.runStage .semantic).session = w.session.semantic.1 := rfl
    rw [hr, Session.semantic_of_syntaxPassed hp, Session.tokens_of_started hs hc hn]
    exact ⟨rfl, rfl⟩

theorem runStage_of_unread (h : w.session.Unread) (hs : stage ≠ .lexical) :
    (w.runStage stage).session = w.session.refuse stage := by
  cases stage with
  | lexical => exact absurd rfl hs
  | syntactic => exact congrArg Prod.fst (Session.syntactic_of_notStarted h.1)
  | semantic => exact congrArg Prod.fst (Session.semantic_of_ne (by simp [h.1]))

/-! ## What arrives -/

/-- The text that the buttons find: what was put into the text area last, where there is one. -/
def delivered (c : Config) (w : State) (actions : List Action) : String :=
  if c.richEditor then w.code else (actions.filterMap Action.text?).getLastD w.editor

theorem session_sync_receiveAll (w : State) (actions : List Action) :
    ((w.receiveAll actions).sync c).session =
      (w.session.setSource (w.delivered c actions)).1 ∧
    ((w.receiveAll actions).sync c).code = w.delivered c actions := by
  unfold sync delivered
  rw [session_receiveAll, code_receiveAll, editor_receiveAll]
  exact ⟨rfl, rfl⟩

theorem delivered_of_no_edit (h : Settled c w) {actions : List Action}
    (ha : actions.filterMap Action.text? = []) : w.delivered c actions = w.code := by
  unfold delivered
  rw [ha]
  cases hr : c.richEditor with
  | true => rfl
  | false => exact h.editor hr

/-- The same text changes nothing. -/
theorem session_sync_of_delivered (h : Settled c w) {actions : List Action}
    (ha : w.delivered c actions = w.code) :
    ((w.receiveAll actions).sync c).session = w.session := by
  rw [(session_sync_receiveAll w actions).1, ha, Session.setSource, if_pos h.source.symm]

/-! ## A stage on what arrives -/

/-- On the text of the view the stage runs as the view has promised. -/
theorem runStage_of_same (hw : Settled c w) (hs : w.session.Coherent) (hc : w.session.Current)
    {actions : List Action} (he : w.session.canRun stage = true)
    (hsame : w.delivered c actions = w.code) :
    (((w.receiveAll actions).sync c).runStage stage).session.Reports w.code stage ∧
      (((w.receiveAll actions).sync c).runStage stage).session.console =
        w.session.console ++ stageLines w.code stage := by
  have hu := session_sync_of_delivered hw hsame
  have he' : ((w.receiveAll actions).sync c).session.canRun stage = true := by rwa [hu]
  have hrun := runStage_of_canRun (hu ▸ hs) (hu ▸ hc) he'
  rwa [hu, hw.source] at hrun

/-- The first stage runs on whatever arrives. -/
theorem runStage_lexical (w : State) (actions : List Action) :
    (((w.receiveAll actions).sync c).runStage .lexical).session.Reports (w.delivered c actions)
        .lexical ∧
      (((w.receiveAll actions).sync c).runStage .lexical).session.console =
        w.session.console ++ stageLines (w.delivered c actions) .lexical := by
  obtain ⟨hs, -⟩ := session_sync_receiveAll (c := c) w actions
  have hsource : ((w.receiveAll actions).sync c).session.source = w.delivered c actions := by
    rw [hs, Session.source_setSource]
  have hconsole : ((w.receiveAll actions).sync c).session.console = w.session.console := by
    rw [hs, Session.console_setSource]
  rw [← hsource, ← hconsole]
  exact ⟨rfl, rfl⟩

/-- On another text a stage after the first is called too early. -/
theorem runStage_of_other (hw : Settled c w) {actions : List Action}
    (hother : w.delivered c actions ≠ w.code) (hlater : stage ≠ .lexical) :
    (((w.receiveAll actions).sync c).runStage stage).session.console =
        w.session.console ++ [Session.gateMessage stage] ∧
      (((w.receiveAll actions).sync c).runStage stage).session.Unread := by
  have hu := (session_sync_receiveAll (c := c) w actions).1
  have hunread : ((w.receiveAll actions).sync c).session.Unread := by
    rw [hu]
    rcases w.session.setSource_cases (w.delivered c actions) with ⟨he, -⟩ | ⟨hn, -⟩
    · exact absurd (he.trans hw.source) hother
    · exact hn
  rw [runStage_of_unread hunread hlater]
  refine ⟨?_, hunread⟩
  rw [← Session.console_setSource w.session (w.delivered c actions), ← hu]
  rfl

/-! ## The buttons of a step -/

/-- Of the stages at most one acts, and then clearing may follow. -/
theorem accepted_cases (w : State) (actions : List Action) :
    ∃ bs, (bs = [] ∨ bs = [.clear]) ∧
      (w.accepted actions = bs ∨ ∃ stage, .stage stage ∈ presses actions ∧
        w.session.canRun stage = true ∧ w.accepted actions = .stage stage :: bs) := by
  let acts (b : Button) : Bool := (presses actions).contains b && w.enables b
  have hall : w.accepted actions =
      (Stage.all.map Button.stage).filter acts ++ [Button.clear].filter acts :=
    List.filter_append ..
  refine ⟨[Button.clear].filter acts, ?clear, ?stages⟩
  case clear =>
    rw [List.filter_singleton]
    cases acts .clear
    · exact .inl rfl
    · exact .inr rfl
  case stages =>
    have hstage : ∀ b ∈ (Stage.all.map Button.stage).filter acts, ∃ stage,
        b = .stage stage ∧ .stage stage ∈ presses actions ∧ w.session.canRun stage = true := by
      intro b hb
      obtain ⟨hb, ha⟩ := List.mem_filter.1 hb
      obtain ⟨stage, -, rfl⟩ := List.mem_map.1 hb
      simp only [acts, Bool.and_eq_true, List.contains_iff_mem] at ha
      exact ⟨stage, rfl, ha.1, ha.2⟩
    have hnodup : ((Stage.all.map Button.stage).filter acts).Nodup :=
      List.Nodup.filter _ (by decide)
    cases hs : (Stage.all.map Button.stage).filter acts with
    | nil => exact .inl (by rw [hall, hs, List.nil_append])
    | cons b bs =>
      rw [hs] at hstage hnodup
      obtain ⟨stage, rfl, hp, hc⟩ := hstage b List.mem_cons_self
      -- No two stages have their turn at once, and none is in the row twice.
      have hbs : bs = [] := by
        refine List.eq_nil_iff_forall_not_mem.2 fun b' hb' => ?_
        obtain ⟨stage', rfl, -, hc'⟩ := hstage b' (List.mem_cons_of_mem _ hb')
        rw [Session.canRun_unique hc' hc] at hb'
        exact (List.nodup_cons.1 hnodup).1 hb'
      exact .inr ⟨stage, hp, hc, by rw [hall, hs, hbs]; rfl⟩

/-- Without an edit, or without a stage, the buttons call no stage too early. -/
theorem unrefused_acts (hw : Settled c w) (h : w.session.Unrefused) {actions : List Action}
    (ha : actions.filterMap Action.text? = [] ∨ ∀ stage, .stage stage ∉ presses actions) :
    ((w.accepted actions).foldl (act c) (w.receiveAll actions)).session.Unrefused := by
  obtain ⟨bs, hbs, hacc⟩ := accepted_cases w actions
  have hclear : ∀ v : State, v.session.Unrefused → (bs.foldl (act c) v).session.Unrefused := by
    intro v hv
    rcases hbs with rfl | rfl
    · exact hv
    · exact hv.clear
  rcases hacc with heq | ⟨stage, hmem, he, heq⟩
  · rw [heq]
    exact hclear _ (session_receiveAll w actions ▸ h)
  · rw [heq, List.foldl_cons]
    refine hclear _ ?_
    have hs : ((w.receiveAll actions).sync c).session = w.session :=
      session_sync_of_delivered hw (delivered_of_no_edit hw (ha.resolve_right fun hn => hn _ hmem))
    have hp := Session.progress_of_canRun he
    rw [← hs] at hp
    have hv : ((w.receiveAll actions).sync c).session.Unrefused := hs.symm ▸ h
    cases stage with
    | lexical => exact hv.lexical
    | syntactic => exact hv.syntactic (by simp [hp, Session.awaited])
    | semantic => exact hv.semantic hp

theorem unrefused_refresh (h : w.session.Unrefused) (typed? : Option Typed) :
    (w.refresh c typed?).session.Unrefused := by
  have hu : (w.takeUpload c).session.Unrefused := by
    unfold takeUpload
    split
    · exact h
    · split
      · exact h
      · exact h.load _ _
  have hs : ((w.takeUpload c).takeSample c).session.Unrefused := by
    unfold takeSample
    split
    · exact hu
    · split
      · exact hu
      · exact hu.load _ _
  unfold refresh sync
  dsimp only
  rw [session_takeTyped]
  exact hs.setSource _

/-! ## After every run -/

/-- A step whose one button is that of a stage that the view has enabled, and that opens nothing. -/
structure PressesStage (w : State) (actions : List Action) (stage : Stage) : Prop where
  pressed : presses actions = [.stage stage]
  enabled : w.enables (.stage stage) = true
  noUpload : ∀ u, .upload u ∉ actions
  sameSample : ∀ x, .choose x ∈ actions → x = w.chosen?

theorem consoleSince_append (old new : List String) :
    consoleSince old.length (old ++ new) = new := by
  rw [consoleSince, if_neg (by simp), List.drop_left]

section
variable {first? : Option Typed} {steps : List (List Action × Option Typed)}

theorem unrefused_runTyped (h : runTyped c first? steps = .ok w)
    (hsteps : ∀ s ∈ steps,
      s.1.filterMap Action.text? = [] ∨ ∀ stage, .stage stage ∉ presses s.1) :
    w.session.Unrefused := by
  have hkept : Settled c w ∧ w.session.Unrefused := by
    refine of_runTyped_step (P := fun w => Settled c w ∧ w.session.Unrefused) ?start ?step h
    case start =>
      exact ⟨settled_sync c _, unrefused_refresh (Session.unrefused_start snippet) first?⟩
    case step =>
      intro s hs v v' hv hstep
      obtain ⟨-, rfl⟩ := step_eq_ok_iff.1 hstep
      exact ⟨settled_sync c _, unrefused_refresh (unrefused_acts hv.1 hv.2 (hsteps s hs)) s.2⟩
  exact hkept.2

/-- **Stages run on the text that arrives with them.** After every run, let a step press a stage
that the view has enabled, and open nothing. On the text of the view the stage runs: its outcome is
there and is that of the text that is shown, and its lines come below those of the console. If the
text area brings another text, this text is shown next. The first stage has then run on it; any
other stage is refused with its one message below the console, and there are no outcomes. So where
no step both edits and presses a stage, none is ever refused. Text that is typed into the rich
editor comes after the buttons have acted, and is none of this. -/
theorem stageClick_of_runTyped (h : runTyped c first? steps = .ok w) :
    (∀ actions stage, w.PressesStage actions stage →
      ∃ w', w.step c actions none = .ok w' ∧
        let text := w.delivered c actions
        let v := view c w.session.console.length w'
        v.code = text ∧ v.source = text ∧
        (text = w.code →
          w'.session.Reports v.code stage ∧
          w'.session.console = w.session.console ++ stageLines v.code stage ∧
          v.consoleNew = stageLines v.code stage) ∧
        (text ≠ w.code → stage = .lexical →
          w'.session.Reports text .lexical ∧
          w'.session.console = w.session.console ++ stageLines text .lexical ∧
          v.tabs = tabsOf text (· == .lexical) w'.showTokens w'.showSymbols) ∧
        (text ≠ w.code → stage ≠ .lexical →
          w'.session.console = w.session.console ++ [Session.gateMessage stage] ∧
          v.consoleNew = [Session.gateMessage stage] ∧ v.progress = .notStarted ∧
          w'.session.lexical? = none ∧ w'.session.syntactic? = none ∧
          w'.session.semantic? = none)) ∧
    ((∀ s ∈ steps, s.1.filterMap Action.text? = [] ∨ ∀ stage, .stage stage ∉ presses s.1) →
      w.session.Unrefused) := by
  have hw := steady_runTyped h
  have hf := follows_runTyped h
  have hs := hf.coherent (Session.coherent_of_unread (Session.unread_start snippet))
  have hc := hf.current (Session.current_of_unread (Session.unread_start snippet))
  refine ⟨fun actions stage ha => ?_, unrefused_runTyped h⟩
  let w' := ((w.receiveAll actions).sync c).runStage stage
  have hcode : w'.code = w.delivered c actions := (session_sync_receiveAll w actions).2
  have hsource : w'.session.source = w.delivered c actions :=
    (((hw.sync_receiveAll ha.noUpload ha.sameSample).runStage stage).source).trans hcode
  have hnew {lines : List String} (hl : w'.session.console = w.session.console ++ lines) :
      consoleSince w.session.console.length w'.session.console = lines := by
    rw [hl, consoleSince_append]
  -- Nothing is left to load, so the step ends where the press has led.
  refine ⟨_, hw.step_stage ha.pressed ha.enabled ha.noUpload ha.sameSample, hcode, hsource,
    fun hsame => ?same, fun hother hlexical => ?lexical, fun hother hlater => ?later⟩
  case same =>
    obtain ⟨hreports, hlines⟩ := runStage_of_same hw.toSettled hs hc ha.enabled hsame
    rw [← hsame, ← hcode] at hreports hlines
    exact ⟨hreports, hlines, hnew hlines⟩
  case lexical =>
    subst hlexical
    obtain ⟨hreports, hlines⟩ := runStage_lexical (c := c) w actions
    exact ⟨hreports, hlines, tabs_congr hreports rfl rfl rfl rfl⟩
  case later =>
    obtain ⟨hline, hunread⟩ := runStage_of_other hw.toSettled hother hlater
    exact ⟨hline, hnew hline, hunread.1, hunread.2.2⟩

/-- A sample has been read, so the check is enabled; with a new text it is refused. -/
theorem stageClick_of_runTyped_sample :
    ∃ w w', runTyped sampleConfig none
        [([.choose "a.mc"], none), ([.press (.stage .lexical)], none)] = .ok w ∧
      w.session.Unrefused ∧
      w.PressesStage [.edit "x = 1;", .press (.stage .syntactic), .removeUpload] .syntactic ∧
      w.step sampleConfig [.edit "x = 1;", .press (.stage .syntactic), .removeUpload] none =
        .ok w' ∧
      w'.session.source = "x = 1;" ∧ w'.session.progress = .notStarted ∧
      (view sampleConfig w.session.console.length w').consoleNew =
        ["Syntax Error: Lexical analysis not completed or failed."] := by
  have hrun : (runTyped sampleConfig none
      [([.choose "a.mc"], none), ([.press (.stage .lexical)], none)]).map
        (fun w => (w.code, w.enables (.stage .syntactic))) = .ok ("int y = 2;", true) := by
    decide +kernel
  obtain ⟨w, hw, hview⟩ := exists_of_map_eq_ok hrun
  simp only [Prod.mk.injEq] at hview
  obtain ⟨hclicks, hfine⟩ := stageClick_of_runTyped hw
  have ha : w.PressesStage [.edit "x = 1;", .press (.stage .syntactic), .removeUpload]
      .syntactic := ⟨rfl, hview.2, by simp, by simp⟩
  obtain ⟨w', hw', -, hsource, -, -, hlater⟩ := hclicks _ _ ha
  have hother : "x = 1;" ≠ w.code := by
    rw [hview.1]
    decide
  obtain ⟨-, hnew, hprogress, -⟩ := hlater hother (by decide)
  refine ⟨w, w', hw, hfine ?_, ha, hw', hsource, hprogress, hnew⟩
  simp [Action.text?]

end

end Workbench.State

end StagedAnalysis

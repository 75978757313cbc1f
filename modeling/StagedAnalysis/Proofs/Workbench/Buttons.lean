import StagedAnalysis.Proofs.Session.FullRun
import StagedAnalysis.Proofs.Workbench.Steady

/-!
# Going through the stages by their buttons

Once a file has been opened, and as long as nothing is edited or typed, a step does what its button
says and nothing else: the text is the same in all places, and what there was to load has been
loaded.

* `Steady.step_stage`, `Steady.step_press`: a button that is enabled runs its stage.
* `Steady.clickStages`: the buttons one after the other run the stages one by one.
-/

namespace StagedAnalysis.Workbench.State

/-! ## Runs by buttons -/

/-- Presses the button of a stage in a step of its own, if it is enabled. -/
def pressIfEnabled (c : Config) (w : State) (stage : Stage) : Except Upload.BadName State :=
  if w.enables (.stage stage) then w.step c [.press (.stage stage)] none else .ok w

/-- Presses the first button, and then the others in order as far as they are enabled. -/
def clickStages (c : Config) (w : State) : Except Upload.BadName State := do
  let w ← w.step c [.press (.stage .lexical)] none
  let w ← w.pressIfEnabled c .syntactic
  w.pressIfEnabled c .semantic

/-- A new workbench where a file is opened in one step, and then the buttons are pressed. -/
def clickThrough (c : Config) (opening : Action) : Except Upload.BadName State := do
  let w ← (start c none).step c [opening] none
  w.clickStages c

theorem accepted_of_presses {w : State} {actions : List Action} {b : Button}
    (hp : presses actions = [b]) (he : w.enables b = true) : w.accepted actions = [b] := by
  cases b with
  | clear => simp [accepted, hp, Button.all, Stage.all, he]
  | stage stage => cases stage <;> simp [accepted, hp, Button.all, Stage.all, he]

namespace Steady

variable {c : Config} {w : State} (h : Steady c w)
include h

/-- A button that is enabled runs its stage on the text that has arrived with it. -/
theorem step_stage {actions : List Action} {stage : Stage}
    (hp : presses actions = [.stage stage]) (he : w.enables (.stage stage) = true)
    (hu : ∀ u, .upload u ∉ actions) (hc : ∀ x, .choose x ∈ actions → x = w.chosen?) :
    w.step c actions none =
      .ok { ((w.receiveAll actions).sync c).runStage stage with
        caption := (((w.receiveAll actions).sync c).runStage stage).session.progress } := by
  have hv := h.sync_receiveAll hu hc
  have hr := hv.runStage stage
  refine step_eq_of_steady hv.named ?_ hr (loses_none _)
  rw [accepted_of_presses hp he, List.foldl_cons, List.foldl_nil, act, hr.takeUpload,
    hr.takeSample]

/-- Where nothing else arrives, nothing else happens. -/
theorem step_press {stage : Stage} (he : w.enables (.stage stage) = true) :
    w.step c [.press (.stage stage)] none =
      .ok { w.runStage stage with caption := (w.runStage stage).session.progress } := by
  have hw : (w.receiveAll [.press (.stage stage)]).sync c = w := h.sync
  rw [h.step_stage rfl he (by simp) (by simp), hw]

theorem exists_press {stage : Stage} (he : w.enables (.stage stage) = true) :
    ∃ w', w.step c [.press (.stage stage)] none = .ok w' ∧ Steady c w' ∧
      w'.session = (w.runStage stage).session :=
  ⟨_, h.step_press he, (h.runStage stage).withCaption _, rfl⟩

theorem exists_pressIfEnabled (stage : Stage) :
    ∃ w', w.pressIfEnabled c stage = .ok w' ∧ Steady c w' ∧
      w'.session = if w.session.canRun stage then (w.runStage stage).session else w.session := by
  unfold pressIfEnabled
  by_cases he : w.enables (.stage stage) = true
  · obtain ⟨w', hs, hw, hw'⟩ := h.exists_press he
    have hr : w.session.canRun stage = true := he
    exact ⟨w', by rw [if_pos he, hs], hw, by rw [if_pos hr, hw']⟩
  · have hr : ¬w.session.canRun stage = true := he
    exact ⟨w, by rw [if_neg he], h, by rw [if_neg hr]⟩

/-- The buttons in order run the stages one by one. -/
theorem clickStages (hr : w.session.canRun .lexical = true) :
    ∃ w', w.clickStages c = .ok w' ∧ w'.session = w.session.stepwise := by
  have he : w.enables (.stage .lexical) = true := hr
  obtain ⟨w1, hs1, h1, hw1⟩ := h.exists_press he
  obtain ⟨w2, hs2, h2, hw2⟩ := h1.exists_pressIfEnabled .syntactic
  obtain ⟨w3, hs3, -, hw3⟩ := h2.exists_pressIfEnabled .semantic
  refine ⟨w3, ?_, ?_⟩
  · rw [State.clickStages, hs1]
    show w1.pressIfEnabled c .syntactic >>= _ = _
    rw [hs2]
    exact hs3
  · simp only [State.runStage] at hw1 hw2 hw3
    rw [hw3, hw2, hw1]
    rfl

end Steady

end StagedAnalysis.Workbench.State

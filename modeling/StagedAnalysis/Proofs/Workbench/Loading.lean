import StagedAnalysis.Proofs.Workbench.Steady

/-!
# Opening files

A step that does no more than bring an upload, or choose a sample, loads it unless the mark of what
was loaded last tells that it has been loaded already; then the step leaves the text alone. What is
loaded takes the place of anything that is typed meanwhile.

* `HoldsText`: one text stands in all places.
* `Steady.step_upload`, `Steady.step_upload_again`: an upload by the mark of the last one.
* `Steady.step_choose`, `Steady.step_choose_again`: a sample by the mark of the last one.
-/

namespace StagedAnalysis.Workbench.State

/-- The text is what the session, the workbench and its editor hold. -/
structure HoldsText (w : State) (text : String) : Prop where
  source : w.session.source = text
  code : w.code = text
  editor : w.editor = text

/-- The text is what it was, and so is all that the session has found out about it. -/
structure KeepsText (w w' : State) : Prop where
  session : w'.session = w.session
  code : w'.code = w.code
  editor : w'.editor = w.editor

variable {c : Config} {w : State} {typed? : Option Typed}

theorem steady_loadFile (w : State) (name text : String)
    (hu : ∀ u, w.upload? = some u → w.loadedUpload? = some u.signature)
    (hs : ∀ s, w.chosen?.bind c.sample? = some s → w.loadedSample? = some s.name)
    (hn : w.badName? = none) : Steady c (w.loadFile name text) where
  source := rfl
  editor _ := rfl
  upload := by simpa using hu
  sample := by simpa using hs
  named := by simpa [badName?] using hn

theorem name_of_sample? {name : String} {s : Sample} (h : c.sample? name = some s) :
    s.name = name := by
  have hn := List.find?_some h
  simpa using hn

theorem accepted_of_not_press {actions : List Action} (h : presses actions = []) :
    w.accepted actions = [] := by
  simp [accepted, h]

namespace Steady

variable (h : Steady c w)
include h

/-! ## Uploads -/

theorem step_upload {u : Upload} (hn : u.badName? = none)
    (hl : w.loadedUpload? ≠ some u.signature) (ht : w.Offers typed?) :
    ∃ w', w.step c [.upload u] typed? = .ok w' ∧ Steady c w' ∧
      w'.HoldsText (u.text c.codecs c.encoding) ∧
      w'.session = w.session.load (u.text c.codecs c.encoding) (some u.name) := by
  let v : State := { w with upload? := some u, loadedUpload? := some u.signature }
  have hu : (w.receiveAll [.upload u]).takeUpload c =
      v.loadFile u.name (u.text c.codecs c.encoding) := if_neg hl
  have hv : Steady c (v.loadFile u.name (u.text c.codecs c.encoding)) :=
    steady_loadFile v u.name _ (fun _ hu' => congrArg (Option.map Upload.signature) hu') h.sample hn
  refine ⟨_, step_eq_of_steady hn ?_ hv (ht.loses rfl), hv.withCaption _, ⟨rfl, rfl, rfl⟩, rfl⟩
  rw [accepted_of_not_press rfl, List.foldl_nil, hu, hv.takeSample]

/-- The upload counts as the one that was loaded last. -/
theorem step_upload_again {u : Upload} (hn : u.badName? = none)
    (hl : w.loadedUpload? = some u.signature) :
    ∃ w', w.step c [.upload u] none = .ok w' ∧ w.KeepsText w' := by
  have hv : Steady c { w with upload? := some u } := by
    refine ⟨⟨h.source, h.editor⟩, fun u' hu' => ?_, h.sample, hn⟩
    exact hl.trans (congrArg (Option.map Upload.signature) hu')
  refine ⟨_, step_eq_of_steady hn ?_ hv (loses_none _), ⟨rfl, rfl, rfl⟩⟩
  rw [accepted_of_not_press rfl, List.foldl_nil]
  exact (congrArg (State.takeSample c) hv.takeUpload).trans hv.takeSample

/-! ## Samples -/

theorem step_choose {name : String} {s : Sample} (hs : c.sample? name = some s)
    (hl : w.loadedSample? ≠ some name) (ht : w.Offers typed?) :
    ∃ w', w.step c [.choose (some name)] typed? = .ok w' ∧ Steady c w' ∧ w'.HoldsText s.text ∧
      w'.session = w.session.load s.text (some name) := by
  obtain rfl := name_of_sample? hs
  let v : State := { w with chosen? := some s.name, loadedSample? := some s.name }
  have hu : (w.receiveAll [.choose (some s.name)]).takeUpload c =
      { w with chosen? := some s.name } := by
    show ({ w with chosen? := some s.name } : State).takeUpload c = _
    exact takeUpload_eq_self c h.upload
  have hc : ({ w with chosen? := some s.name } : State).takeSample c =
      v.loadFile s.name s.text := by
    unfold State.takeSample
    rw [Option.bind_some, hs]
    exact if_neg hl
  have hv : Steady c (v.loadFile s.name s.text) := by
    refine steady_loadFile v s.name s.text h.upload (fun s' hs' => ?_) h.named
    obtain rfl : s = s' := Option.some.inj (hs.symm.trans hs')
    rfl
  refine ⟨_, step_eq_of_steady h.named ?_ hv (ht.loses rfl), hv.withCaption _,
    ⟨rfl, rfl, rfl⟩, rfl⟩
  rw [accepted_of_not_press rfl, List.foldl_nil, hu, hc]

/-- The sample counts as the one that was loaded last. -/
theorem step_choose_again {name : String} (hl : w.loadedSample? = some name) :
    ∃ w', w.step c [.choose (some name)] none = .ok w' ∧ w.KeepsText w' := by
  have hv : Steady c { w with chosen? := some name } := by
    refine ⟨⟨h.source, h.editor⟩, h.upload, fun s' hs' => ?_, h.named⟩
    rw [name_of_sample? hs']
    exact hl
  refine ⟨_, step_eq_of_steady h.named ?_ hv (loses_none _), ⟨rfl, rfl, rfl⟩⟩
  rw [accepted_of_not_press rfl, List.foldl_nil]
  exact (congrArg (State.takeSample c) hv.takeUpload).trans hv.takeSample

end Steady

end StagedAnalysis.Workbench.State

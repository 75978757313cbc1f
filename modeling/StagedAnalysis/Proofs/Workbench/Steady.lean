import StagedAnalysis.Proofs.Workbench.OwnText

/-!
# Between steps

Every step ends with the text brought up to date, so between steps nothing is left to load: the
upload at hand is the one that was loaded last, and so is the sample in the box, if there is such a
sample. What the next step does depends on what it brings and on these two marks.

* `refresh_upload`, `refresh_sample`: what bringing up to date does to the marks.
* `Steady`: what holds between steps; `steady_runTyped`: it holds after every run.
* `Offers`, `Loses`: whether a text was typed into an editor that is shown no more.
* `Steady.refresh`: where it holds already, bringing up to date does nothing.
* `step_eq_of_steady`: a step that leads there ends there.
* `upload?_receiveAll`, `chosen?_receiveAll`, `editor_receiveAll`: the controls in a step.
-/

namespace StagedAnalysis.Workbench

/-! ## What an action gives to a control -/

namespace Action

def text? : Action → Option String
  | .edit text => some text
  | _ => none

/-- The sample box is given a name, or none. -/
def choice? : Action → Option (Option String)
  | .choose sample? => some sample?
  | _ => none

/-- The file box is given a file, or emptied. -/
def file? : Action → Option (Option Upload)
  | .upload u => some (some u)
  | .removeUpload => some none
  | _ => none

end Action

namespace State

variable {c : Config} {w : State} {actions : List Action} {typed? : Option Typed}

theorem editor_receiveAll (w : State) (actions : List Action) :
    (w.receiveAll actions).editor = (actions.filterMap Action.text?).getLastD w.editor :=
  receiveAll_eq_getLastD (fun _ a => by cases a <;> rfl) w actions

theorem chosen?_receiveAll (w : State) (actions : List Action) :
    (w.receiveAll actions).chosen? = (actions.filterMap Action.choice?).getLastD w.chosen? :=
  receiveAll_eq_getLastD (fun _ a => by cases a <;> rfl) w actions

theorem upload?_receiveAll (w : State) (actions : List Action) :
    (w.receiveAll actions).upload? = (actions.filterMap Action.file?).getLastD w.upload? :=
  receiveAll_eq_getLastD (fun _ a => by cases a <;> rfl) w actions

theorem code_receiveAll (w : State) (actions : List Action) :
    (w.receiveAll actions).code = w.code :=
  receiveAll_keeps (fun _ a => by cases a <;> rfl) w actions

theorem loadedUpload?_receiveAll (w : State) (actions : List Action) :
    (w.receiveAll actions).loadedUpload? = w.loadedUpload? :=
  receiveAll_keeps (fun _ a => by cases a <;> rfl) w actions

theorem loadedSample?_receiveAll (w : State) (actions : List Action) :
    (w.receiveAll actions).loadedSample? = w.loadedSample? :=
  receiveAll_keeps (fun _ a => by cases a <;> rfl) w actions

theorem richKey_receiveAll (w : State) (actions : List Action) :
    (w.receiveAll actions).richKey = w.richKey :=
  receiveAll_keeps (fun _ a => by cases a <;> rfl) w actions

theorem getLastD_of_forall {α : Type} {xs : List α} {x : α} (h : ∀ y ∈ xs, y = x) :
    xs.getLastD x = x := by
  induction xs with
  | nil => rfl
  | cons y xs ih =>
    rw [List.getLastD_cons, h y List.mem_cons_self]
    exact ih fun z hz => h z (List.mem_cons_of_mem _ hz)

theorem chosen?_receiveAll_of_forall (h : ∀ x, .choose x ∈ actions → x = w.chosen?) :
    (w.receiveAll actions).chosen? = w.chosen? := by
  rw [chosen?_receiveAll]
  refine getLastD_of_forall fun x hx => ?_
  obtain ⟨a, ha, hax⟩ := List.mem_filterMap.1 hx
  cases a <;> cases hax
  exact h _ ha

/-- Where no file comes, the upload stays or goes. -/
theorem upload?_receiveAll_of_forall (h : ∀ u, .upload u ∉ actions) :
    (w.receiveAll actions).upload? = w.upload? ∨ (w.receiveAll actions).upload? = none := by
  rw [upload?_receiveAll]
  have hnone : ∀ x ∈ actions.filterMap Action.file?, x = none := by
    intro x hx
    obtain ⟨a, ha, hax⟩ := List.mem_filterMap.1 hx
    cases a <;> cases hax
    · exact absurd ha (h _)
    · rfl
  cases hfiles : actions.filterMap Action.file? with
  | nil => exact .inl rfl
  | cons x xs =>
    rw [hfiles] at hnone
    rw [List.getLastD_cons, hnone x List.mem_cons_self]
    exact .inr (getLastD_of_forall fun y hy => hnone y (List.mem_cons_of_mem _ hy))

/-! ## What was typed into another editor -/

/-- What is given back was typed into an editor that has been shown, be it the last one or not. -/
def Offers (w : State) (typed? : Option Typed) : Prop := ∀ t, typed? = some t → t.key ≤ w.richKey

/-- What is given back was not typed into the editor that is shown. -/
def Loses (w : State) (typed? : Option Typed) : Prop := ∀ t, typed? = some t → t.key ≠ w.richKey

theorem loses_none (w : State) : w.Loses none := by simp [Loses]

theorem offers_none (w : State) : w.Offers none := by simp [Offers]

/-- Nothing that was typed before is taken by an editor made anew. -/
theorem Offers.loses {v : State} (h : w.Offers typed?) (hv : v.richKey = w.richKey + 1) :
    v.Loses typed? := by
  intro t ht
  have hle := h t ht
  omega

theorem takeTyped_of_loses (c : Config) (h : w.Loses typed?) : w.takeTyped c typed? = w := by
  unfold takeTyped
  split
  · rfl
  · next t => rw [if_neg fun hk => h t rfl hk.2]

/-! ## Marks of what was loaded -/

section
variable (w : State) (name text : String)

@[simp] theorem upload?_loadFile : (w.loadFile name text).upload? = w.upload? := by
  rw [loadFile, edit]

@[simp] theorem loadedUpload?_loadFile :
    (w.loadFile name text).loadedUpload? = w.loadedUpload? := by
  rw [loadFile, edit]

@[simp] theorem chosen?_loadFile : (w.loadFile name text).chosen? = w.chosen? := by
  rw [loadFile, edit]

@[simp] theorem loadedSample?_loadFile :
    (w.loadFile name text).loadedSample? = w.loadedSample? := by
  rw [loadFile, edit]

end

variable (c)

theorem takeUpload_eq_self {w : State}
    (h : ∀ u, w.upload? = some u → w.loadedUpload? = some u.signature) : w.takeUpload c = w := by
  unfold takeUpload
  split
  · rfl
  · next u hu => rw [if_pos (h u hu)]

theorem takeSample_eq_self {w : State}
    (h : ∀ s, w.chosen?.bind c.sample? = some s → w.loadedSample? = some s.name) :
    w.takeSample c = w := by
  unfold takeSample
  split
  · rfl
  · next s hs => rw [if_pos (h s hs)]

/-- The upload at hand is marked as loaded, and the sample box is left alone. -/
theorem takeUpload_spec (w : State) :
    (w.takeUpload c).upload? = w.upload? ∧
    (w.takeUpload c).loadedUpload? = (w.upload?.map Upload.signature).or w.loadedUpload? ∧
    (w.takeUpload c).chosen? = w.chosen? ∧
    (w.takeUpload c).loadedSample? = w.loadedSample? := by
  unfold takeUpload
  split
  · next hu => exact ⟨rfl, by rw [hu]; rfl, rfl, rfl⟩
  · next u hu =>
    split
    · next hl => exact ⟨rfl, by rw [hu]; exact hl, rfl, rfl⟩
    · simp [hu]

/-- The sample in the box is marked as loaded, and the file box is left alone. -/
theorem takeSample_spec (w : State) :
    (w.takeSample c).upload? = w.upload? ∧
    (w.takeSample c).loadedUpload? = w.loadedUpload? ∧
    (w.takeSample c).chosen? = w.chosen? ∧
    (w.takeSample c).loadedSample? =
      ((w.chosen?.bind c.sample?).map Sample.name).or w.loadedSample? := by
  unfold takeSample
  split
  · next hs => exact ⟨rfl, rfl, rfl, by rw [hs]; rfl⟩
  · next s hs =>
    split
    · next hl => exact ⟨rfl, rfl, rfl, by rw [hs]; exact hl⟩
    · simp [hs]

theorem refresh_upload (w : State) (typed? : Option Typed) :
    (w.refresh c typed?).upload? = w.upload? ∧
    (w.refresh c typed?).loadedUpload? =
      (w.upload?.map Upload.signature).or w.loadedUpload? := by
  obtain ⟨hu, hl, -, -⟩ := takeUpload_spec c w
  obtain ⟨hu', hl', -, -⟩ := takeSample_spec c (w.takeUpload c)
  rw [← hl, ← hl', ← hu, ← hu']
  obtain ⟨code, ht⟩ := exists_takeTyped c { (w.takeUpload c).takeSample c with
    caption := ((w.takeUpload c).takeSample c).session.progress } typed?
  rw [refresh, ht]
  exact ⟨rfl, rfl⟩

theorem refresh_sample (w : State) (typed? : Option Typed) :
    (w.refresh c typed?).chosen? = w.chosen? ∧
    (w.refresh c typed?).loadedSample? =
      ((w.chosen?.bind c.sample?).map Sample.name).or w.loadedSample? := by
  obtain ⟨-, -, hc, hs⟩ := takeUpload_spec c w
  obtain ⟨-, -, hc', hs'⟩ := takeSample_spec c (w.takeUpload c)
  rw [hc, hs] at hs'
  rw [← hs', ← hc, ← hc']
  obtain ⟨code, ht⟩ := exists_takeTyped c { (w.takeUpload c).takeSample c with
    caption := ((w.takeUpload c).takeSample c).session.progress } typed?
  rw [refresh, ht]
  exact ⟨rfl, rfl⟩

/-! ## Nothing left to load -/

/-- The text is the same in all places, and the upload and the sample at hand have been loaded. -/
structure Steady (c : Config) (w : State) : Prop extends Settled c w where
  upload : ∀ u, w.upload? = some u → w.loadedUpload? = some u.signature
  sample : ∀ s, w.chosen?.bind c.sample? = some s → w.loadedSample? = some s.name
  named : w.badName? = none

variable {c}

namespace Steady

section
variable (h : Steady c w)
include h

theorem takeUpload : w.takeUpload c = w := takeUpload_eq_self c h.upload

theorem takeSample : w.takeSample c = w := takeSample_eq_self c h.sample

theorem sync : w.sync c = w := by
  have hc : (if c.richEditor then w.code else w.editor) = w.code := by
    cases hr : c.richEditor with
    | true => rfl
    | false => exact h.editor hr
  have hs : (w.session.setSource w.code).1 = w.session := by
    rw [Session.setSource, if_pos h.source.symm]
  unfold State.sync
  simp only [hc, hs]

theorem withCaption (p : Progress) : Steady c { w with caption := p } :=
  ⟨⟨h.source, h.editor⟩, h.upload, h.sample, h.named⟩

/-- Bringing the text up to date changes the caption at most. -/
theorem refresh (ht : w.Loses typed?) :
    w.refresh c typed? = { w with caption := w.session.progress } := by
  have hc : ({ w with caption := w.session.progress } : State).takeTyped c typed? =
      { w with caption := w.session.progress } := takeTyped_of_loses c ht
  unfold State.refresh
  simp only [h.takeUpload, h.takeSample, hc]
  exact (h.withCaption _).sync

theorem runStage (stage : Stage) : Steady c (w.runStage stage) where
  source := by
    cases stage with
    | lexical => exact h.source
    | syntactic => exact w.session.syntactic_source.trans h.source
    | semantic => exact w.session.semantic_source.trans h.source
  editor := h.editor
  upload := h.upload
  sample := h.sample
  named := h.named

/-- Where no file comes there is none to load. -/
theorem upload_receiveAll (hu : ∀ u, .upload u ∉ actions) :
    (∀ u, (w.receiveAll actions).upload? = some u →
      (w.receiveAll actions).loadedUpload? = some u.signature) ∧
    (w.receiveAll actions).badName? = none := by
  rw [loadedUpload?_receiveAll, badName?]
  rcases upload?_receiveAll_of_forall (w := w) hu with hk | hn
  · rw [hk]
    exact ⟨h.upload, h.named⟩
  · rw [hn]
    exact ⟨nofun, rfl⟩

/-- Whatever is edited, and whether the upload is removed, there is nothing to load. -/
theorem sync_receiveAll (hu : ∀ u, .upload u ∉ actions)
    (hc : ∀ x, .choose x ∈ actions → x = w.chosen?) :
    Steady c ((w.receiveAll actions).sync c) := by
  obtain ⟨hupload, hnamed⟩ := h.upload_receiveAll hu
  refine ⟨settled_sync c _, hupload, fun s hs => ?_, hnamed⟩
  have hs : (w.receiveAll actions).chosen?.bind c.sample? = some s := hs
  rw [chosen?_receiveAll_of_forall hc] at hs
  exact (loadedSample?_receiveAll w actions).trans (h.sample s hs)

end

end Steady

theorem steady_initial (c : Config) : Steady c initial where
  source := rfl
  editor _ := rfl
  upload u hu := by cases hu
  sample s hs := by cases hs
  named := rfl

theorem start_eq_initial (c : Config) : start c none = initial :=
  (steady_initial c).refresh (loses_none initial)

/-- A step that leads to where nothing is left to load ends there. -/
theorem step_eq_of_steady {v : State} (hn : (w.receiveAll actions).badName? = none)
    (hv : (((w.accepted actions).foldl (act c) (w.receiveAll actions)).takeUpload c).takeSample c =
      v) (h : Steady c v) (ht : v.Loses typed?) :
    w.step c actions typed? = .ok { v with caption := v.session.progress } := by
  refine step_eq_ok_iff.2 ⟨hn, ?_⟩
  rw [← h.refresh ht, advance]
  unfold refresh
  simp only [hv, h.takeUpload, h.takeSample]

/-! ## After every run -/

theorem steady_refresh (hn : w.badName? = none) : Steady c (w.refresh c typed?) := by
  obtain ⟨hu, hl⟩ := refresh_upload c w typed?
  obtain ⟨hc, hs⟩ := refresh_sample c w typed?
  refine ⟨settled_sync c _, fun u hw => ?upload, fun s hw => ?sample, ?named⟩
  case upload =>
    rw [hu] at hw
    rw [hl, hw]
    rfl
  case sample =>
    rw [hc] at hw
    rw [hs, hw]
    rfl
  case named =>
    rw [badName?, hu]
    exact hn

/-- The buttons leave the file box alone. -/
theorem acts_upload (w : State) (bs : List Button) :
    (bs.foldl (act c) w).upload? = w.upload? ∧
      (bs.foldl (act c) w).loadedUpload? = w.loadedUpload? := by
  induction bs generalizing w with
  | nil => exact ⟨rfl, rfl⟩
  | cons b bs ih =>
    obtain ⟨hu, hl⟩ := ih (w.act c b)
    cases b <;> exact ⟨hu, hl⟩

theorem steady_step {w' : State} (h : w.step c actions typed? = .ok w') : Steady c w' := by
  obtain ⟨hn, rfl⟩ := step_eq_ok_iff.1 h
  exact steady_refresh (by rwa [badName?, (acts_upload _ _).1])

theorem steady_runTyped {first? : Option Typed} {steps : List (List Action × Option Typed)}
    (h : runTyped c first? steps = .ok w) : Steady c w :=
  of_runTyped_step (steady_refresh rfl) (fun _ _ _ _ _ hs => steady_step hs) h

end State

end StagedAnalysis.Workbench

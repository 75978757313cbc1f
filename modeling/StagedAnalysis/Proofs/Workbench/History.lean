import StagedAnalysis.Proofs.Session.LastRead
import StagedAnalysis.Workbench.State

/-!
# The session of a workbench

Whatever a step of the workbench does to its session it does by operations of the session, and none
of them puts a text in place of another behind the back of the outcomes. So what such operations
keep holds of the session of every workbench.

* `Session.Follows`: one session comes from another by operations that do not assign.
* `receiveAll_eq_getLastD`, `receiveAll_keeps`: what arrives in the controls.
* `follows_sync` to `follows_advance`: each part of a step, and the step.
* `of_runTyped_step`, `of_runTyped`: invariants of runs.
* `follows_runTyped`: the session of a workbench comes from a new one.
-/

namespace StagedAnalysis

/-! ## Sessions that follow one another -/

/-- `t` comes from `s` by operations none of which assigns. -/
def Session.Follows (s t : Session) : Prop :=
  ∃ ops : List Session.Op, (∀ op ∈ ops, op.assigns = false) ∧ t = s.applyAll ops

namespace Session.Follows

variable {s t u : Session}

theorem refl (s : Session) : s.Follows s := ⟨[], by simp, rfl⟩

theorem trans (h : s.Follows t) (h' : t.Follows u) : s.Follows u := by
  obtain ⟨ops, ha, rfl⟩ := h
  obtain ⟨ops', ha', rfl⟩ := h'
  refine ⟨ops ++ ops', fun op hop => ?_, (List.foldl_append ..).symm⟩
  rcases List.mem_append.1 hop with hop | hop
  · exact ha op hop
  · exact ha' op hop

theorem of_apply (s : Session) (op : Op) (h : op.assigns = false) : s.Follows (s.apply op).1 :=
  ⟨[op], by simpa using h, rfl⟩

theorem coherent (h : s.Follows t) (hs : s.Coherent) : t.Coherent := by
  obtain ⟨ops, -, rfl⟩ := h
  exact hs.applyAll ops

theorem current (h : s.Follows t) (hs : s.Current) : t.Current := by
  obtain ⟨ops, ha, rfl⟩ := h
  exact hs.applyAll ha

end Session.Follows

namespace Workbench.State

open Session (Follows)

variable (c : Config)

/-! ## Parts of a step -/

/-- A control keeps the last value that it is given. -/
theorem receiveAll_eq_getLastD {α : Type} {get : State → α} {given? : Action → Option α}
    (h : ∀ w a, get (w.receive a) = (given? a).getD (get w)) (w : State) (actions : List Action) :
    get (w.receiveAll actions) = (actions.filterMap given?).getLastD (get w) := by
  induction actions generalizing w with
  | nil => rfl
  | cons a actions ih =>
    refine (ih (w.receive a)).trans ?_
    rw [h, List.filterMap_cons]
    cases given? a with
    | none => rfl
    | some x => exact (List.getLastD_cons ..).symm

/-- What no control holds stays as it is. -/
theorem receiveAll_keeps {α : Type} {get : State → α} (h : ∀ w a, get (w.receive a) = get w)
    (w : State) (actions : List Action) : get (w.receiveAll actions) = get w := by
  induction actions generalizing w with
  | nil => rfl
  | cons a actions ih => exact (ih (w.receive a)).trans (h w a)

theorem session_receiveAll (w : State) (actions : List Action) :
    (w.receiveAll actions).session = w.session :=
  receiveAll_keeps (fun _ a => by cases a <;> rfl) w actions

theorem follows_sync (w : State) : w.session.Follows (w.sync c).session :=
  Follows.of_apply w.session (.setSource _) rfl

theorem follows_loadFile (w : State) (name text : String) :
    w.session.Follows (w.loadFile name text).session :=
  Follows.of_apply w.session (.load text (some name)) rfl

theorem follows_takeUpload (w : State) : w.session.Follows (w.takeUpload c).session := by
  unfold takeUpload
  split
  · exact Follows.refl _
  · split
    · exact Follows.refl _
    · exact follows_loadFile _ _ _

theorem follows_takeSample (w : State) : w.session.Follows (w.takeSample c).session := by
  unfold takeSample
  split
  · exact Follows.refl _
  · split
    · exact Follows.refl _
    · exact follows_loadFile _ _ _

/-- What is typed changes the text of the workbench at most. -/
theorem exists_takeTyped (w : State) (typed? : Option Typed) :
    ∃ code, w.takeTyped c typed? = { w with code } := by
  unfold takeTyped
  split
  · exact ⟨w.code, rfl⟩
  · next t =>
    split
    · exact ⟨t.text, rfl⟩
    · exact ⟨w.code, rfl⟩

theorem session_takeTyped (w : State) (typed? : Option Typed) :
    (w.takeTyped c typed?).session = w.session := by
  obtain ⟨code, h⟩ := exists_takeTyped c w typed?
  rw [h]

theorem follows_refresh (w : State) (typed? : Option Typed) :
    w.session.Follows (w.refresh c typed?).session := by
  have h := (follows_takeUpload c w).trans (follows_takeSample c (w.takeUpload c))
  refine h.trans ?_
  rw [← session_takeTyped c { (w.takeUpload c).takeSample c with
    caption := ((w.takeUpload c).takeSample c).session.progress } typed?]
  exact follows_sync c _

theorem follows_runStage (w : State) (stage : Stage) :
    w.session.Follows (w.runStage stage).session := by
  cases stage with
  | lexical => exact Follows.of_apply w.session .lexical rfl
  | syntactic => exact Follows.of_apply w.session .syntactic rfl
  | semantic => exact Follows.of_apply w.session .semantic rfl

theorem follows_act (w : State) (b : Button) : w.session.Follows (w.act c b).session := by
  cases b with
  | stage stage => exact (follows_sync c w).trans (follows_runStage _ stage)
  | clear => exact Follows.of_apply w.session .clear rfl

theorem follows_acts (w : State) (bs : List Button) :
    w.session.Follows (bs.foldl (act c) w).session := by
  induction bs generalizing w with
  | nil => exact Follows.refl _
  | cons b bs ih => exact (follows_act c w b).trans (ih (w.act c b))

/-! ## Steps and runs -/

theorem follows_advance (w : State) (actions : List Action) (typed? : Option Typed) :
    w.session.Follows (w.advance c actions typed?).session := by
  have h := (follows_acts c (w.receiveAll actions) (w.accepted actions)).trans
    (follows_refresh c _ typed?)
  rwa [session_receiveAll] at h

variable {c}

/-- What holds first and is kept by every step that is not stopped holds after every run. -/
theorem of_runTyped_step {P : State → Prop} {first? : Option Typed}
    {steps : List (List Action × Option Typed)} {w : State}
    (hstart : P (start c first?))
    (hstep : ∀ s ∈ steps, ∀ w w', P w → w.step c s.1 s.2 = .ok w' → P w')
    (h : runTyped c first? steps = .ok w) : P w := by
  unfold runTyped at h
  generalize start c first? = v at h hstart
  induction steps generalizing v with
  | nil =>
    cases h
    exact hstart
  | cons s steps ih =>
    rw [List.foldlM_cons] at h
    cases hv : v.step c s.1 s.2 with
    | error e =>
      rw [hv] at h
      cases h
    | ok v' =>
      rw [hv] at h
      refine ih (fun s' hs' => hstep s' (List.mem_cons_of_mem _ hs')) _ h ?_
      exact hstep s List.mem_cons_self v v' hstart hv

theorem of_runTyped {P : State → Prop} {first? : Option Typed}
    {steps : List (List Action × Option Typed)} {w : State}
    (hstart : P (start c first?))
    (hstep : ∀ w actions typed?, P w → P (w.advance c actions typed?))
    (h : runTyped c first? steps = .ok w) : P w := by
  refine of_runTyped_step hstart (fun s _ v v' hv hs => ?_) h
  obtain rfl := (step_eq_ok_iff.1 hs).2
  exact hstep v s.1 s.2 hv

theorem runTyped_concat_eq_ok_iff {first? : Option Typed}
    {steps : List (List Action × Option Typed)} {s : List Action × Option Typed} {w' : State} :
    runTyped c first? (steps ++ [s]) = .ok w' ↔
      ∃ w, runTyped c first? steps = .ok w ∧ w.step c s.1 s.2 = .ok w' := by
  have hrun : runTyped c first? (steps ++ [s]) =
      runTyped c first? steps >>= fun w => w.step c s.1 s.2 := by simp [runTyped]
  rw [hrun]
  cases hw : runTyped c first? steps with
  | error e => simp [bind, Except.bind]
  | ok w => simp [bind, Except.bind]

/-- A run of which something can be read off has ended. -/
theorem exists_of_map_eq_ok {ε α β : Type} {x : Except ε α} {f : α → β} {b : β}
    (h : x.map f = .ok b) : ∃ a, x = .ok a ∧ f a = b := by
  cases x with
  | error e => cases h
  | ok a => exact ⟨a, rfl, Except.ok.inj h⟩

/-- The session of a workbench comes from a new one. -/
theorem follows_runTyped {first? : Option Typed} {steps : List (List Action × Option Typed)}
    {w : State} (h : runTyped c first? steps = .ok w) :
    (Session.start snippet).Follows w.session := by
  refine of_runTyped (P := fun w => (Session.start snippet).Follows w.session) ?start ?step h
  case start => exact follows_refresh c initial first?
  case step => exact fun w actions typed? hw => hw.trans (follows_advance c w actions typed?)

end Workbench.State

end StagedAnalysis

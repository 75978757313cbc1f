import Mathlib.Data.List.DropRight
import Mathlib.Data.List.Induction
import StagedAnalysis.Proofs.Workbench.Loading

/-!
# What counts as loaded already

A file is loaded once, not again in every step in which it is still at hand. To tell one from the
other the workbench keeps two marks: name and length of the upload that was loaded last, and the
name of the sample that was loaded last. The marks outlive what they were made for: that of the
upload is never taken off, and that of the sample by clearing only. So a file that is opened anew
may count as loaded although its text is not there.

* `held`: what a control holds at the end of each step; `sinceClear`: the steps after clearing.
* `advance_upload`, `advance_sample`: the marks after a step.
* `upload_mark`, `sample_mark`: the marks after a run, told by its actions alone.
* `upload_of_runTyped`: when an upload is loaded, and `upload_same_signature`: one that is not.
* `choose_of_runTyped`: when a sample is loaded, and `choose_same_again`: one that is not.
-/

namespace StagedAnalysis.Workbench.State

variable {c : Config} {w : State}

/-! ## What a control holds -/

section
variable {α : Type} (given? : Action → Option (Option α))

/-- What a control that holds `x?` at first holds at the end of each step, as far as it holds
anything. -/
def heldFrom : Option α → List (List Action) → List α
  | _, [] => []
  | x?, actions :: steps =>
    let x? := (actions.filterMap given?).getLastD x?
    x?.toList ++ heldFrom x? steps

/-- What a control that is empty at first holds at the end of each step. -/
def held (steps : List (List Action)) : List α := heldFrom given? none steps

/-- What it holds after all steps. -/
def holds (steps : List (List Action)) : Option α := (steps.flatten.filterMap given?).getLastD none

theorem getLastD_append (xs ys : List α) (x : α) :
    (xs ++ ys).getLastD x = ys.getLastD (xs.getLastD x) := by
  simp [List.getLast?_append, Option.getD_or]

theorem holds_concat (steps : List (List Action)) (actions : List Action) :
    holds given? (steps ++ [actions]) =
      (actions.filterMap given?).getLastD (holds given? steps) := by
  rw [holds, List.flatten_concat, List.filterMap_append, getLastD_append, holds]

theorem heldFrom_concat (x? : Option α) (steps : List (List Action)) (actions : List Action) :
    heldFrom given? x? (steps ++ [actions]) =
      heldFrom given? x? steps ++
        ((actions.filterMap given?).getLastD
          ((steps.flatten.filterMap given?).getLastD x?)).toList := by
  induction steps generalizing x? with
  | nil => simp [heldFrom]
  | cons first steps ih =>
    rw [List.cons_append, heldFrom, ih, heldFrom, List.append_assoc, List.flatten_cons,
      List.filterMap_append, getLastD_append]

theorem held_concat (steps : List (List Action)) (actions : List Action) :
    held given? (steps ++ [actions]) =
      held given? steps ++ (holds given? (steps ++ [actions])).toList := by
  rw [holds_concat]
  exact heldFrom_concat given? none steps actions

/-- Of what was held, the last that passes is what is held now, if that passes. -/
theorem getLast?_filterMap_held {β : Type} (f : α → Option β) (steps : List (List Action))
    (actions : List Action) :
    ((held given? (steps ++ [actions])).filterMap f).getLast? =
      ((holds given? (steps ++ [actions])).bind f).or
        ((held given? steps).filterMap f).getLast? := by
  rw [held_concat, List.filterMap_append, List.getLast?_append]
  congr 1
  cases holds given? (steps ++ [actions]) with
  | none => rfl
  | some x => cases hx : f x <;> simp [hx]

end

/-- The steps after the last one in which the text was cleared. -/
def sinceClear (steps : List (List Action)) : List (List Action) :=
  steps.rtakeWhile fun actions => !(presses actions).contains .clear

theorem sinceClear_concat (steps : List (List Action)) (actions : List Action) :
    sinceClear (steps ++ [actions]) =
      if .clear ∈ presses actions then [] else sinceClear steps ++ [actions] := by
  by_cases h : .clear ∈ presses actions <;> simp [sinceClear, h]

/-! ## The marks after a step -/

theorem mem_accepted_clear {actions : List Action} :
    .clear ∈ w.accepted actions ↔ .clear ∈ presses actions := by
  simp [accepted, Button.all, enables]

variable (c)

/-- Clearing empties the sample box and takes its mark off. -/
theorem acts_sample (w : State) (bs : List Button) :
    (bs.foldl (act c) w).chosen? = (if .clear ∈ bs then none else w.chosen?) ∧
      (bs.foldl (act c) w).loadedSample? = if .clear ∈ bs then none else w.loadedSample? := by
  induction bs generalizing w with
  | nil => exact ⟨rfl, rfl⟩
  | cons b bs ih =>
    obtain ⟨hc, hl⟩ := ih (w.act c b)
    rw [List.foldl_cons, hc, hl]
    cases b with
    | clear => simp [act]
    | stage stage => simp [act, runStage, sync]

theorem advance_upload (w : State) (actions : List Action) (typed? : Option Typed) :
    (w.advance c actions typed?).upload? = (actions.filterMap Action.file?).getLastD w.upload? ∧
    (w.advance c actions typed?).loadedUpload? =
      ((w.advance c actions typed?).upload?.map Upload.signature).or w.loadedUpload? := by
  obtain ⟨hu, hl⟩ := acts_upload (c := c) (w.receiveAll actions) (w.accepted actions)
  obtain ⟨hu', hl'⟩ := refresh_upload c ((w.accepted actions).foldl (act c) (w.receiveAll actions))
    typed?
  rw [hu, upload?_receiveAll] at hu' hl'
  rw [hl, loadedUpload?_receiveAll] at hl'
  rw [advance, hu', hl']
  exact ⟨rfl, rfl⟩

theorem advance_sample (w : State) (actions : List Action) (typed? : Option Typed) :
    (w.advance c actions typed?).chosen? =
      (if .clear ∈ presses actions then none
        else (actions.filterMap Action.choice?).getLastD w.chosen?) ∧
    (w.advance c actions typed?).loadedSample? =
      (((w.advance c actions typed?).chosen?.bind c.sample?).map Sample.name).or
        (if .clear ∈ presses actions then none else w.loadedSample?) := by
  obtain ⟨hc, hl⟩ := acts_sample c (w.receiveAll actions) (w.accepted actions)
  obtain ⟨hc', hl'⟩ := refresh_sample c ((w.accepted actions).foldl (act c) (w.receiveAll actions))
    typed?
  simp only [mem_accepted_clear, chosen?_receiveAll, loadedSample?_receiveAll] at hc hl
  rw [hc] at hc' hl'
  rw [hl] at hl'
  rw [advance, hc', hl']
  exact ⟨rfl, rfl⟩

variable {c}

/-! ## The marks after a run -/

section
variable {first? : Option Typed} {steps : List (List Action × Option Typed)}

/-- The uploads that were at hand, step by step. -/
def uploads (steps : List (List Action × Option Typed)) : List Upload :=
  held Action.file? (steps.map Prod.fst)

/-- The samples that stood in the box since the text was cleared last, step by step. -/
def samplesSinceClear (c : Config) (steps : List (List Action × Option Typed)) : List Sample :=
  (held Action.choice? (sinceClear (steps.map Prod.fst))).filterMap c.sample?

/-- The mark is that of the last upload there was, whatever has happened since. -/
theorem upload_mark (h : runTyped c first? steps = .ok w) :
    w.upload? = holds Action.file? (steps.map Prod.fst) ∧
      w.loadedUpload? = (uploads steps).getLast?.map Upload.signature := by
  -- The last step marks what it holds; where it holds nothing, the mark is that of the run before.
  induction steps using List.reverseRecOn generalizing w with
  | nil =>
    obtain rfl : start c first? = w := Except.ok.inj h
    exact refresh_upload c initial first?
  | append_singleton steps s ih =>
    obtain ⟨v, hv, hs⟩ := runTyped_concat_eq_ok_iff.1 h
    obtain ⟨-, rfl⟩ := step_eq_ok_iff.1 hs
    obtain ⟨hu, hl⟩ := ih hv
    obtain ⟨hu', hl'⟩ := advance_upload c v s.1 s.2
    rw [hu, ← holds_concat] at hu'
    rw [hu', hl] at hl'
    rw [uploads, List.map_append, List.map_singleton]
    have hlast := getLast?_filterMap_held Action.file? some (steps.map Prod.fst) s.1
    rw [List.filterMap_some, List.filterMap_some, Option.bind_fun_some] at hlast
    rw [hlast, Option.map_or]
    exact ⟨hu', hl'⟩

/-- The mark is that of the last sample that stood in the box since the text was cleared last. -/
theorem sample_mark (h : runTyped c first? steps = .ok w) :
    w.chosen? = holds Action.choice? (sinceClear (steps.map Prod.fst)) ∧
      w.loadedSample? = (samplesSinceClear c steps).getLast?.map Sample.name := by
  induction steps using List.reverseRecOn generalizing w with
  | nil =>
    obtain rfl : start c first? = w := Except.ok.inj h
    exact refresh_sample c initial first?
  | append_singleton steps s ih =>
    obtain ⟨v, hv, hs⟩ := runTyped_concat_eq_ok_iff.1 h
    obtain ⟨-, rfl⟩ := step_eq_ok_iff.1 hs
    obtain ⟨hc, hl⟩ := ih hv
    obtain ⟨hc', hl'⟩ := advance_sample c v s.1 s.2
    rw [samplesSinceClear, List.map_append, List.map_singleton, sinceClear_concat]
    by_cases hclear : .clear ∈ presses s.1
    -- Clearing comes after the choices of its step, so none of them counts.
    · rw [if_pos hclear] at hc' hl' ⊢
      rw [hc'] at hl'
      exact ⟨hc', hl'⟩
    · rw [if_neg hclear] at hc' hl' ⊢
      rw [hc, ← holds_concat] at hc'
      rw [hc', hl] at hl'
      rw [getLast?_filterMap_held, Option.map_or]
      exact ⟨hc', hl'⟩

/-! ## Uploads -/

/-- **An upload that is brought is loaded, unless it looks like the last one.** In a step that does
no more than bring an upload with a good name, its text comes to stand in all places, and the
session opens it under its name, if the upload that was at hand last had another name or another
length. If name and length are the same the step leaves the text alone: whatever the upload holds,
and whether or not the last one has been edited, cleared or removed since. -/
theorem upload_of_runTyped (h : runTyped c first? steps = .ok w) {u : Upload}
    (hu : u.badName? = none) :
    ∃ w', w.step c [.upload u] none = .ok w' ∧
      if (uploads steps).getLast?.map Upload.signature = some u.signature then w.KeepsText w'
      else
        w'.HoldsText (u.text c.codecs c.encoding) ∧
          w'.session = w.session.load (u.text c.codecs c.encoding) (some u.name) := by
  have hw := steady_runTyped h
  rw [← (upload_mark h).2]
  by_cases hl : w.loadedUpload? = some u.signature
  · obtain ⟨w', hs, hk⟩ := hw.step_upload_again hu hl
    exact ⟨w', hs, by rwa [if_pos hl]⟩
  · obtain ⟨w', hs, -, ht, hs'⟩ := hw.step_upload hu hl (offers_none w)
    exact ⟨w', hs, by rw [if_neg hl]; exact ⟨ht, hs'⟩⟩

/-- A program of one line that ends in a digit. -/
def numbered (name : String) (digit : UInt8) : Upload :=
  ⟨name, [0x78, 0x20, 0x3D, 0x20, digit, 0x3B]⟩

/-- The text is cleared, and another file is brought. -/
theorem upload_of_runTyped_sample :
    (numbered "b.mc" 0x32).badName? = none ∧
    ∃ w w', runTyped sampleConfig none
        [([.upload (numbered "a.mc" 0x31)], none), ([.press .clear], none)] = .ok w ∧
      w.step sampleConfig [.upload (numbered "b.mc" 0x32)] none = .ok w' ∧
      w'.HoldsText "x = 2;" := by
  have hname : (numbered "b.mc" 0x32).badName? = none := by decide +kernel
  have hrun : (runTyped sampleConfig none
      [([.upload (numbered "a.mc" 0x31)], none), ([.press .clear], none)]).map State.code =
        .ok "" := by decide +kernel
  have htext : (numbered "b.mc" 0x32).text sampleConfig.codecs sampleConfig.encoding =
      "x = 2;" := by decide +kernel
  obtain ⟨w, hw, -⟩ := exists_of_map_eq_ok hrun
  obtain ⟨w', hw', ht⟩ := upload_of_runTyped hw hname
  rw [if_neg (by decide), htext] at ht
  exact ⟨hname, w, w', hw, hw', ht.1⟩

/-- A file is corrected and brought again: with the same name and length it is not loaded. -/
theorem upload_same_signature :
    (numbered "a.mc" 0x32).badName? = none ∧
    (numbered "a.mc" 0x32).text sampleConfig.codecs sampleConfig.encoding = "x = 2;" ∧
    ∃ w w', runTyped sampleConfig none [([.upload (numbered "a.mc" 0x31)], none)] = .ok w ∧
      w.step sampleConfig [.upload (numbered "a.mc" 0x32)] none = .ok w' ∧
      w'.HoldsText "x = 1;" ∧ ¬w'.HoldsText "x = 2;" := by
  have hrun : (runTyped sampleConfig none ([([.upload (numbered "a.mc" 0x31)], none)] ++
      [([.upload (numbered "a.mc" 0x32)], none)])).map
        (fun w => (w.session.source, w.code, w.editor)) = .ok ("x = 1;", "x = 1;", "x = 1;") := by
    decide +kernel
  obtain ⟨w', hw', ht⟩ := exists_of_map_eq_ok hrun
  simp only [Prod.mk.injEq] at ht
  obtain ⟨w, hw, hs⟩ := runTyped_concat_eq_ok_iff.1 hw'
  refine ⟨by decide +kernel, by decide +kernel, w, w', hw, hs, ⟨ht.1, ht.2.1, ht.2.2⟩, fun h => ?_⟩
  exact absurd (ht.2.1.symm.trans h.code) (by decide)

/-! ## Samples -/

/-- **A sample that is chosen is loaded, unless it was the last one.** In a step that does no more
than choose a sample, its text comes to stand in all places, and the session opens it under its
name, if it was not the last sample that stood in the box since the text was cleared. If it was, the
step leaves the text alone, whatever has become of it since. From one sample to another the box
always loads. -/
theorem choose_of_runTyped (h : runTyped c first? steps = .ok w) {name : String} {s : Sample}
    (hs : c.sample? name = some s) :
    ∃ w', w.step c [.choose (some name)] none = .ok w' ∧
      (if (samplesSinceClear c steps).getLast?.map Sample.name = some name then w.KeepsText w'
        else w'.HoldsText s.text ∧ w'.session = w.session.load s.text (some name)) ∧
      (∀ s', w.chosen?.bind c.sample? = some s' → s'.name ≠ name → w'.HoldsText s.text) := by
  have hw := steady_runTyped h
  rw [← (sample_mark h).2]
  by_cases hl : w.loadedSample? = some name
  · obtain ⟨w', hw', hk⟩ := hw.step_choose_again hl
    refine ⟨w', hw', by rwa [if_pos hl], fun s' hs' hne => absurd ?_ hne⟩
    exact Option.some.inj ((hw.sample s' hs').symm.trans hl)
  · obtain ⟨w', hw', -, ht, hs'⟩ := hw.step_choose hs hl (offers_none w)
    exact ⟨w', hw', by rw [if_neg hl]; exact ⟨ht, hs'⟩, fun _ _ _ => ht⟩

/-- After clearing, the sample that was there before is loaded once more. -/
theorem choose_of_runTyped_sample :
    sampleConfig.sample? "a.mc" = some ⟨"a.mc", "int y = 2;"⟩ ∧
    ∃ w w', runTyped sampleConfig none
        [([.choose "a.mc"], none), ([.press .clear], none)] = .ok w ∧
      w.step sampleConfig [.choose "a.mc"] none = .ok w' ∧ w'.HoldsText "int y = 2;" := by
  have hsample : sampleConfig.sample? "a.mc" = some ⟨"a.mc", "int y = 2;"⟩ := rfl
  have hrun : (runTyped sampleConfig none
      [([.choose "a.mc"], none), ([.press .clear], none)]).map State.code = .ok "" := by
    decide +kernel
  obtain ⟨w, hw, -⟩ := exists_of_map_eq_ok hrun
  obtain ⟨w', hw', ht, -⟩ := choose_of_runTyped hw hsample
  rw [if_neg (by decide)] at ht
  exact ⟨hsample, w, w', hw, hw', ht.1⟩

/-- The box is emptied and the text edited: the same sample, chosen again, is not loaded. -/
theorem choose_same_again :
    sampleConfig.sample? "a.mc" = some ⟨"a.mc", "int y = 2;"⟩ ∧
    ∃ w w', runTyped sampleConfig none
        [([.choose "a.mc"], none), ([.choose none, .edit "x = 1;"], none)] = .ok w ∧
      w.chosen? = none ∧ w.step sampleConfig [.choose "a.mc"] none = .ok w' ∧
      w'.HoldsText "x = 1;" ∧ ¬w'.HoldsText "int y = 2;" := by
  have hrun : (runTyped sampleConfig none
      ([([.choose "a.mc"], none), ([.choose none, .edit "x = 1;"], none)] ++
        [([.choose "a.mc"], none)])).map
        (fun w => (w.session.source, w.code, w.editor)) = .ok ("x = 1;", "x = 1;", "x = 1;") := by
    decide +kernel
  obtain ⟨w', hw', ht⟩ := exists_of_map_eq_ok hrun
  simp only [Prod.mk.injEq] at ht
  obtain ⟨w, hw, hs⟩ := runTyped_concat_eq_ok_iff.1 hw'
  have hbox : w.chosen? = none := (sample_mark hw).1
  refine ⟨rfl, w, w', hw, hbox, hs, ⟨ht.1, ht.2.1, ht.2.2⟩, fun h => ?_⟩
  exact absurd (ht.2.1.symm.trans h.code) (by decide)

end

end StagedAnalysis.Workbench.State

import StagedAnalysis.Proofs.Workbench.Loading
import StagedAnalysis.Proofs.Workbench.Buttons

/-!
# Clearing

Clearing acts once all changes of its step have arrived and before anything is loaded, so of these
changes no text is left. It makes the rich editor anew, so what was typed before is lost. The upload
at hand keeps its mark and is not loaded again. The sample box is emptied together with its mark, so
any sample can be chosen next.

* `Session.Unread.canRun`, `rows_of_unread`: a session without text and outcomes.
* `Steady.step_clear`: the workbench after clearing.
* `clear_of_runTyped`: the main statement.
-/

namespace StagedAnalysis

/-! ## Sessions with nothing in them -/

/-- Without text and outcomes there is nothing to run. -/
theorem Session.Unread.canRun {s : Session} (h : s.Unread) (hs : s.source = "") (stage : Stage) :
    s.canRun stage = false := by
  obtain ⟨hp, -, -, -, -⟩ := h
  cases stage with
  | lexical => simp [Session.canRun, hs]
  | syntactic => simp [Session.canRun, hp]
  | semantic => simp [Session.canRun, hp]

namespace Workbench

theorem rows_of_unread {s : Session} (h : s.Unread) :
    diagnosticRows s = [] ∧ tokenRows s = [] ∧ symbolRows s = [] := by
  obtain ⟨-, -, hl, hs, hm⟩ := h
  simp [diagnosticRows, tokenRows, listedTokens, symbolRows, hl, hs, hm]

namespace State

variable {c : Config} {w : State} {typed? : Option Typed}

/-! ## The step -/

theorem Steady.step_clear (h : Steady c w) {actions : List Action}
    (hp : presses actions = [.clear]) (hu : ∀ u, .upload u ∉ actions) (ht : w.Offers typed?) :
    ∃ w', w.step c actions typed? = .ok w' ∧ Steady c w' ∧ w'.HoldsText "" ∧
      w'.session = w.session.clear ∧ w'.chosen? = none ∧ w'.loadedSample? = none := by
  obtain ⟨hupload, hnamed⟩ := h.upload_receiveAll hu
  have hv : Steady c ((w.receiveAll actions).act c .clear) :=
    ⟨⟨rfl, fun _ => rfl⟩, hupload, nofun, hnamed⟩
  have hs : ((w.receiveAll actions).act c .clear).session = w.session.clear :=
    congrArg Session.clear (session_receiveAll w actions)
  have hkey : ((w.receiveAll actions).act c .clear).richKey = w.richKey + 1 :=
    congrArg (· + 1) (richKey_receiveAll w actions)
  refine ⟨_, step_eq_of_steady hnamed ?_ hv (ht.loses hkey), hv.withCaption _, ⟨rfl, rfl, rfl⟩, hs,
    rfl, rfl⟩
  rw [accepted_of_presses hp rfl, List.foldl_cons, List.foldl_nil, hv.takeUpload, hv.takeSample]

/-- **Clearing wins.** A step whose one button is that of clearing, and that brings no file, ends
without any text or result, whatever else arrives with it, typed text included: the console is
empty, no stage has an outcome or can be run, the tables have no rows, and no sample is chosen. From
there every sample can be loaded in a step that chooses it, also the one that was loaded last, and
whatever is typed meanwhile. Text can be typed into the editors that have been shown only. -/
theorem clear_of_runTyped {first? : Option Typed} {steps : List (List Action × Option Typed)}
    (h : runTyped c first? steps = .ok w) {actions : List Action}
    (hp : presses actions = [.clear]) (hu : ∀ u, .upload u ∉ actions) (ht : w.Offers typed?)
    (shown : Nat) :
    ∃ w', w.step c actions typed? = .ok w' ∧ w'.HoldsText "" ∧
      w'.session.transcript = "" ∧ (view c shown w').placeholder = true ∧
      w'.session.lexical? = none ∧ w'.session.syntactic? = none ∧ w'.session.semantic? = none ∧
      diagnosticRows w'.session = [] ∧ tokenRows w'.session = [] ∧ symbolRows w'.session = [] ∧
      (view c shown w').sample = noSample ∧ (view c shown w').enabled = [.clear] ∧
      ∀ name s next?, c.sample? name = some s → w'.Offers next? →
        ∃ w'', w'.step c [.choose (some name)] next? = .ok w'' ∧ w''.HoldsText s.text := by
  obtain ⟨w', hw', hsteady, htext, hsession, hchosen, hloaded⟩ :=
    (steady_runTyped h).step_clear hp hu ht
  have hunread : w'.session.Unread := hsession ▸ w.session.unread_clear
  have htranscript : w'.session.transcript = "" := by
    rw [hsession]
    rfl
  obtain ⟨hd, hk, hy⟩ := rows_of_unread hunread
  refine ⟨w', hw', htext, htranscript, ?placeholder, hunread.2.2.1, hunread.2.2.2.1,
    hunread.2.2.2.2, hd, hk, hy, ?sample, ?enabled, ?next⟩
  case placeholder => simp [view, htranscript]
  case sample => simp [view, hchosen]
  case enabled =>
    have hcan := hunread.canRun htext.source
    simp [view, Button.all, Stage.all, enables, hcan]
  case next =>
    intro name s next? hs hnext
    obtain ⟨w'', hw'', -, ht'', -⟩ := hsteady.step_choose hs (by simp [hloaded]) hnext
    exact ⟨w'', hw'', ht''⟩

/-- A workbench with one sample and the rich editor. -/
def richConfig : Config := { sampleConfig with richEditor := true }

/-- A sample is loaded and then typed over. -/
def richSteps : List (List Action × Option Typed) :=
  [([.choose "a.mc"], none), ([.press (.stage .lexical)], some ⟨1, "y = 3;"⟩)]

/-- The text is cleared while the next one is typed, and the sample chosen once more, again while
one is typed. -/
theorem clear_of_runTyped_sample :
    ∃ w w' w'', runTyped richConfig none richSteps = .ok w ∧
      w.code = "y = 3;" ∧ presses [.choose none, .press .clear] = [.clear] ∧
      (∀ u, Action.upload u ∉ [.choose none, .press .clear]) ∧
      w.Offers (some ⟨1, "y = 4;"⟩) ∧
      w.step richConfig [.choose none, .press .clear] (some ⟨1, "y = 4;"⟩) = .ok w' ∧
      w'.HoldsText "" ∧ (view richConfig 0 w').enabled = [.clear] ∧
      w'.Offers (some ⟨2, "y = 5;"⟩) ∧
      w'.step richConfig [.choose "a.mc"] (some ⟨2, "y = 5;"⟩) = .ok w'' ∧
      w''.HoldsText "int y = 2;" := by
  have hrun : (runTyped richConfig none richSteps).map (fun w => (w.code, w.richKey)) =
      .ok ("y = 3;", 1) := by decide +kernel
  have hlong : (runTyped richConfig none
      (richSteps ++ [([.choose none, .press .clear], some ⟨1, "y = 4;"⟩)])).map State.richKey =
        .ok 2 := by decide +kernel
  obtain ⟨w, hw, hview⟩ := exists_of_map_eq_ok hrun
  simp only [Prod.mk.injEq] at hview
  have hfiles : ∀ u, Action.upload u ∉ [.choose none, .press .clear] := by simp
  have hold : w.Offers (some ⟨1, "y = 4;"⟩) := by simp [Offers, hview.2]
  obtain ⟨w', hw', ht, -, -, -, -, -, -, -, -, -, henabled, hnext⟩ :=
    clear_of_runTyped hw rfl hfiles hold 0
  have hkey : w'.richKey = 2 := by
    rw [runTyped_concat_eq_ok_iff.2 ⟨w, hw, hw'⟩] at hlong
    exact Except.ok.inj hlong
  have hnew : w'.Offers (some ⟨2, "y = 5;"⟩) := by simp [Offers, hkey]
  obtain ⟨w'', hw'', ht''⟩ := hnext "a.mc" _ _ rfl hnew
  exact ⟨w, w', w'', hw, hview.1, rfl, hfiles, hold, hw', ht, henabled, hnew, hw'', ht''⟩

end State

end Workbench

end StagedAnalysis

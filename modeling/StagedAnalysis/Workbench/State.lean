import StagedAnalysis.Session
import StagedAnalysis.Settings
import StagedAnalysis.Workbench.Samples

/-!
# Workbench

The workbench edits a text, loads it from samples and uploads, and runs the stages on it by buttons.
A step goes in three parts. First all changes of the controls arrive; if they leave an upload with a
bad name, the step ends here. Then the buttons that were pressed act; only those count that were
enabled at the end of the step before. Then the text is brought up to date: a new upload is loaded,
then a newly chosen sample, then what the rich editor gives back where it is in use, and at last the
session takes the text of the editor.

The library of controls is not part of this. Assumed of it: every value given to a control arrives
before a button acts, and stays until the next; a press does not, and one of a button that was shown
disabled is dropped; buttons act in the order in which they stand (`accepted`); a bad name of an
upload stops the step where it arrives (`step`). The rich editor is a new one whenever its key is
another; it gives back what was typed under its key, and until then the text that it was given,
which is the text of the workbench.
-/

namespace StagedAnalysis.Workbench

/-! ## Setting up -/

structure Config where
  codecs : Registry
  samples : List Sample
  encoding : String
  /-- The text is edited in place and has no text area of its own. -/
  richEditor : Bool

def Config.sample? (c : Config) (name : String) : Option Sample := c.samples.find? (·.name == name)

structure State where
  session : Session
  /-- The text as the workbench knows it. -/
  code : String
  /-- The text area. -/
  editor : String
  /-- The key of the rich editor, which counts the texts that it was made anew for. -/
  richKey : Nat := 0
  chosen? : Option String := none
  upload? : Option Upload := none
  showTokens : Bool := true
  showSymbols : Bool := true
  /-- The signature of the upload that was loaded last. -/
  loadedUpload? : Option (String × Nat) := none
  /-- The name of the sample that was loaded last. -/
  loadedSample? : Option String := none
  /-- The progress in the caption. It is read before the session takes the text of the editor. -/
  caption : Progress := .notStarted

/-- The text of a new workbench. -/
def snippet : String := "int x = 5;\nString greeting = \"hello\";\nx = x + 1;\n"

def initial : State := { session := .start snippet, code := snippet, editor := snippet }

/-! ## Controls -/

inductive Button where
  | stage (s : Stage)
  | clear
  deriving DecidableEq, Repr

def Button.all : List Button := Stage.all.map .stage ++ [.clear]

/-- A text that was typed into the rich editor while it had this key. -/
structure Typed where
  key : Nat
  text : String
  deriving DecidableEq, Repr

inductive Action where
  | edit (text : String)
  | press (b : Button)
  | choose (sample? : Option String)
  | upload (u : Upload)
  | removeUpload
  | showTokens (shown : Bool)
  | showSymbols (shown : Bool)
  deriving DecidableEq, Repr

namespace State

def enables (w : State) : Button → Bool
  | .stage s => w.session.canRun s
  | .clear => true

/-- A control takes the value that it is given. -/
def receive (w : State) : Action → State
  | .edit text => { w with editor := text }
  | .press _ => w
  | .choose sample? => { w with chosen? := sample? }
  | .upload u => { w with upload? := some u }
  | .removeUpload => { w with upload? := none }
  | .showTokens shown => { w with showTokens := shown }
  | .showSymbols shown => { w with showSymbols := shown }

/-! ## Text -/

/-- The session takes the text of the editor. -/
def sync (c : Config) (w : State) : State :=
  let code := if c.richEditor then w.code else w.editor
  { w with code, session := (w.session.setSource code).1 }

/-- Shows a text, in a rich editor of its own. -/
def edit (w : State) (code : String) : State :=
  { w with code, editor := code, richKey := w.richKey + 1 }

/-- Shows the text of a file and gives it to the session. -/
def loadFile (w : State) (name text : String) : State :=
  { w.edit text with session := w.session.load text (some name) }

/-- Loads the upload unless it has the signature of the last one that was loaded. -/
def takeUpload (c : Config) (w : State) : State :=
  match w.upload? with
  | none => w
  | some u =>
    if w.loadedUpload? = some u.signature then w
    else { w with loadedUpload? := some u.signature }.loadFile u.name (u.text c.codecs c.encoding)

/-- Loads the chosen sample unless it is the last one that was loaded. -/
def takeSample (c : Config) (w : State) : State :=
  match w.chosen?.bind c.sample? with
  | none => w
  | some s =>
    if w.loadedSample? = some s.name then w
    else { w with loadedSample? := some s.name }.loadFile s.name s.text

/-- What the rich editor gives back takes the place of the text. A text that was typed into another
than the one that is shown is lost. -/
def takeTyped (c : Config) (typed? : Option Typed) (w : State) : State :=
  match typed? with
  | none => w
  | some t => if c.richEditor ∧ t.key = w.richKey then { w with code := t.text } else w

/-- Brings the text up to date. -/
def refresh (c : Config) (w : State) (typed? : Option Typed) : State :=
  let w := (w.takeUpload c).takeSample c
  ({ w with caption := w.session.progress }.takeTyped c typed?).sync c

/-! ## Steps -/

def runStage (w : State) (s : Stage) : State :=
  { w with session :=
      match s with
      | .lexical => w.session.lexical.1
      | .syntactic => w.session.syntactic.1
      | .semantic => w.session.semantic.1 }

/-- What a button does. Clearing forgets the sample that was loaded, but not the upload. -/
def act (c : Config) (w : State) : Button → State
  | .stage s => (w.sync c).runStage s
  | .clear => { w.edit "" with session := w.session.clear, chosen? := none, loadedSample? := none }

/-- The buttons that are pressed, in order. -/
def presses (actions : List Action) : List Button :=
  actions.filterMap fun
    | .press b => some b
    | _ => none

/-- The presses that have no effect. -/
def refused (w : State) (actions : List Action) : List Button :=
  (presses actions).filter (!w.enables ·)

/-- The buttons that act; each acts once, in the order in which they stand. -/
def accepted (w : State) (actions : List Action) : List Button :=
  Button.all.filter fun b => (presses actions).contains b && w.enables b

/-- All changes of a step arrive. -/
def receiveAll (w : State) (actions : List Action) : State := actions.foldl receive w

/-- What is wrong with the name of the upload at hand. -/
def badName? (w : State) : Option Upload.BadName := w.upload?.bind Upload.badName?

/-- What a step does when the name of its upload is good. -/
def advance (c : Config) (w : State) (actions : List Action) (typed? : Option Typed) : State :=
  ((w.accepted actions).foldl (act c) (w.receiveAll actions)).refresh c typed?

/-- A step, in which the rich editor may give a text back. A bad name stops it before any button
acts. -/
def step (c : Config) (w : State) (actions : List Action) (typed? : Option Typed) :
    Except Upload.BadName State :=
  match (w.receiveAll actions).badName? with
  | some e => .error e
  | none => .ok (w.advance c actions typed?)

theorem step_eq_ok_iff {c : Config} {w w' : State} {actions : List Action}
    {typed? : Option Typed} :
    w.step c actions typed? = .ok w' ↔
      (w.receiveAll actions).badName? = none ∧ w.advance c actions typed? = w' := by
  unfold step
  cases (w.receiveAll actions).badName? <;> simp

/-- The workbench as it is shown first. -/
def start (c : Config) (typed? : Option Typed) : State := initial.refresh c typed?

/-- The workbench after steps in order, none of which was stopped. The rich editor may give a text
back first and in every step. -/
def runTyped (c : Config) (first? : Option Typed) (steps : List (List Action × Option Typed)) :
    Except Upload.BadName State :=
  steps.foldlM (fun w s => w.step c s.1 s.2) (start c first?)

end State

/-! ## Opening -/

/-- Sets up the workbench; `richEditor` says whether the editor is installed. -/
def setUp (codecs : Registry) (settings : Settings) (richEditor : Bool)
    (samples : Option FileTree) : Except Fault (Logger × Config) := do
  let logger ← settings.logger
  let samples ← readSamples codecs settings.encoding samples
  return (logger, ⟨codecs, samples, settings.encoding, richEditor && settings.richEditor⟩)

end StagedAnalysis.Workbench

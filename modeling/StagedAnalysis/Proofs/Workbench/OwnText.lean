import StagedAnalysis.Proofs.Outcome.Lexical
import StagedAnalysis.Proofs.Workbench.History
import StagedAnalysis.Workbench.View

/-!
# A workbench shows its own text

At the end of every step the session has the text of the editor, and its outcomes are those of that
text. So what is shown can be told from the text and from the stages that have run on it.

* `Settled`: what holds between steps; `settled_runTyped`: it holds after every run.
* `Session.showing`: the session that a text and the stages that have run on it determine.
* `view_of_runTyped`: the main statement.
-/

namespace StagedAnalysis

/-! ## Outcomes by text -/

namespace Session

variable {s : Session}

theorem source_setSource (s : Session) (text : String) : (s.setSource text).1.source = text := by
  rcases s.setSource_cases text with ⟨h, he⟩ | ⟨-, he⟩
  · rw [he, h]
  · exact he

/-- Where the analysis has started, the tokens are those of the text. -/
theorem tokens_of_started (hs : s.Coherent) (hc : s.Current) (h : s.progress ≠ .notStarted) :
    s.tokens = (Document.ofText s.source).tokens := by
  have hn := mt hs.notStarted_iff.2 h
  simp only [not_forall] at hn
  obtain ⟨o, ho, hok⟩ := hn
  obtain rfl := hc o ho
  rw [(hs.read _ ho).1, runLexical_tokens (by simpa using hok)]

theorem syntactic_of_source (hs : s.Coherent) (hc : s.Current) {o : SyntacticOutcome}
    (ho : s.syntactic? = some o) : o = checkStructure (Document.ofText s.source).tokens := by
  have h : s.progress ≠ .notStarted := fun hp => by
    rw [(hs.idle hp).1] at ho
    cases ho
  rw [hs.checked o ho, tokens_of_started hs hc h]

theorem semantic_of_source (hs : s.Coherent) (hc : s.Current) {o : SemanticOutcome}
    (ho : s.semantic? = some o) :
    o = checkNames .syntaxPassed (Document.ofText s.source).tokens := by
  obtain ⟨hp, he⟩ := hs.analyzed o ho
  rw [he, tokens_of_started hs hc (by simp [hp])]

/-- The stages that have run on the text. -/
def hasRun (s : Session) : Stage → Bool
  | .lexical => s.lexical?.isSome
  | .syntactic => s.syntactic?.isSome
  | .semantic => s.semantic?.isSome

/-- The session of a text with the outcomes of the stages that have run on it. -/
def showing (text : String) (hasRun : Stage → Bool) : Session where
  source := text
  lexical? := if hasRun .lexical then some (runLexical text) else none
  syntactic? :=
    if hasRun .syntactic then some (checkStructure (Document.ofText text).tokens) else none
  semantic? :=
    if hasRun .semantic then some (checkNames .syntaxPassed (Document.ofText text).tokens) else none

theorem eq_ite_of_forall {α : Type} {o : Option α} {a : α} (h : ∀ b, o = some b → b = a) :
    o = if o.isSome then some a else none := by
  cases o with
  | none => rfl
  | some b => rw [h b rfl]; rfl

theorem outcomes_eq_showing (hs : s.Coherent) (hc : s.Current) :
    s.lexical? = (showing s.source s.hasRun).lexical? ∧
      s.syntactic? = (showing s.source s.hasRun).syntactic? ∧
      s.semantic? = (showing s.source s.hasRun).semantic? :=
  ⟨eq_ite_of_forall hc, eq_ite_of_forall fun _ => syntactic_of_source hs hc,
    eq_ite_of_forall fun _ => semantic_of_source hs hc⟩

end Session

namespace Workbench

/-! ## Between steps -/

/-- What holds once the text has been brought up to date. -/
structure Settled (c : Config) (w : State) : Prop where
  source : w.session.source = w.code
  editor : c.richEditor = false → w.editor = w.code

theorem settled_sync (c : Config) (w : State) : Settled c (w.sync c) where
  source := Session.source_setSource _ _
  editor h := by simp [State.sync, h]

theorem settled_runTyped {c : Config} {first? : Option Typed}
    {steps : List (List Action × Option Typed)} {w : State}
    (h : State.runTyped c first? steps = .ok w) : Settled c w :=
  State.of_runTyped (settled_sync c _) (fun _ _ _ _ => settled_sync c _) h

/-! ## What is shown -/

/-- The tabs of a text, by the stages that have run on it and by what is to be listed. -/
def tabsOf (text : String) (hasRun : Stage → Bool) (showTokens showSymbols : Bool) : List Tab :=
  let w : State :=
    { session := .showing text hasRun, code := text, editor := text, showTokens, showSymbols }
  [diagnosticTab w, tokenTab w, symbolTab w]

/-- Only the outcomes and the preferences matter for the tabs. -/
theorem tabs_congr {v w : State} (hl : v.session.lexical? = w.session.lexical?)
    (hs : v.session.syntactic? = w.session.syntactic?)
    (hm : v.session.semantic? = w.session.semantic?) (ht : v.showTokens = w.showTokens)
    (hy : v.showSymbols = w.showSymbols) :
    [diagnosticTab v, tokenTab v, symbolTab v] = [diagnosticTab w, tokenTab w, symbolTab w] := by
  have hd : diagnosticRows v.session = diagnosticRows w.session := by
    rw [diagnosticRows, diagnosticRows, hl, hs, hm]
  have hk : tokenRows v.session = tokenRows w.session := by
    rw [tokenRows, tokenRows, listedTokens, listedTokens, hl]
  have hr : symbolRows v.session = symbolRows w.session := by
    rw [symbolRows, symbolRows, hm]
  unfold diagnosticTab tokenTab symbolTab
  rw [hd, hk, hr, hl, ht, hy]

/-- **A workbench shows results of its own text only.** After every run, whatever was edited, typed,
loaded, removed, pressed or preferred in its steps, and in whatever combination: the session has the
text that is shown, which is that of the text area where there is one; its outcomes are those of the
stages on this text; and the tabs can be told from the text and from which stages have run on it. -/
theorem view_of_runTyped {c : Config} {first? : Option Typed}
    {steps : List (List Action × Option Typed)} {w : State}
    (h : State.runTyped c first? steps = .ok w) (shown : Nat) :
    let v := view c shown w
    v.source = v.code ∧ (c.richEditor = false → v.editor = some v.code) ∧
    (∀ o, w.session.lexical? = some o → o = runLexical v.code) ∧
    (∀ o, w.session.syntactic? = some o →
      o.findings = Structure.check (Document.ofText v.code).tokens) ∧
    (∀ o, w.session.semantic? = some o →
      o.analysis = Names.analyze (Document.ofText v.code).tokens) ∧
    v.tabs = tabsOf v.code w.session.hasRun w.showTokens w.showSymbols := by
  intro v
  have hw := settled_runTyped h
  have hf := State.follows_runTyped h
  have hs := hf.coherent (Session.coherent_of_unread (Session.unread_start snippet))
  have hc := hf.current (Session.current_of_unread (Session.unread_start snippet))
  have hv : v.code = w.session.source := hw.source.symm
  refine ⟨hw.source, ?editor, ?_, ?_, ?_, ?tabs⟩
  case editor =>
    intro hr
    show (if c.richEditor then none else some w.editor) = some w.code
    rw [hr, hw.editor hr]
    rfl
  case tabs =>
    obtain ⟨hl, hy, hm⟩ := Session.outcomes_eq_showing hs hc
    rw [hv]
    exact tabs_congr hl hy hm rfl rfl
  all_goals
    intro o ho
    rw [hv]
  · exact hc o ho
  · rw [Session.syntactic_of_source hs hc ho, checkStructure_findings]
  · rw [Session.semantic_of_source hs hc ho, checkNames_analysis]

/-- A workbench with one sample and a text area. -/
def sampleConfig : Config := ⟨.builtIn, [⟨"a.mc", "int y = 2;"⟩], "utf-8", false⟩

/-- A sample is loaded, and edited while the first stage is asked for; then the others run. -/
def sampleSteps : List (List Action × Option Typed) :=
  [([.choose "a.mc", .showTokens false], none),
    ([.edit "x = 1;", .press (.stage .lexical)], none),
    ([.press (.stage .syntactic)], none),
    ([.press (.stage .semantic), .removeUpload], none)]

theorem view_of_runTyped_sample :
    ∃ w, State.runTyped sampleConfig none sampleSteps = .ok w ∧
      (view sampleConfig 0 w).source = "x = 1;" ∧ (view sampleConfig 0 w).editor = some "x = 1;" ∧
      (view sampleConfig 0 w).tabs = tabsOf "x = 1;" (fun _ => true) false true := by
  have hrun : (State.runTyped sampleConfig none sampleSteps).map
      (fun w => (w.code, Stage.all.map w.session.hasRun, w.showTokens, w.showSymbols)) =
        .ok ("x = 1;", [true, true, true], false, true) := by decide +kernel
  cases hw : State.runTyped sampleConfig none sampleSteps with
  | error e =>
    rw [hw] at hrun
    cases hrun
  | ok w =>
    rw [hw] at hrun
    simp only [Except.map, Except.ok.injEq, Prod.mk.injEq, Stage.all, List.map_cons, List.map_nil,
      List.cons.injEq, and_true] at hrun
    obtain ⟨hcode, ⟨hl, hs, hm⟩, ht, hy⟩ := hrun
    have hall : w.session.hasRun = fun _ => true := by
      funext stage
      cases stage <;> assumption
    obtain ⟨hsource, heditor, -, -, -, htabs⟩ := view_of_runTyped hw 0
    rw [hall, ht, hy] at htabs
    have hv : (view sampleConfig 0 w).code = "x = 1;" := hcode
    rw [hv] at hsource heditor htabs
    exact ⟨w, rfl, hsource, heditor rfl, htabs⟩

end Workbench

end StagedAnalysis

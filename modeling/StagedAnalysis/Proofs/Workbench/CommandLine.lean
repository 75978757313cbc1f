import StagedAnalysis.Proofs.CommandLine.ExitCode
import StagedAnalysis.Proofs.Outcome.Newlines
import StagedAnalysis.Proofs.Session.Console
import StagedAnalysis.Proofs.Session.Gate
import StagedAnalysis.Proofs.Workbench.Buttons
import StagedAnalysis.Proofs.Workbench.Loading
import StagedAnalysis.Proofs.Workbench.SampleFiles

/-!
# Workbench and command line

A file can be analyzed by the program at once, or opened in the workbench and taken through the
stages button by button. The two decode it in different ways and ask in different ways whether a
stage may run, but they come equally far and write the same.

* `Opens`: the ways a file comes into the workbench.
* `runAll_congr`: a full run depends on what reading hands on and on what was written before.
* `clickThrough_of_opens`: the workbench after a file was opened and the stages gone through.
* `execute_agrees_clickThrough`: the main statement.
-/

namespace StagedAnalysis

open Text (ReturnsBeforeFeeds unifyNewlines)

/-! ## Two texts that are read alike -/

theorem Session.runAll_congr {s t : Session} (hc : s.console = t.console)
    (h : (runLexical s.source).Alike (runLexical t.source)) :
    s.runAll.1.console = t.runAll.1.console ∧ s.runAll.2 = t.runAll.2 := by
  have hok : (runLexical s.source).ok = (runLexical t.source).ok := by
    rw [LexicalOutcome.ok, LexicalOutcome.ok, h.progress]
  have hp : s.runAll.2 = t.runAll.2 := by
    rw [runAll_progress, runAll_progress, hok, h.tokens]
  refine ⟨?_, hp⟩
  rw [runAll_console, runAll_console, hc, hp, h.tokens, h.console]

namespace CommandLine

/-- What the program does with a file in UTF-8. -/
theorem execute_of_utf8 (codecs : Registry) {home : Path} {env : Environment}
    {opener : Path → Except OpenError Bytes} {argv : List String} {logger : Logger} {file : String}
    {content : Bytes} {cs : List Char} (hlogger : (Settings.load home env).logger = .ok logger)
    (hargs : Asks (Settings.load home env).encoding (argv.drop 1) ⟨file, "utf-8"⟩)
    (hfile : hasNul file = false) (hopen : opener (Path.ofString file) = .ok content)
    (hd : Encoding.decodeUtf8 content = .ok cs) :
    execute codecs home env opener argv =
      .ok (logger, finish file (String.ofList (unifyNewlines cs))) := by
  have hread : readFile codecs opener file "utf-8" =
      .ok (.ok (String.ofList (unifyNewlines cs))) := by
    have hn : hasNul "utf-8" = false := by decide
    unfold readFile
    simp only [hn, hfile, hopen, decodeFile_utf8, hd]
    rfl
  rw [execute_eq_map_run hlogger]
  simp only [run, request?_eq_some_iff.2 hargs, hread]
  rfl

end CommandLine

namespace Workbench

open State (clickThrough)

/-- A file comes into the workbench as an upload with a good name, or by its name if it stands
among the samples. -/
inductive Opens (samples : Option FileTree) (name : String) (content : Bytes) : Action → Prop
  | upload : Upload.badName? ⟨name, content⟩ = none →
      Opens samples name content (.upload ⟨name, content⟩)
  | sample {t : FileTree} : samples = some t → isSampleName name = true →
      t.find? [name] = some (.file content) → Opens samples name content (.choose (some name))

/-- An upload in UTF-8 keeps its newlines. -/
theorem Upload.text_utf8 {u : Upload} {cs : List Char} (codecs : Registry)
    (h : Encoding.decodeUtf8 u.content = .ok cs) : u.text codecs "utf-8" = String.ofList cs := by
  simp [Upload.text, Registry.decoder_utf8, Encoding.Codec.decoder, Encoding.Codec.decode, h,
    Except.toOption]

variable {codecs : Registry} {c : Config} {samples : Option FileTree} {name : String}
  {content : Bytes} {cs : List Char} {opening : Action}

/-- However a file was opened, its text is read as the one with unified newlines is. -/
theorem exists_step_of_opens (hs : readSamples codecs "utf-8" samples = .ok c.samples)
    (he : c.encoding = "utf-8") (hd : Encoding.decodeUtf8 content = .ok cs)
    (hr : ReturnsBeforeFeeds cs) (ho : Opens samples name content opening) :
    ∃ w text, (State.start c none).step c [opening] none = .ok w ∧ w.Steady c ∧
      w.session = (Session.start snippet).load text (some name) ∧
      (Text.Blank text.toList ↔ Text.Blank cs) ∧
      (runLexical text).Alike (runLexical (String.ofList (unifyNewlines cs))) := by
  rw [State.start_eq_initial]
  have hinitial := State.steady_initial c
  cases ho with
  | upload hn =>
    obtain ⟨w, hw, hc, -, hl⟩ := hinitial.step_upload hn (by simp [initial])
      (State.offers_none initial)
    rw [he, Upload.text_utf8 c.codecs hd] at hl
    exact ⟨w, _, hw, hc, hl, by rw [String.toList_ofList], (runLexical_unifyNewlines hr).symm⟩
  | sample ht hn hf =>
    rw [ht] at hs
    obtain ⟨w, hw, hc, -, hl⟩ := hinitial.step_choose (sample?_of_readSamples hs hn hf hd)
      (by simp [initial]) (State.offers_none initial)
    refine ⟨w, _, hw, hc, hl, ?_, .refl _⟩
    rw [String.toList_ofList, Text.blank_unifyNewlines]

/-- The workbench ends where a full run on the text with unified newlines does. -/
theorem clickThrough_of_opens (hs : readSamples codecs "utf-8" samples = .ok c.samples)
    (he : c.encoding = "utf-8") (hd : Encoding.decodeUtf8 content = .ok cs) (hb : ¬Text.Blank cs)
    (hr : ReturnsBeforeFeeds cs) (ho : Opens samples name content opening) :
    let s := (Session.start "").load (String.ofList (unifyNewlines cs)) (some name)
    ∃ w, clickThrough c opening = .ok w ∧ w.session.console = s.runAll.1.console ∧
      w.session.progress = s.runAll.2 := by
  intro s
  obtain ⟨w, text, hw, hc, hl, ht, ha⟩ := exists_step_of_opens hs he hd hr ho
  have hrun : w.session.canRun .lexical = true := by
    rw [hl]
    exact Session.canRun_lexical.2 ⟨mt ht.1 hb, rfl⟩
  obtain ⟨w', hw', hs'⟩ := hc.clickStages hrun
  have hconsole : w.session.console = s.console := by
    rw [hl, Session.console_load, Session.console_load]
    rfl
  have hlexical : (runLexical w.session.source).Alike (runLexical s.source) := by
    rw [hl]
    exact ha
  obtain ⟨hcs, hps⟩ := Session.runAll_congr hconsole hlexical
  refine ⟨w', ?_, ?_, ?_⟩
  · rw [clickThrough, hw]
    exact hw'
  · rw [hs', Session.stepwise_eq_runAll, hcs]
  · rw [hs', Session.stepwise_eq_runAll, ← hps]
    rfl

theorem of_setUp {settings : Settings} {installed : Bool} {logger : Logger}
    (h : setUp codecs settings installed samples = .ok (logger, c)) :
    settings.logger = .ok logger ∧ readSamples codecs settings.encoding samples = .ok c.samples ∧
      c.encoding = settings.encoding := by
  unfold setUp at h
  cases hl : settings.logger with
  | error e =>
    rw [hl] at h
    cases h
  | ok l =>
    cases hs : readSamples codecs settings.encoding samples with
    | error e =>
      rw [hl, hs] at h
      cases h
    | ok read =>
      rw [hl, hs] at h
      cases h
      exact ⟨rfl, rfl, rfl⟩

/-- **Workbench and command line agree on a file.** Let the file be in UTF-8, the encoding of the
settings, hold more than blanks, and have no carriage return but before line feeds. Then opening it
in a new workbench, as an upload that keeps its newlines or as a sample that unifies them, and
pressing the first button and each of the others that is enabled, leaves the transcript that the
program prints for it; and how far the stages have come is what the exit code says. As nothing is
typed it does not matter how the text is edited. -/
theorem execute_agrees_clickThrough {home : Path} {env : Environment}
    {opener : Path → Except OpenError Bytes} {argv : List String} {installed : Bool}
    {logger : Logger} {file : String}
    (hsetup : setUp codecs (Settings.load home env) installed samples = .ok (logger, c))
    (henc : (Settings.load home env).encoding = "utf-8")
    (hargs : CommandLine.Asks (Settings.load home env).encoding (argv.drop 1) ⟨file, "utf-8"⟩)
    (hfile : hasNul file = false) (hopen : opener (Path.ofString file) = .ok content)
    (hd : Encoding.decodeUtf8 content = .ok cs) (hb : ¬Text.Blank cs)
    (hr : ReturnsBeforeFeeds cs) (ho : Opens samples (Path.ofString file).name content opening) :
    ∃ exit w, CommandLine.execute codecs home env opener argv = .ok (logger, exit) ∧
      clickThrough c opening = .ok w ∧
      exit.stdout = w.session.transcript ++ "\n" ∧
      (w.session.progress = .notStarted ↔ exit.code = 2) ∧
      (w.session.progress = .lexPassed ↔ exit.code = 3) ∧
      (w.session.progress = .syntaxPassed ↔ exit.code = 0) := by
  obtain ⟨hlogger, hsamples, hc⟩ := of_setUp hsetup
  obtain ⟨w, hw, hconsole, hprogress⟩ :=
    clickThrough_of_opens (henc ▸ hsamples) (hc.trans henc) hd hb hr ho
  have hrun := CommandLine.execute_of_utf8 codecs hlogger hargs hfile hopen hd
  let source := String.ofList (unifyNewlines cs)
  refine ⟨CommandLine.finish file source, w, hrun, hw, ?transcript, ?_⟩
  case transcript =>
    show (CommandLine.analysis file source).transcript ++ "\n" = _
    rw [Session.transcript, Session.transcript, hconsole]
    rfl
  have hcode : (CommandLine.finish file source).code =
      CommandLine.exitCode (CommandLine.analysis file source) := rfl
  have hcome : w.session.progress = (CommandLine.opened file source).runAll.2 := hprogress
  have hblank : ¬Text.Blank source.toList := by
    rwa [String.toList_ofList, Text.blank_unifyNewlines]
  -- of the codes only that of blank text is not told by the progress
  rw [hcode, hcome]
  rcases CommandLine.exitCode_cases file source with
    ⟨h, -⟩ | ⟨-, ⟨hp, hc⟩ | ⟨hp, hc⟩ | ⟨hp, hc⟩⟩
  · exact absurd h hblank
  all_goals simp [hp, hc]

/-- A program whose one line ends in a carriage return and a line feed. -/
def returnBytes : Bytes := [0x78, 0x20, 0x3D, 0x20, 0x31, 0x0D, 0x0A]

/-- A directory where it stands. -/
def returnTree : FileTree := ⟨[(["p.mc"], returnBytes)], []⟩

theorem execute_agrees_clickThrough_sample :
    ∃ c, setUp .builtIn (Settings.load (Path.ofString ".") {}) false (some returnTree) =
        .ok (⟨.warning, [Logger.format]⟩, c) ∧
      ∀ opening ∈ [Action.upload ⟨"p.mc", returnBytes⟩, .choose (some "p.mc")],
        Opens (some returnTree) "p.mc" returnBytes opening ∧
        ∃ exit w,
          CommandLine.execute .builtIn (Path.ofString ".") {} returnTree.read
            ["minicompiler", "p.mc"] = .ok (⟨.warning, [Logger.format]⟩, exit) ∧
          clickThrough c opening = .ok w ∧ exit.stdout = w.session.transcript ++ "\n" ∧
          w.session.progress = .lexPassed ∧ exit.code = 3 := by
  have hsetup : setUp .builtIn (Settings.load (Path.ofString ".") {}) false (some returnTree) =
      .ok (⟨.warning, [Logger.format]⟩,
        ⟨.builtIn, (sampleFiles returnTree).filterMap Sample.ofUtf8?, "utf-8", false⟩) := by
    have he : (Settings.load (Path.ofString ".") {}).encoding = "utf-8" := rfl
    rw [setUp, he, readSamples_utf8]
    rfl
  have hd : Encoding.decodeUtf8 returnBytes = .ok ['x', ' ', '=', ' ', '1', '\r', '\n'] := by
    decide +kernel
  have hargs : CommandLine.Asks (Settings.load (Path.ofString ".") {}).encoding
      (["minicompiler", "p.mc"].drop 1) ⟨"p.mc", "utf-8"⟩ := .file (by decide)
  have hopen : returnTree.read (Path.ofString "p.mc") = .ok returnBytes := rfl
  have hname : (Path.ofString "p.mc").name = "p.mc" := by decide +kernel
  refine ⟨_, hsetup, fun opening h => ?_⟩
  have ho : Opens (some returnTree) "p.mc" returnBytes opening := by
    simp only [List.mem_cons, List.not_mem_nil, or_false] at h
    rcases h with rfl | rfl
    · exact .upload (by decide +kernel)
    · exact .sample rfl (by decide +kernel) rfl
  obtain ⟨exit, w, hrun, hw, hout, -, hcode, -⟩ :=
    execute_agrees_clickThrough hsetup rfl hargs (by decide) hopen hd (by decide) (by decide)
      (hname.symm ▸ ho)
  have hthree : (CommandLine.execute .builtIn (Path.ofString ".") {} returnTree.read
      ["minicompiler", "p.mc"]).map (fun r => r.2.code) = .ok 3 := by decide +kernel
  rw [hrun] at hthree
  have hthree : exit.code = 3 := Except.ok.inj hthree
  exact ⟨ho, exit, w, hrun, hw, hout, hcode.2 hthree, hthree⟩

end Workbench

end StagedAnalysis

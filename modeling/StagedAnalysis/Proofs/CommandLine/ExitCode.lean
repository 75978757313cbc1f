import StagedAnalysis.Proofs.CommandLine.Arguments
import StagedAnalysis.Proofs.Session.FullRun

/-!
# Exit codes

Once its file has been read, the exit of the program is a function of the text: the code says which
stage found something that stops it, and the output has the lines of each stage that ran.

* `exitCode_cases`, `exitCode_of_text`: the code by how far a full run comes, and by the text.
* `finish_stdout`: what is printed.
* `execute_of_read`: the main statement.
-/

namespace StagedAnalysis

/-- A path with parts has a name. -/
theorem Path.name_ofString_ne_empty {s : String} (h : (Path.ofString s).parts ≠ []) :
    (Path.ofString s).name ≠ "" := by
  have hm := List.getLast_mem h
  have hp : (Path.ofString s).name = (Path.ofString s).parts.getLast h := by
    rw [Path.name, List.getLast?_eq_getLast_of_ne_nil h, Option.getD_some]
  have hf := (List.mem_filter.1 hm).2
  rw [hp]
  simp only [Bool.and_eq_true, bne_iff_ne, ne_eq] at hf
  exact hf.1

/-- The working directory and the root are no files. -/
theorem FileTree.read_of_no_parts {t : FileTree} (h : t.files.lookup [] = none) (root : String)
    (content : Bytes) : t.read ⟨root, []⟩ ≠ .ok content := by
  unfold FileTree.read
  split
  · simp
  · by_cases hr : root = "" <;> simp [hr, FileTree.walk, FileTree.nodeAt, FileTree.find?, h]

/-- A file that has been read was opened. -/
theorem exists_of_readFile {codecs : Registry} {opener : Path → Except OpenError Bytes}
    {file encoding source : String} (h : readFile codecs opener file encoding = .ok (.ok source)) :
    ∃ content, opener (Path.ofString file) = .ok content := by
  unfold readFile at h
  dsimp only at h
  split at h
  · cases h
  · split at h
    · cases h
    · cases ho : opener (Path.ofString file) with
      | error e =>
        rw [ho] at h
        cases h
      | ok content => exact ⟨content, rfl⟩

namespace CommandLine

open Session (openedLine runAll_notStarted_iff runAll_lexPassed_iff runAll_syntaxPassed_iff)

/-! ## The session behind an exit -/

/-- The session that has taken the text of a file. -/
def opened (file source : String) : Session :=
  (Session.start "").load source (some (Path.ofString file).name)

theorem opened_console {file : String} (h : (Path.ofString file).name ≠ "") (source : String) :
    (opened file source).console = [openedLine (Path.ofString file).name] := by
  simp [opened, Session.load, h, Session.print, Session.reset, Session.start]

/-- Blank text is not started on. -/
theorem notStarted_of_blank (file : String) {source : String} (h : Text.Blank source.toList) :
    (opened file source).runAll.2 = .notStarted :=
  (opened file source).runAll_notStarted_iff.2 (.inr (ok_and_tokens_eq_nil_iff.2 h).2)

/-- The code tells blank text from other text that is not started on, and else how far the stages
have come. -/
theorem exitCode_cases (file source : String) :
    let p := (opened file source).runAll.2
    let code := exitCode (analysis file source)
    Text.Blank source.toList ∧ p = .notStarted ∧ code = 1 ∨
      ¬Text.Blank source.toList ∧
        (p = .notStarted ∧ code = 2 ∨ p = .lexPassed ∧ code = 3 ∨
          p = .syntaxPassed ∧ code = 0) := by
  intro p code
  have hl : (analysis file source).lexical? = some (runLexical source) :=
    (opened file source).runAll_lexical?
  have hp : (analysis file source).progress = p := rfl
  by_cases hb : Text.Blank source.toList
  · have hn := noCode_runLexical_iff.2 hb
    exact .inl ⟨hb, notStarted_of_blank file hb, by simp [code, exitCode, hl, hn]⟩
  · have hn : (runLexical source).noCode = false :=
      Bool.eq_false_iff.2 (mt noCode_runLexical_iff.1 hb)
    refine .inr ⟨hb, ?_⟩
    cases hpc : p with
    | notStarted => exact .inl ⟨rfl, by simp [code, exitCode, hl, hn, hp, hpc]⟩
    | lexPassed => exact .inr (.inl ⟨rfl, by simp [code, exitCode, hl, hn, hp, hpc]⟩)
    | syntaxPassed => exact .inr (.inr ⟨rfl, by simp [code, exitCode, hl, hn, hp, hpc]⟩)

/-- The code by what is wrong with the text, the first thing first. -/
theorem exitCode_of_text (file source : String) :
    let code := exitCode (analysis file source)
    let findings := Structure.check (Document.ofText source).tokens
    Text.Blank source.toList ∧ code = 1 ∨
      ¬Text.Blank source.toList ∧
        (FailsOnLine source ∧ code = 2 ∨
          ¬FailsOnLine source ∧ (findings ≠ [] ∧ code = 3 ∨ findings = [] ∧ code = 0)) := by
  intro code findings
  have h1 : (opened file source).runAll.2 = .notStarted ↔
      FailsOnLine source ∨ (Document.ofText source).tokens = [] := runAll_notStarted_iff _
  have h2 : (opened file source).runAll.2 = .lexPassed ↔
      (opened file source).runAll.2 ≠ .notStarted ∧ findings ≠ [] := runAll_lexPassed_iff _
  have h3 : (opened file source).runAll.2 = .syntaxPassed ↔
      (opened file source).runAll.2 ≠ .notStarted ∧ findings = [] := runAll_syntaxPassed_iff _
  have hok (hn : (opened file source).runAll.2 ≠ .notStarted) : ¬FailsOnLine source :=
    fun hf => hn (h1.2 (.inl hf))
  rcases exitCode_cases file source with ⟨hb, -, hc⟩ | ⟨hb, ⟨hp, hc⟩ | ⟨hp, hc⟩ | ⟨hp, hc⟩⟩
  · exact .inl ⟨hb, hc⟩
  · refine .inr ⟨hb, .inl ⟨?_, hc⟩⟩
    -- without a failing line there are no tokens, so the text would be blank
    rcases h1.1 hp with hf | ht
    · exact hf
    · by_contra hf
      rw [failsOnLine_iff, Bool.not_eq_false] at hf
      exact hb (ok_and_tokens_eq_nil_iff.1 ⟨hf, ht⟩)
  · obtain ⟨hn, hf⟩ := h2.1 hp
    exact .inr ⟨hb, .inr ⟨hok hn, .inl ⟨hf, hc⟩⟩⟩
  · obtain ⟨hn, hf⟩ := h3.1 hp
    exact .inr ⟨hb, .inr ⟨hok hn, .inr ⟨hf, hc⟩⟩⟩

/-! ## What is printed -/

theorem finish_stdout {file : String} (h : (Path.ofString file).name ≠ "") (source : String) :
    let code := exitCode (analysis file source)
    let tokens := (runLexical source).tokens
    (finish file source).stdout =
      Text.unlines (openedLine (Path.ofString file).name :: (runLexical source).console ++
        (if code = 3 ∨ code = 0 then (checkStructure tokens).console else []) ++
        (if code = 0 then (checkNames .syntaxPassed tokens).console else [])) ++ "\n" := by
  intro code tokens
  have hc := (opened file source).runAll_console
  rw [opened_console h] at hc
  have h30 : (code = 3 ∨ code = 0) ↔ (opened file source).runAll.2 ≠ .notStarted := by
    rcases exitCode_cases file source with
      ⟨-, hp, hc⟩ | ⟨-, ⟨hp, hc⟩ | ⟨hp, hc⟩ | ⟨hp, hc⟩⟩ <;> simp [code, hp, hc]
  have h0 : code = 0 ↔ (opened file source).runAll.2 = .syntaxPassed := by
    rcases exitCode_cases file source with
      ⟨-, hp, hc⟩ | ⟨-, ⟨hp, hc⟩ | ⟨hp, hc⟩ | ⟨hp, hc⟩⟩ <;> simp [code, hp, hc]
  rw [if_congr h30 rfl rfl, if_congr h0 rfl rfl]
  exact congrArg (fun ls => Text.unlines ls ++ "\n") hc

/-! ## The exit -/

/-- With a level that can be set, the program comes to what its run comes to. -/
theorem execute_eq_map_run {home : Path} {env : Environment} {logger : Logger}
    (hlogger : (Settings.load home env).logger = .ok logger) (codecs : Registry)
    (opener : Path → Except OpenError Bytes) (argv : List String) :
    execute codecs home env opener argv =
      (run codecs (Settings.load home env) opener argv).map fun exit => (logger, exit) := by
  simp only [execute, hlogger]
  cases run codecs (Settings.load home env) opener argv <;> rfl

/-- **The exit of a run.** Where the arguments ask for a file and it can be read, the code is 1 for
blank text, 2 for a line that cannot be tokenized, 3 for findings in the structure, and 0 otherwise,
whatever is found in the names. The output tells which file was opened and then has the lines of the
stages that ran; no stage writes to the error stream. No opener reads a path without parts, which
leads to a directory. -/
theorem execute_of_read {codecs : Registry} {home : Path} {env : Environment}
    {opener : Path → Except OpenError Bytes} {argv : List String} {logger : Logger}
    {request : Request} {source : String}
    (hlogger : (Settings.load home env).logger = .ok logger)
    (hargs : Asks (Settings.load home env).encoding (argv.drop 1) request)
    (hopener : ∀ root content, opener ⟨root, []⟩ ≠ .ok content)
    (hread : readFile codecs opener request.file request.encoding = .ok (.ok source)) :
    ∃ exit, execute codecs home env opener argv = .ok (logger, exit) ∧
      let findings := Structure.check (Document.ofText source).tokens
      let tokens := (runLexical source).tokens
      (exit.code = 1 ↔ Text.trim source.toList = []) ∧
      (exit.code = 2 ↔ Text.trim source.toList ≠ [] ∧ FailsOnLine source) ∧
      (exit.code = 3 ↔ Text.trim source.toList ≠ [] ∧ ¬FailsOnLine source ∧ findings ≠ []) ∧
      (exit.code = 0 ↔ Text.trim source.toList ≠ [] ∧ ¬FailsOnLine source ∧ findings = []) ∧
      exit.stdout =
        Text.unlines (("Opened file: " ++ (Path.ofString request.file).name) ::
          (runLexical source).console ++
          (if exit.code = 3 ∨ exit.code = 0 then (checkStructure tokens).console else []) ++
          (if exit.code = 0 then (checkNames .syntaxPassed tokens).console else [])) ++ "\n" ∧
      exit.stderr = "" := by
  have hname : (Path.ofString request.file).name ≠ "" := by
    refine Path.name_ofString_ne_empty fun hparts => ?_
    have hpath : Path.ofString request.file = ⟨(Path.ofString request.file).root, []⟩ := by
      rw [← hparts]
    obtain ⟨content, hc⟩ := exists_of_readFile hread
    exact hopener _ _ (hpath ▸ hc)
  refine ⟨finish request.file source, ?run, ?_⟩
  case run =>
    rw [execute_eq_map_run hlogger]
    simp only [run, request?_eq_some_iff.2 hargs, hread]
    rfl
  have hcode : (finish request.file source).code = exitCode (analysis request.file source) := rfl
  simp only [hcode, Text.trim_eq_nil_iff, ne_eq]
  refine ⟨?_, ?_, ?_, ?_, finish_stdout hname source, rfl⟩ <;>
    rcases exitCode_of_text request.file source with
      ⟨hb, hc⟩ | ⟨hb, ⟨hf, hc⟩ | ⟨hf, ⟨hs, hc⟩ | ⟨hs, hc⟩⟩⟩ <;> simp [*]

/-- A directory with one program, whose one assignment is not ended. -/
def sampleTree : FileTree :=
  ⟨[(["src", "p.mc"], [0x78, 0x20, 0x3D, 0x20, 0x31, 0x0D, 0x0A])], []⟩

theorem execute_of_read_sample :
    readFile .builtIn sampleTree.read "src/p.mc" "latin-1" = .ok (.ok "x = 1\n") ∧
    ∃ exit, execute .builtIn (Path.ofString ".") { logLevel := some "debug" } sampleTree.read
        ["minicompiler", "src/p.mc", "--encoding", "latin-1"] =
          .ok (⟨.debug, [Logger.format]⟩, exit) ∧
      exit.code = 3 ∧
      exit.stdout =
        Text.unlines ["Opened file: p.mc", "--- Lexical Analysis ---", "Tokens:",
          "[IDENTIFIER] x", "[ASSIGNMENT] =", "[NUMBER] 1", "--- Syntax Analysis ---",
          "Syntax Errors:", "Missing semicolon at or after assignment on line 1."] ++ "\n" ∧
      exit.stderr = "" := by
  have hlogger : (Settings.load (Path.ofString ".") { logLevel := some "debug" }).logger =
      .ok ⟨.debug, [Logger.format]⟩ := rfl
  have hargs : Asks (Settings.load (Path.ofString ".") { logLevel := some "debug" }).encoding
      (["minicompiler", "src/p.mc", "--encoding", "latin-1"].drop 1) ⟨"src/p.mc", "latin-1"⟩ :=
    .fileFirst "latin-1" (by decide)
  have hread : readFile .builtIn sampleTree.read "src/p.mc" "latin-1" = .ok (.ok "x = 1\n") := rfl
  refine ⟨hread, ?_⟩
  obtain ⟨exit, hrun, -, -, h3, -, hout, herr⟩ :=
    execute_of_read hlogger hargs (fun root => FileTree.read_of_no_parts rfl root) hread
  have hfails : ¬FailsOnLine "x = 1\n" := by
    rw [failsOnLine_iff]
    decide +kernel
  have hcode : exit.code = 3 := h3.2 ⟨by decide, hfails, by decide +kernel⟩
  refine ⟨exit, hrun, hcode, ?_, herr⟩
  rw [hout, hcode]
  exact congrArg (Text.unlines · ++ "\n") (by decide +kernel)

end CommandLine

end StagedAnalysis

import StagedAnalysis.Proofs.CommandLine.ExitCode

/-!
# What a run reads

A run reads one file in one encoding, or none. Which one that is can be told without a look into the
run: however files might be read, the run comes to what reading just this one gives. The arguments
decide it, and the environment has a say only where they name no encoding.

* `runWith`: the run with any other way to read.
* `Reads`, `reads_iff`: what a run reads is what its arguments ask for.
* `execute_arguments`: the main statement.
-/

namespace StagedAnalysis.CommandLine

/-! ## Other ways to read -/

/-- What a run comes to once the file has been read, or has not. -/
def conclude (file : String) : Except Fault (Except Unreadable String) → Except Fault Exit
  | .error f => .error f
  | .ok (.error u) => .ok (rejected ("Could not read file: " ++ u.message))
  | .ok (.ok source) => .ok (finish file source)

/-- The run with any way to come by the text of a file in an encoding. -/
def runWith (encoding : String) (read : String → String → Except Fault (Except Unreadable String))
    (argv : List String) : Except Fault Exit :=
  match request? encoding (argv.drop 1) with
  | none => .ok (rejected usage)
  | some r => conclude r.file (read r.file r.encoding)

theorem run_eq_runWith (codecs : Registry) (settings : Settings)
    (opener : Path → Except OpenError Bytes) (argv : List String) :
    run codecs settings opener argv = runWith settings.encoding (readFile codecs opener) argv := by
  unfold run runWith
  cases request? settings.encoding (argv.drop 1) with
  | none => rfl
  | some r => rcases readFile codecs opener r.file r.encoding with _ | _ | _ <;> rfl

section
variable {encoding : String} {argv : List String} {r : Request}
  {read : String → String → Except Fault (Except Unreadable String)}

theorem runWith_of_asks (h : Asks encoding (argv.drop 1) r) :
    runWith encoding read argv = conclude r.file (read r.file r.encoding) := by
  simp only [runWith, request?_eq_some_iff.2 h]

theorem runWith_of_not_asks (h : ∀ r, ¬Asks encoding (argv.drop 1) r) :
    runWith encoding read argv = .ok (rejected usage) := by
  simp only [runWith, request?_eq_none_iff.2 h]

/-! ## What is read -/

/-- However files are read, the run comes to what this file in this encoding gives. -/
def Reads (encoding : String) (argv : List String) (r : Request) : Prop :=
  ∀ read, runWith encoding read argv = conclude r.file (read r.file r.encoding)

theorem reads_iff : Reads encoding argv r ↔ Asks encoding (argv.drop 1) r := by
  refine ⟨fun h => ?_, fun h read => runWith_of_asks h⟩
  -- one fault for the file that is said to be read, and another for every other file
  have hread := h fun f e =>
    .error (if (⟨f, e⟩ : Request) = r then .nulInEncoding else .nulForSystem)
  by_cases hasks : ∃ r', Asks encoding (argv.drop 1) r'
  · obtain ⟨r', hr'⟩ := hasks
    rw [runWith_of_asks hr'] at hread
    have hfault := Except.error.inj hread
    by_cases he : r' = r
    · exact he ▸ hr'
    · simp [he] at hfault
  · rw [runWith_of_not_asks (not_exists.1 hasks)] at hread
    cases hread

/-- The arguments that ask for a file, one by one. -/
theorem asks_iff {args : List String} {f e : String} :
    Asks encoding args ⟨f, e⟩ ↔
      args = [f] ∧ f ≠ encodingOption ∧ e = encoding ∨
      args = [f, encodingOption, e] ∧ f ≠ encodingOption ∨
      args = [encodingOption, e, f] := by
  constructor
  · rintro (hf | ⟨_, hf⟩ | _)
    · exact .inl ⟨rfl, hf, rfl⟩
    · exact .inr (.inl ⟨rfl, hf⟩)
    · exact .inr (.inr rfl)
  · rintro (⟨rfl, hf, rfl⟩ | ⟨rfl, hf⟩ | rfl)
    · exact .file hf
    · exact .fileFirst e hf
    · exact .encodingFirst e f

/-- Where the option stands, no other encoding is asked for. -/
theorem Asks.congr {encoding' : String} {args : List String} (ho : encodingOption ∈ args)
    (h : Asks encoding args r) : Asks encoding' args r := by
  cases h with
  | file hf => exact absurd (List.mem_singleton.1 ho).symm hf
  | fileFirst e hf => exact .fileFirst e hf
  | encodingFirst e f => exact .encodingFirst e f

theorem runWith_of_option {encoding' : String} (ho : encodingOption ∈ argv.drop 1) :
    runWith encoding read argv = runWith encoding' read argv := by
  by_cases hasks : ∃ r, Asks encoding (argv.drop 1) r
  · obtain ⟨r, hr⟩ := hasks
    rw [runWith_of_asks hr, runWith_of_asks (hr.congr ho)]
  · rw [runWith_of_not_asks (not_exists.1 hasks),
      runWith_of_not_asks fun r hr => hasks ⟨r, hr.congr ho⟩]

end

/-! ## The program -/

theorem logger_load_encoding (home : Path) (env : Environment) (encoding? : Option String) :
    (Settings.load home { env with encoding := encoding? }).logger =
      (Settings.load home env).logger := by
  simp only [Settings.logger, Settings.load]

theorem execute_eq_runWith {codecs : Registry} {home : Path} {env : Environment} {logger : Logger}
    (h : (Settings.load home env).logger = .ok logger) (opener : Path → Except OpenError Bytes)
    (argv : List String) :
    execute codecs home env opener argv =
      (runWith (Settings.load home env).encoding (readFile codecs opener) argv).map
        fun exit => (logger, exit) := by
  rw [execute_eq_map_run h, run_eq_runWith]

/-- **The grammar of the arguments.** A file is read exactly if it is the only argument, in the
encoding of the environment, or stands beside the option with its value, which may be anything; a
file with the name of the option has to stand behind it. The run then comes to what reading gives.
All other arguments end in a line on the usage, whatever files there are. So the place of the option
does not matter, with the option the encoding of the environment does not, and to name an encoding
is to have it in the environment. -/
theorem execute_arguments {codecs : Registry} {home : Path} {env : Environment} {logger : Logger}
    (hlogger : (Settings.load home env).logger = .ok logger) :
    let encoding := env.encoding.getD "utf-8"
    (∀ argv f e, Reads encoding argv ⟨f, e⟩ ↔
      argv.drop 1 = [f] ∧ f ≠ encodingOption ∧ e = encoding ∨
      argv.drop 1 = [f, encodingOption, e] ∧ f ≠ encodingOption ∨
      argv.drop 1 = [encodingOption, e, f]) ∧
    (∀ argv r, Reads encoding argv r → ∀ opener, execute codecs home env opener argv =
      (conclude r.file (readFile codecs opener r.file r.encoding)).map fun exit => (logger, exit)) ∧
    (∀ argv, (∀ r, ¬Reads encoding argv r) → ∀ opener,
      execute codecs home env opener argv = .ok (logger, ⟨1, "", usage ++ "\n", []⟩)) ∧
    (∀ opener name f e, f ≠ encodingOption →
      execute codecs home env opener [name, f, encodingOption, e] =
        execute codecs home env opener [name, encodingOption, e, f]) ∧
    (∀ opener argv encoding?, encodingOption ∈ argv.drop 1 →
      execute codecs home { env with encoding := encoding? } opener argv =
        execute codecs home env opener argv) ∧
    ∀ opener name f e encoding?, f ≠ encodingOption →
      execute codecs home { env with encoding := some e } opener [name, f] =
        execute codecs home { env with encoding := encoding? } opener
          [name, f, encodingOption, e] := by
  intro encoding
  -- the level is that of the environment, whatever its encoding
  have hexecute (encoding? : Option String) (opener : Path → Except OpenError Bytes)
      (argv : List String) : execute codecs home { env with encoding := encoding? } opener argv =
        (runWith (encoding?.getD "utf-8") (readFile codecs opener) argv).map
          fun exit => (logger, exit) :=
    execute_eq_runWith ((logger_load_encoding home env encoding?).trans hlogger) opener argv
  refine ⟨fun argv f e => reads_iff.trans asks_iff, fun argv r h opener => ?_,
    fun argv h opener => ?_, fun opener name f e hf => ?_, fun opener argv encoding? ho => ?_,
    fun opener name f e encoding? hf => ?_⟩
  · rw [hexecute env.encoding, h]
  · rw [hexecute env.encoding, runWith_of_not_asks fun r hr => h r (reads_iff.2 hr)]
    rfl
  · rw [hexecute env.encoding, hexecute env.encoding, runWith_of_asks (.fileFirst e hf),
      runWith_of_asks (.encodingFirst e f)]
  · rw [hexecute encoding?, hexecute env.encoding, runWith_of_option ho]
  · rw [hexecute (some e), hexecute encoding?, Option.getD_some, runWith_of_asks (.file hf),
      runWith_of_asks (.fileFirst e hf)]

/-- The option may be its own value and the name of the file as well; alone it asks for nothing. -/
theorem execute_arguments_sample :
    (Settings.load (Path.ofString ".") { encoding := some "latin-1" }).logger =
      .ok ⟨.warning, [Logger.format]⟩ ∧
    Reads "latin-1" ["minicompiler", "--encoding", "--encoding", "--encoding"]
      ⟨"--encoding", "--encoding"⟩ ∧
    execute .builtIn (Path.ofString ".") { encoding := some "latin-1" } sampleTree.read
        ["minicompiler", "--encoding", "--encoding", "--encoding"] =
      .ok (⟨.warning, [Logger.format]⟩, rejected
        "Could not read file: [Errno 2] No such file or directory: '--encoding'") ∧
    execute .builtIn (Path.ofString ".") { encoding := some "latin-1" } sampleTree.read
        ["minicompiler", "--encoding"] =
      .ok (⟨.warning, [Logger.format]⟩, rejected usage) := by
  have hlogger : (Settings.load (Path.ofString ".") { encoding := some "latin-1" }).logger =
      .ok ⟨.warning, [Logger.format]⟩ := rfl
  obtain ⟨hreads, hread, hrefused, -⟩ := execute_arguments hlogger
  have hself : Reads "latin-1" ["minicompiler", "--encoding", "--encoding", "--encoding"]
      ⟨"--encoding", "--encoding"⟩ := (hreads _ _ _).2 (.inr (.inr rfl))
  have hmissing : readFile .builtIn sampleTree.read "--encoding" "--encoding" =
      .ok (.error (.unopened .notFound (Path.ofString "--encoding"))) := rfl
  have hmessage : "Could not read file: " ++
      (Unreadable.unopened .notFound (Path.ofString "--encoding")).message =
        "Could not read file: [Errno 2] No such file or directory: '--encoding'" := by
    decide +kernel
  refine ⟨hlogger, hself, ?_, hrefused _ (fun r hr => ?_) _⟩
  · rw [hread _ _ hself, hmissing, ← hmessage]
    rfl
  · rcases (hreads _ r.file r.encoding).1 hr with ⟨hf, hne, -⟩ | ⟨hf, -⟩ | hf
    · exact hne (List.cons.inj hf).1.symm
    · simp at hf
    · simp at hf

end StagedAnalysis.CommandLine

import StagedAnalysis.Proofs.CommandLine.ExitCode
import StagedAnalysis.Proofs.Encoding.Failure

/-!
# Files without a text

A file that was asked for may have no text in the encoding that was asked for. Either that is
reported in one line, or there is a fault and the program ends without an exit. There also is none
where the output stream refuses what is to be printed.

Which codecs there are beside the built-in ones does not matter, as long as what they say of bytes
is one line.

* `HasText`, `Escapes`: the file has a text, or what is asked for is a fault.
* `readFile_cases`, `run_cases`, `perform_cases`: what becomes of a file, of the run, and of the
  program with its output.
* `perform_load_failure`: the main statement.
-/

namespace StagedAnalysis

open Encoding (Codec Decoder ByteOrder FileFault decodeUtf16 markMissing)
open Text (SingleLine singleLine_append)

/-! ## Codecs -/

/-- What the other codecs say of bytes that are no characters is one line. -/
def Registry.SaysOneLine (codecs : Registry) : Prop :=
  ∀ name d bs message, codecs.other name = .ok d →
    d.decodeFile bs = .error (.undecodable message) → SingleLine message

/-! ## Reading a file -/

theorem OpenError.singleLine_message (e : OpenError) (path : Path) :
    SingleLine (e.message path) := by
  have hreason : SingleLine e.reason := by cases e <;> decide
  simp only [message, singleLine_append]
  exact ⟨⟨⟨⟨⟨by decide, Text.singleLine_toString_nat _⟩, by decide⟩, hreason⟩, by decide⟩,
    Text.singleLine_quoted _⟩

section
variable (codecs : Registry) (opener : Path → Except OpenError Bytes) (file encoding : String)

/-- The file has this content, and the system takes the names of the file and of the encoding. -/
structure OpensTo (content : Bytes) : Prop where
  goodEncoding : hasNul encoding = false
  goodFile : hasNul file = false
  opened : opener (Path.ofString file) = .ok content

/-- The file has this text in the encoding. -/
def HasText (source : String) : Prop :=
  ∃ content d, OpensTo opener file encoding content ∧ codecs.decoder encoding = .ok d ∧
    d.readText content = .ok source

/-- What is asked for is a fault. -/
inductive Escapes : Fault → Prop
  | nulInEncoding : hasNul encoding = true → Escapes .nulInEncoding
  | nulInFile : hasNul encoding = false → hasNul file = true → Escapes .nulForSystem
  | notFound {content : Bytes} {f : Fault} : OpensTo opener file encoding content →
      Codec.ofName? encoding = none → codecs.other encoding = .error f → Escapes f
  | noByteOrderMark {content : Bytes} {cs : List Char} : OpensTo opener file encoding content →
      Codec.ofName? encoding = some .utf16 → 2 ≤ content.length →
      ByteOrder.ofMark? content = none → decodeUtf16 .little 0 content = .ok cs →
      Escapes (.refused markMissing)
  | refused {content : Bytes} {d : Decoder} {message : String} :
      OpensTo opener file encoding content → Codec.ofName? encoding = none →
      codecs.other encoding = .ok d → d.decodeFile content = .error (.refused message) →
      Escapes (.refused message)

end

section
variable {codecs : Registry} {opener : Path → Except OpenError Bytes}
  {file encoding source message : String} {content : Bytes} {d : Decoder}

theorem OpensTo.readFile_eq (h : OpensTo opener file encoding content) :
    readFile codecs opener file encoding = decodeFile codecs encoding content := by
  unfold readFile
  simp only [h.goodEncoding, h.goodFile, h.opened, Bool.false_eq_true, if_false]

theorem readFile_of_hasText (h : HasText codecs opener file encoding source) :
    readFile codecs opener file encoding = .ok (.ok source) := by
  obtain ⟨content, d, ho, hd, ht⟩ := h
  simp only [ho.readFile_eq, decodeFile, hd, ht]

theorem OpensTo.readFile_of_undecodable (ho : OpensTo opener file encoding content)
    (hd : codecs.decoder encoding = .ok d)
    (h : d.decodeFile content = .error (.undecodable message)) :
    readFile codecs opener file encoding = .ok (.error (.undecodable message)) := by
  simp only [ho.readFile_eq, decodeFile, hd, Decoder.readText_eq_error_iff.2 h]

theorem OpensTo.readFile_of_refused (ho : OpensTo opener file encoding content)
    (hd : codecs.decoder encoding = .ok d)
    (h : d.decodeFile content = .error (.refused message)) :
    readFile codecs opener file encoding = .error (.refused message) := by
  simp only [ho.readFile_eq, decodeFile, hd, Decoder.readText_eq_error_iff.2 h]

theorem readFile_of_escapes {f : Fault} (h : Escapes codecs opener file encoding f) :
    readFile codecs opener file encoding = .error f := by
  cases h with
  | nulInEncoding he => simp only [readFile, he, if_true]
  | nulInFile he hf => simp only [readFile, he, hf, Bool.false_eq_true, if_false, if_true]
  | notFound ho hn hf => rw [ho.readFile_eq, decodeFile, Registry.decoder_of_other hn, hf]
  | noByteOrderMark ho hc hlen hmark hcs =>
    exact ho.readFile_of_refused (Registry.decoder_of_builtIn hc)
      (Codec.decodeFile_eq_refused_iff.2 ⟨rfl, rfl, hlen, hmark, _, hcs⟩)
  | refused ho hn hd h =>
    exact ho.readFile_of_refused ((Registry.decoder_of_other hn).trans hd) h

/-- What becomes of a file whose encoding is known. -/
theorem OpensTo.decoded_cases (ho : OpensTo opener file encoding content)
    (hd : codecs.decoder encoding = .ok d) :
    (∃ message, d.decodeFile content = .error (.refused message)) ∨
      (∃ message, d.decodeFile content = .error (.undecodable message) ∧
        readFile codecs opener file encoding = .ok (.error (.undecodable message))) ∨
      ∃ source, HasText codecs opener file encoding source := by
  rcases ht : d.readText content with (message | message) | source
  · have h := Decoder.readText_eq_error_iff.1 ht
    exact .inr (.inl ⟨message, h, ho.readFile_of_undecodable hd h⟩)
  · exact .inl ⟨message, Decoder.readText_eq_error_iff.1 ht⟩
  · exact .inr (.inr ⟨source, content, d, ho, hd, ht⟩)

variable (hcodecs : codecs.SaysOneLine)
include hcodecs

/-- What becomes of a file that has been opened. -/
theorem OpensTo.readFile_cases (ho : OpensTo opener file encoding content) :
    (∃ f, Escapes codecs opener file encoding f) ∨
      (∃ u, readFile codecs opener file encoding = .ok (.error u) ∧ SingleLine u.message) ∨
      ∃ source, HasText codecs opener file encoding source := by
  cases hn : Codec.ofName? encoding with
  | some c =>
    rcases ho.decoded_cases (Registry.decoder_of_builtIn hn) with
      ⟨message, h⟩ | ⟨message, h, hread⟩ | htext
    · -- of the built-in codecs one alone refuses a file
      obtain ⟨-, rfl, hlen, hmark, cs, hcs⟩ := Codec.decodeFile_eq_refused_iff.1 h
      exact .inl ⟨_, .noByteOrderMark ho hn hlen hmark hcs⟩
    · exact .inr (.inl ⟨_, hread, Codec.singleLine_of_decodeFile h⟩)
    · exact .inr (.inr htext)
  | none =>
    cases hd : codecs.other encoding with
    | error f => exact .inl ⟨f, .notFound ho hn hd⟩
    | ok d =>
      rcases ho.decoded_cases ((Registry.decoder_of_other hn).trans hd) with
        ⟨message, h⟩ | ⟨message, h, hread⟩ | htext
      · exact .inl ⟨_, .refused ho hn hd h⟩
      · exact .inr (.inl ⟨_, hread, hcodecs _ d _ message hd h⟩)
      · exact .inr (.inr htext)

/-- There is a fault, or the text is missing for a reason that is one line, or there is a text. -/
theorem readFile_cases (opener : Path → Except OpenError Bytes) (file encoding : String) :
    (∃ f, Escapes codecs opener file encoding f) ∨
      (∃ u, readFile codecs opener file encoding = .ok (.error u) ∧ SingleLine u.message) ∨
      ∃ source, HasText codecs opener file encoding source := by
  cases he : hasNul encoding with
  | true => exact .inl ⟨_, .nulInEncoding he⟩
  | false =>
    cases hf : hasNul file with
    | true => exact .inl ⟨_, .nulInFile he hf⟩
    | false =>
      cases ho : opener (Path.ofString file) with
      | error e =>
        refine .inr (.inl ⟨.unopened e (Path.ofString file), ?_, e.singleLine_message _⟩)
        simp only [readFile, he, hf, ho, Bool.false_eq_true, if_false]
      | ok content => exact OpensTo.readFile_cases hcodecs ⟨he, hf, ho⟩

end

namespace CommandLine

/-! ## Exits -/

variable {codecs : Registry} {settings : Settings} {opener : Path → Except OpenError Bytes}
  {argv : List String}

section
variable {r : Request} (hr : Asks settings.encoding (argv.drop 1) r)
include hr

theorem run_of_fault {f : Fault} (h : readFile codecs opener r.file r.encoding = .error f) :
    run codecs settings opener argv = .error f := by
  simp only [run, request?_eq_some_iff.2 hr, h]

theorem run_of_unreadable {u : Unreadable}
    (h : readFile codecs opener r.file r.encoding = .ok (.error u)) :
    run codecs settings opener argv =
      .ok (rejected ("Could not read file: " ++ u.message)) := by
  simp only [run, request?_eq_some_iff.2 hr, h]

theorem run_of_text {source : String}
    (h : readFile codecs opener r.file r.encoding = .ok (.ok source)) :
    run codecs settings opener argv = .ok (finish r.file source) := by
  simp only [run, request?_eq_some_iff.2 hr, h]

end

theorem run_of_not_asks (h : ∀ r, ¬Asks settings.encoding (argv.drop 1) r) :
    run codecs settings opener argv = .ok (rejected usage) := by
  unfold run
  rw [request?_eq_none_iff.2 h]

theorem Asks.unique {r r' : Request} {encoding : String} {args : List String}
    (h : Asks encoding args r) (h' : Asks encoding args r') : r = r' :=
  Option.some.inj ((request?_eq_some_iff.2 h).symm.trans (request?_eq_some_iff.2 h'))

theorem finish_code_le (file source : String) : (finish file source).code ≤ 3 := by
  have hcode : (finish file source).code = exitCode (analysis file source) := rfl
  rw [hcode]
  rcases exitCode_cases file source with
    ⟨-, -, hc⟩ | ⟨-, ⟨-, hc⟩ | ⟨-, hc⟩ | ⟨-, hc⟩⟩ <;> omega

/-- The exit for a file without a text. -/
structure ReportsUnreadable (exit : Exit) : Prop where
  code : exit.code = 1
  stdout : exit.stdout = ""
  stderr : ∃ message, SingleLine message ∧
    exit.stderr = "Could not read file: " ++ message ++ "\n"

theorem reportsUnreadable_rejected {message : String} (h : SingleLine message) :
    ReportsUnreadable (rejected ("Could not read file: " ++ message)) :=
  ⟨rfl, rfl, message, h, rfl⟩

/-- A run ends in a fault of what is asked for, or in the exit of the text that is asked for, or it
writes to the error stream only, and reports a file that is asked for. -/
theorem run_cases (hcodecs : codecs.SaysOneLine) (settings : Settings)
    (opener : Path → Except OpenError Bytes) (argv : List String) :
    (∃ r f, Asks settings.encoding (argv.drop 1) r ∧ Escapes codecs opener r.file r.encoding f ∧
        run codecs settings opener argv = .error f) ∨
      (∃ r source, Asks settings.encoding (argv.drop 1) r ∧
        HasText codecs opener r.file r.encoding source ∧
        run codecs settings opener argv = .ok (finish r.file source)) ∨
      ∃ message, run codecs settings opener argv = .ok (rejected message) ∧
        ∀ r, Asks settings.encoding (argv.drop 1) r → ReportsUnreadable (rejected message) := by
  by_cases hasks : ∃ r, Asks settings.encoding (argv.drop 1) r
  · obtain ⟨r, hr⟩ := hasks
    rcases readFile_cases hcodecs opener r.file r.encoding with
      ⟨f, hf⟩ | ⟨u, hu, hmessage⟩ | ⟨source, hs⟩
    · exact .inl ⟨r, f, hr, hf, run_of_fault hr (readFile_of_escapes hf)⟩
    · exact .inr (.inr ⟨_, run_of_unreadable hr hu, fun _ _ => reportsUnreadable_rejected hmessage⟩)
    · exact .inr (.inl ⟨r, source, hr, hs, run_of_text hr (readFile_of_hasText hs)⟩)
  · exact .inr (.inr ⟨_, run_of_not_asks (not_exists.1 hasks), fun r hr => absurd ⟨r, hr⟩ hasks⟩)

/-! ## The program -/

/-- There is no exit for the request: it is a fault, or the output stream does not take what is to
be printed of the text. -/
def Stops (codecs : Registry) (opener : Path → Except OpenError Bytes)
    (takes : String → Except Fault Unit) (r : Request) (f : Fault) : Prop :=
  Escapes codecs opener r.file r.encoding f ∨
    ∃ source, HasText codecs opener r.file r.encoding source ∧
      takes (finish r.file source).stdout = .error f

section
variable {home : Path} {env : Environment} {takes : String → Except Fault Unit} {logger : Logger}
  (hlogger : (Settings.load home env).logger = .ok logger)
include hlogger

theorem perform_of_fault {f : Fault}
    (h : run codecs (Settings.load home env) opener argv = .error f) :
    perform codecs home env opener takes argv = .error f := by
  simp only [perform, execute_eq_map_run hlogger, h]
  rfl

theorem perform_of_exit {exit : Exit}
    (h : run codecs (Settings.load home env) opener argv = .ok exit) :
    perform codecs home env opener takes argv =
      (exit.deliver takes).map fun _ => (logger, exit) := by
  simp only [perform, execute_eq_map_run hlogger, h]
  show (exit.deliver takes >>= fun _ => pure (logger, exit)) = _
  cases exit.deliver takes <;> rfl

/-- Where nothing is printed there is nothing to refuse. -/
theorem perform_of_rejected {message : String}
    (h : run codecs (Settings.load home env) opener argv = .ok (rejected message)) :
    perform codecs home env opener takes argv = .ok (logger, rejected message) := by
  rw [perform_of_exit hlogger h]
  rfl

theorem perform_of_finish {file source : String}
    (h : run codecs (Settings.load home env) opener argv = .ok (finish file source)) :
    perform codecs home env opener takes argv =
      (takes (finish file source).stdout).map fun _ => (logger, finish file source) := by
  have hne : (finish file source).stdout ≠ "" := by
    have hout : (finish file source).stdout = (analysis file source).transcript ++ "\n" := rfl
    simp [hout]
  rw [perform_of_exit hlogger h, Exit.deliver, if_neg hne]

theorem perform_of_stops {r : Request} {f : Fault}
    (hr : Asks (Settings.load home env).encoding (argv.drop 1) r)
    (h : Stops codecs opener takes r f) : perform codecs home env opener takes argv = .error f := by
  rcases h with hf | ⟨source, hs, hk⟩
  · exact perform_of_fault hlogger (run_of_fault hr (readFile_of_escapes hf))
  · rw [perform_of_finish hlogger (run_of_text hr (readFile_of_hasText hs)), hk]
    rfl

/-- The program stops, or it has an exit, which reports a file that has no text. -/
theorem perform_cases (hcodecs : codecs.SaysOneLine) (opener : Path → Except OpenError Bytes)
    (takes : String → Except Fault Unit) (argv : List String) :
    (∃ r f, Asks (Settings.load home env).encoding (argv.drop 1) r ∧
        Stops codecs opener takes r f ∧ perform codecs home env opener takes argv = .error f) ∨
      ∃ exit, perform codecs home env opener takes argv = .ok (logger, exit) ∧ exit.code ≤ 3 ∧
        ∀ r, Asks (Settings.load home env).encoding (argv.drop 1) r →
          (∀ source, ¬HasText codecs opener r.file r.encoding source) →
            ReportsUnreadable exit := by
  rcases run_cases hcodecs (Settings.load home env) opener argv with
    ⟨r, f, hr, hf, hrun⟩ | ⟨r, source, hr, hs, hrun⟩ | ⟨message, hrun, hreports⟩
  · exact .inl ⟨r, f, hr, .inl hf, perform_of_fault hlogger hrun⟩
  · have hperform : perform codecs home env opener takes argv =
        (takes (finish r.file source).stdout).map fun _ => (logger, finish r.file source) :=
      perform_of_finish hlogger hrun
    cases hk : takes (finish r.file source).stdout with
    | error f =>
      rw [hk] at hperform
      exact .inl ⟨r, f, hr, .inr ⟨source, hs, hk⟩, hperform⟩
    | ok _ =>
      rw [hk] at hperform
      refine .inr ⟨finish r.file source, hperform, finish_code_le r.file source, ?_⟩
      intro r' hr' hnone
      obtain rfl := hr.unique hr'
      exact absurd hs (hnone source)
  · have hcode : (rejected message).code ≤ 3 := Nat.le_of_ble_eq_true rfl
    exact .inr ⟨_, perform_of_rejected hlogger hrun, hcode, fun r hr _ => hreports r hr⟩

end

/-- **Failures to load.** With a level that can be set, the program ends without an exit exactly if
what is asked for is a fault or its output is refused. A fault is a NUL in the name of the file or
of the encoding, and for a file that is there: an encoding that is not found, UTF-16 where the file
starts with no mark, and any other file that its codec refuses. Otherwise there is an exit with one
of the four codes, and if the file that is asked for has no text the code is 1 and nothing is
written but one line on the error stream. -/
theorem perform_load_failure {codecs : Registry} {home : Path} {env : Environment}
    {opener : Path → Except OpenError Bytes} {takes : String → Except Fault Unit}
    {argv : List String} {logger : Logger} (hcodecs : codecs.SaysOneLine)
    (hlogger : (Settings.load home env).logger = .ok logger) :
    let asks := Asks (Settings.load home env).encoding (argv.drop 1)
    let outcome := perform codecs home env opener takes argv
    (∀ f, outcome = .error f ↔ ∃ r, asks r ∧ Stops codecs opener takes r f) ∧
    ((∀ r f, asks r → ¬Stops codecs opener takes r f) →
      ∃ exit, outcome = .ok (logger, exit) ∧ exit.code ≤ 3 ∧
        ∀ r, asks r → (∀ source, ¬HasText codecs opener r.file r.encoding source) →
          ReportsUnreadable exit) := by
  intro asks outcome
  have hcases := perform_cases hlogger hcodecs opener takes argv
  refine ⟨fun f => ⟨fun h => ?_, fun ⟨r, hr, hf⟩ => perform_of_stops hlogger hr hf⟩,
    fun hno => ?_⟩
  · rcases hcases with ⟨r, f', hr, hf, hperform⟩ | ⟨exit, hperform, -⟩
    · obtain rfl : f' = f := Except.error.inj (hperform.symm.trans h)
      exact ⟨r, hr, hf⟩
    · cases hperform.symm.trans h
  · rcases hcases with ⟨r, f, hr, hf, -⟩ | hexit
    · exact absurd hf (hno r f hr)
    · exact hexit

/-- The codec of Latin and Arabic letters: from 0xA1 on three marks and two blocks of letters, and
two signs of Latin-1. -/
def readArabic : Encoding.Reader := fun b _ =>
  let n := b.toNat
  if n ≤ 0xA0 ∨ n = 0xA4 ∨ n = 0xAD then .ok (Char.ofNat n, 0)
  else if n = 0xAC ∨ n = 0xBB ∨ n = 0xBF ∨ 0xC1 ≤ n ∧ n ≤ 0xDA ∨ 0xE0 ≤ n ∧ n ≤ 0xF2 then
    .ok (Char.ofNat (n + 0x560), 0)
  else .error ⟨1, .undefined⟩

def arabic : Decoder where
  decodeFile bs := (Encoding.decodeFrom "charmap" readArabic 0 bs).mapError (.undecodable ·.message)
  decode bs := (Encoding.decodeFrom "charmap" readArabic 0 bs).toOption

def arabicNames : List String :=
  ["iso8859_6", "arabic", "asmo_708", "csisolatinarabic", "ecma_114", "iso_8859_6",
    "iso_8859_6_1987", "iso_ir_127"]

/-- A system that has this codec as well. -/
def arabicRegistry : Registry where
  other name :=
    if Encoding.normalizeName name ∈ arabicNames then .ok arabic else .error (.unknownEncoding name)

theorem saysOneLine_arabicRegistry : arabicRegistry.SaysOneLine := by
  intro name d bs message hd h
  dsimp only [arabicRegistry] at hd
  split at hd
  · cases hd
    cases he : Encoding.decodeFrom "charmap" readArabic 0 bs with
    | ok cs => simp [arabic, he, Except.mapError] at h
    | error e =>
      obtain rfl : e.message = message := by simpa [arabic, he, Except.mapError] using h
      refine Encoding.DecodeError.singleLine_message ?_
      rw [Encoding.encoding_of_decodeFrom he]
      decide
  · cases hd

/-- A file with a byte that is no character there. -/
def arabicTree : FileTree := ⟨[(["p.mc"], [0x78, 0xA1])], []⟩

theorem perform_load_failure_sample :
    arabicRegistry.SaysOneLine ∧
    (Settings.load (Path.ofString ".") {}).logger = .ok ⟨.warning, [Logger.format]⟩ ∧
    ∃ exit, perform arabicRegistry (Path.ofString ".") {} arabicTree.read (fun _ => .ok ())
        ["minicompiler", "p.mc", "--encoding", "ISO-8859-6"] =
          .ok (⟨.warning, [Logger.format]⟩, exit) ∧
      ReportsUnreadable exit := by
  have hlogger : (Settings.load (Path.ofString ".") {}).logger =
      .ok ⟨.warning, [Logger.format]⟩ := rfl
  have hasks : Asks (Settings.load (Path.ofString ".") {}).encoding
      (["minicompiler", "p.mc", "--encoding", "ISO-8859-6"].drop 1) ⟨"p.mc", "ISO-8859-6"⟩ :=
    .fileFirst "ISO-8859-6" (by decide)
  have hread : readFile arabicRegistry arabicTree.read "p.mc" "ISO-8859-6" =
      .ok (.error (.undecodable ("'charmap' codec can't decode byte 0xa1 in position 1: " ++
        "character maps to <undefined>"))) := by decide +kernel
  have hno : ∀ source, ¬HasText arabicRegistry arabicTree.read "p.mc" "ISO-8859-6" source := by
    intro source hs
    cases hread.symm.trans (readFile_of_hasText hs)
  have hfine : ∀ r f, Asks (Settings.load (Path.ofString ".") {}).encoding
      (["minicompiler", "p.mc", "--encoding", "ISO-8859-6"].drop 1) r →
      ¬Stops arabicRegistry arabicTree.read (fun _ => .ok ()) r f := by
    rintro r f hr (hf | ⟨source, hs, -⟩)
    · obtain rfl := hasks.unique hr
      cases hread.symm.trans (readFile_of_escapes hf)
    · obtain rfl := hasks.unique hr
      exact hno source hs
  obtain ⟨exit, hexit, -, hreports⟩ :=
    (perform_load_failure saysOneLine_arabicRegistry hlogger).2 hfine
  exact ⟨saysOneLine_arabicRegistry, hlogger, exit, hexit, hreports _ hasks hno⟩

/-- A file that is there and an encoding that is not: the program ends without an exit. -/
theorem perform_unknown_encoding :
    (Settings.load (Path.ofString ".") {}).logger = .ok ⟨.warning, [Logger.format]⟩ ∧
      Asks (Settings.load (Path.ofString ".") {}).encoding
        (["minicompiler", "src/p.mc", "--encoding", "nope"].drop 1) ⟨"src/p.mc", "nope"⟩ ∧
      (∀ source, ¬HasText .builtIn sampleTree.read "src/p.mc" "nope" source) ∧
      ∀ exit, perform .builtIn (Path.ofString ".") {} sampleTree.read (fun _ => .ok ())
        ["minicompiler", "src/p.mc", "--encoding", "nope"] ≠ .ok exit := by
  have hlogger : (Settings.load (Path.ofString ".") {}).logger =
      .ok ⟨.warning, [Logger.format]⟩ := rfl
  have hasks : Asks (Settings.load (Path.ofString ".") {}).encoding
      (["minicompiler", "src/p.mc", "--encoding", "nope"].drop 1) ⟨"src/p.mc", "nope"⟩ :=
    .fileFirst "nope" (by decide)
  have hopens : OpensTo sampleTree.read "src/p.mc" "nope"
      [0x78, 0x20, 0x3D, 0x20, 0x31, 0x0D, 0x0A] := ⟨by decide, by decide, rfl⟩
  have hread : readFile .builtIn sampleTree.read "src/p.mc" "nope" =
      .error (.unknownEncoding "nope") :=
    readFile_of_escapes (.notFound hopens (by decide +kernel) rfl)
  refine ⟨hlogger, hasks, fun source hs => ?_, fun exit h => ?_⟩
  · cases hread.symm.trans (readFile_of_hasText hs)
  · cases (perform_of_fault hlogger (run_of_fault hasks hread)).symm.trans h

end CommandLine

end StagedAnalysis

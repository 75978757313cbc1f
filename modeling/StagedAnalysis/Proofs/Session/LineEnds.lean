import StagedAnalysis.Proofs.Outcome.Newlines
import StagedAnalysis.Proofs.Session.FullRun
import StagedAnalysis.Proofs.Token.Apart

/-!
# How the lines of a text end

Blanks separate lexemes, and behind the last lexeme of a line they mean nothing. So it makes no
difference whether every line feed of a text has a carriage return before it: all that a session can
find out is the same, but for the texts of the lines that a document keeps.

* `Document.withoutTexts`, `LexicalOutcome.withoutTexts`, `Session.withoutTexts`: what is left when
  those texts are forgotten; `outcome_withoutTexts`, `syntactic_withoutTexts`,
  `semantic_withoutTexts`: no stage after reading needs them.
* `runLexical_withReturns`: reading finds the same.
* `runAll_withoutTexts_congr`: after the same has been read a full run comes to the same.
* `blanks_only_separate`: the main statement.
-/

namespace StagedAnalysis

/-! ## Carriage returns -/

namespace Text

/-- Every line feed with a carriage return before it. -/
def withReturns (s : String) : String :=
  String.ofList (s.toList.flatMap fun c => if c = '\n' then ['\r', '\n'] else [c])

theorem withReturns_eq_empty {s : String} : withReturns s = "" ↔ s = "" := by
  rw [withReturns, ← String.toList_eq_nil_iff, String.toList_ofList, ← String.toList_eq_nil_iff]
  cases s.toList with
  | nil => rfl
  | cons c cs =>
    rw [List.flatMap_cons]
    split <;> simp

theorem forall₂_lines_withReturns (s : String) :
    List.Forall₂ Padded (lines s.toList) (lines (withReturns s).toList) := by
  rw [withReturns, String.toList_ofList]
  induction s.toList with
  | nil => exact .cons (.refl []) .nil
  | cons c cs ih =>
    rw [List.flatMap_cons]
    split
    · next hc =>
      rw [hc, lines_feed, List.cons_append, List.singleton_append, lines_return_feed]
      exact .cons padded_return ih
    · next hc => exact forall₂_lines_cons hc ih

end Text

/-! ## Without the texts of lines -/

def Line.withoutText (l : Line) : Line := { l with text := "" }

/-- Lines that only differ in blanks behind them are the same without their texts. -/
theorem map_withoutText_readLines {ls ms : List (List Char)} (h : List.Forall₂ Text.Padded ls ms)
    (n : Int) :
    (Document.readLines n ls).map Line.withoutText =
      (Document.readLines n ms).map Line.withoutText := by
  induction h generalizing n with
  | nil => rfl
  | cons hp _ ih =>
    obtain ⟨w, hw, rfl⟩ := hp
    simp only [Document.readLines, List.map_cons, ih, Line.read, Line.withoutText,
      scan_append_of_blank hw]

namespace Document

def withoutTexts (d : Document) : Document := ⟨d.lines.map Line.withoutText⟩

variable (d : Document)

@[simp] theorem ok_withoutTexts : d.withoutTexts.ok = d.ok := List.all_map

@[simp] theorem tokens_withoutTexts : d.withoutTexts.tokens = d.tokens := List.flatMap_map ..

@[simp] theorem errors_withoutTexts : d.withoutTexts.errors = d.errors := List.filterMap_map

@[simp] theorem events_withoutTexts : d.withoutTexts.events = d.events := by
  have hl : d.withoutTexts.lines.length = d.lines.length := List.length_map _
  simp only [events, errors_withoutTexts, tokens_withoutTexts, hl]

end Document

namespace LexicalOutcome

def withoutTexts (o : LexicalOutcome) : LexicalOutcome :=
  { o with document := o.document.map Document.withoutTexts }

variable (o : LexicalOutcome)

theorem noCode_withoutTexts : o.withoutTexts.noCode = o.noCode := by
  unfold noCode withoutTexts
  cases o.document <;> simp

theorem events_withoutTexts : o.withoutTexts.events = o.events := by
  unfold events withoutTexts
  cases o.document <;> simp

theorem alike_of_withoutTexts {o p : LexicalOutcome} (h : o.withoutTexts = p.withoutTexts) :
    o.Alike p := by
  obtain ⟨hp, -, ht, hc⟩ := LexicalOutcome.mk.inj h
  exact ⟨hp, ht, hc⟩

end LexicalOutcome

theorem Document.outcome_withoutTexts (d : Document) :
    d.withoutTexts.outcome = d.outcome.withoutTexts := by
  unfold outcome
  rw [ok_withoutTexts, tokens_withoutTexts, errors_withoutTexts]
  split
  · rfl
  · split <;> rfl

/-- Reading does not notice whether lines end with carriage returns. -/
theorem runLexical_withReturns (source : String) :
    (runLexical (Text.withReturns source)).withoutTexts = (runLexical source).withoutTexts := by
  by_cases hs : source = ""
  · rw [Text.withReturns_eq_empty.2 hs, hs]
  · have hl := map_withoutText_readLines (Text.forall₂_lines_withReturns source) 1
    have hd : (Document.ofText (Text.withReturns source)).withoutTexts =
        (Document.ofText source).withoutTexts := by
      simp only [Document.withoutTexts, Document.ofText, Document.ofChars, hl]
    rw [runLexical_of_ne hs, runLexical_of_ne (mt Text.withReturns_eq_empty.1 hs),
      ← Document.outcome_withoutTexts, hd, Document.outcome_withoutTexts]

/-! ## Sessions -/

namespace Session

/-- The session without its text and without the texts of lines. -/
def withoutTexts (s : Session) : Session :=
  { s with source := "", lexical? := s.lexical?.map LexicalOutcome.withoutTexts }

variable {s t : Session}

/-- What reading leaves of a session depends on what is read and on what was written before. -/
theorem lexical_withoutTexts_congr (h : s.withoutTexts = t.withoutTexts)
    (ho : (runLexical s.source).withoutTexts = (runLexical t.source).withoutTexts) :
    s.lexical.1.withoutTexts = t.lexical.1.withoutTexts := by
  obtain ⟨-, hconsole, -, -, -, -, -, hevents⟩ := Session.mk.inj h
  obtain ⟨hp, ht, hc⟩ := LexicalOutcome.alike_of_withoutTexts ho
  have he : (runLexical s.source).events = (runLexical t.source).events := by
    rw [← LexicalOutcome.events_withoutTexts, ho, LexicalOutcome.events_withoutTexts]
  simp [lexical, withoutTexts, reset, print, record, hconsole, hevents, ho, hp, ht, hc, he]

theorem syntactic_withoutTexts (s : Session) :
    s.withoutTexts.syntactic.1 = s.syntactic.1.withoutTexts := by
  by_cases h : s.progress = .notStarted
  · have h' : s.withoutTexts.progress = .notStarted := h
    rw [syntactic_of_notStarted h, syntactic_of_notStarted h']
    rfl
  · have h' : s.withoutTexts.progress ≠ .notStarted := h
    rw [syntactic_of_started h, syntactic_of_started h']
    rfl

theorem semantic_withoutTexts (s : Session) :
    s.withoutTexts.semantic.1 = s.semantic.1.withoutTexts := by
  by_cases h : s.progress = .syntaxPassed
  · have h' : s.withoutTexts.progress = .syntaxPassed := h
    rw [semantic_of_syntaxPassed h, semantic_of_syntaxPassed h']
    rfl
  · have h' : s.withoutTexts.progress ≠ .syntaxPassed := h
    rw [semantic_of_ne h, semantic_of_ne h']
    rfl

/-- A full run goes on from what reading has left. -/
theorem runAll_withoutTexts_congr (h : s.lexical.1.withoutTexts = t.lexical.1.withoutTexts) :
    s.runAll.1.withoutTexts = t.runAll.1.withoutTexts := by
  have hchecked (r : Session) : r.withoutTexts.checked = r.checked.withoutTexts :=
    checked_map withoutTexts (fun _ => rfl) syntactic_withoutTexts semantic_withoutTexts r
  rw [runAll_eq_checked, runAll_eq_checked, ← hchecked, h, hchecked]

/-- What a full run shows needs no texts. -/
theorem runAll_shown_congr (h : s.runAll.1.withoutTexts = t.runAll.1.withoutTexts) :
    s.runAll.1.transcript = t.runAll.1.transcript ∧ s.runAll.2 = t.runAll.2 := by
  have htranscript := congrArg Session.transcript h
  have hprogress := congrArg Session.progress h
  exact ⟨htranscript, hprogress⟩

theorem runAll_withReturns (s : Session) (source : String) :
    (s.assignSource (Text.withReturns source)).runAll.1.withoutTexts =
      (s.assignSource source).runAll.1.withoutTexts :=
  runAll_withoutTexts_congr (lexical_withoutTexts_congr rfl (runLexical_withReturns source))

end Session

/-! ## The rule -/

/-- **Blanks only separate.** Behind a text that can be tokenized and a blank, any text is tokenized
as if it stood alone, further to the right, or fails as it does alone. Blanks at the end of a text
change nothing. So a text comes to the same when its lines end with carriage returns: reading it has
the same outcome, and a full run leaves any session in the same state and answers the same, but for
the texts of the lines. -/
theorem blanks_only_separate :
    (∀ (a w b : String) (line : Int) (ts : List Token), tokenize a line = .ok ts → w ≠ "" →
      Text.Blank w.toList →
      tokenize (a ++ w ++ b) line =
        (tokenize b line).map fun us =>
          ts ++ us.map (Token.mapColumn (· + ((a ++ w).length : Int)))) ∧
    (∀ (text v : String) (line : Int), Text.Blank v.toList →
      tokenize (text ++ v) line = tokenize text line) ∧
    (∀ source : String,
      let plain := runLexical source
      let returned := runLexical (Text.withReturns source)
      returned.progress = plain.progress ∧ returned.console = plain.console ∧
      returned.noCode = plain.noCode ∧ returned.tokens = plain.tokens ∧
      returned.withoutTexts = plain.withoutTexts) ∧
    ∀ (s : Session) (source : String),
      let plain := (s.assignSource source).runAll
      let returned := (s.assignSource (Text.withReturns source)).runAll
      returned.1.transcript = plain.1.transcript ∧ returned.2 = plain.2 ∧
      returned.1.withoutTexts = plain.1.withoutTexts := by
  refine ⟨?apart, ?behind, ?reading, ?session⟩
  case apart =>
    intro a w b line ts ha hne hw
    have hne : w.toList ≠ [] := mt String.toList_eq_nil_iff.1 hne
    have hs := scan_append_blank_append ha hne hw b.toList
    rw [← String.toList_append, ← String.toList_append, ← String.toList_append,
      ← String.append_assoc, String.length_toList] at hs
    exact hs
  case behind =>
    intro text v line hv
    rw [tokenize, String.toList_append, scan_append_of_blank hv]
    rfl
  case reading =>
    intro source plain returned
    have h : returned.withoutTexts = plain.withoutTexts := runLexical_withReturns source
    obtain ⟨hp, ht, hc⟩ := LexicalOutcome.alike_of_withoutTexts h
    refine ⟨hp, hc, ?_, ht, h⟩
    rw [← LexicalOutcome.noCode_withoutTexts, h, LexicalOutcome.noCode_withoutTexts]
  case session =>
    intro s source plain returned
    have h := s.runAll_withReturns source
    obtain ⟨ht, hp⟩ := Session.runAll_shown_congr h
    exact ⟨ht, hp, h⟩

/-- Two signs of assignment stay two, and what cannot be read is quoted as it is alone. -/
theorem blanks_only_separate_sample :
    tokenize "x =" 1 = .ok [⟨.identifier, "x", 1, 1⟩, ⟨.assignment, "=", 1, 3⟩] ∧
    tokenize ("x =" ++ "\n" ++ "= 1") 1 =
      .ok [⟨.identifier, "x", 1, 1⟩, ⟨.assignment, "=", 1, 3⟩, ⟨.assignment, "=", 1, 5⟩,
        ⟨.number, "1", 1, 7⟩] ∧
    tokenize ("x =" ++ "\n" ++ " @ 1") 1 = .error ⟨"@", 1⟩ := by
  have ha : tokenize "x =" 1 = .ok [⟨.identifier, "x", 1, 1⟩, ⟨.assignment, "=", 1, 3⟩] := by
    decide +kernel
  have hb : tokenize "= 1" 1 = .ok [⟨.assignment, "=", 1, 1⟩, ⟨.number, "1", 1, 3⟩] := by
    decide +kernel
  have he : tokenize " @ 1" 1 = .error ⟨"@", 1⟩ := by decide +kernel
  refine ⟨ha, ?_, ?_⟩
  · rw [blanks_only_separate.1 "x =" "\n" "= 1" 1 _ ha (by decide) (by decide), hb]
    decide +kernel
  · rw [blanks_only_separate.1 "x =" "\n" " @ 1" 1 _ ha (by decide) (by decide), he]
    rfl

end StagedAnalysis

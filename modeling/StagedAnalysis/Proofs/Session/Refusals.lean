import StagedAnalysis.Proofs.Outcome.Console
import StagedAnalysis.Proofs.Session.Gate

/-!
# Refusals

A stage that is called too early leaves a message on the console and an event in the log. Nothing
else that a session writes looks like one of these messages, whatever the text and the names of its
files; so as long as no stage is called too early there is none.

* `refusals`: the messages; `not_mem_refusals`: a line that begins otherwise is none of them.
* `Unrefused`: no refusal is left on the console, and none was ever recorded.
* `Unrefused.lexical` to `Unrefused.clear`: operations that are not refused keep it.
-/

namespace StagedAnalysis

/-! ## Messages and events -/

/-- What the console says of stages that cannot run yet. -/
def refusals : List String := [Session.gateMessage .syntactic, Session.gateMessage .semantic]

def Event.isRefusal : Event → Bool
  | .stageRefused _ _ => true
  | _ => false

/-- The first character of a line, which tells it from the refusals. -/
def Begins (l : String) (x : Char) : Prop := l.toList.head? = some x

instance (l : String) (x : Char) : Decidable (Begins l x) := by
  unfold Begins
  infer_instance

theorem Begins.append {a : String} {x : Char} (h : Begins a x) (b : String) :
    Begins (a ++ b) x := by
  rw [Begins, String.toList_append, List.head?_append, h, Option.some_or]

theorem not_mem_refusals {l : String} {x : Char} (h : Begins l x) (hx : x ≠ 'S') :
    l ∉ refusals := by
  have hall : ∀ r ∈ refusals, Begins r 'S' := by decide +kernel
  intro hl
  exact hx (Option.some.inj (h.symm.trans (hall l hl)))

theorem Token.listing_not_mem_refusals (t : Token) : t.listing ∉ refusals := by
  have h : Begins "[" '[' := by decide +kernel
  exact not_mem_refusals (((h.append _).append _).append _) (by decide)

theorem Finding.message_not_mem_refusals (f : Finding) : f.message ∉ refusals := by
  cases f with
  | missingSemicolon line =>
    have h : Begins "Missing semicolon at or after assignment on line " 'M' := by decide +kernel
    exact not_mem_refusals ((h.append _).append _) (by decide)
  | unmatchedCloser delimiter line =>
    have h : Begins "Unmatched closing " 'U' := by decide +kernel
    exact not_mem_refusals ((((h.append _).append _).append _).append _) (by decide)
  | unmatchedOpener delimiter count =>
    have h : Begins "Unmatched opening " 'U' := by decide +kernel
    exact not_mem_refusals ((h.append _).append _) (by decide)
  | undeclared name line =>
    have h : Begins "Variable '" 'V' := by decide +kernel
    exact not_mem_refusals ((((h.append _).append _).append _).append _) (by decide)
  | stringToInt name line =>
    have h : Begins "Type error: cannot assign string to int variable '" 'T' := by decide +kernel
    exact not_mem_refusals ((((h.append _).append _).append _).append _) (by decide)
  | unused name line =>
    have h : Begins "Warning: variable '" 'W' := by decide +kernel
    exact not_mem_refusals ((((h.append _).append _).append _).append _) (by decide)

theorem openedLine_not_mem_refusals (name : String) : Session.openedLine name ∉ refusals := by
  have h : Begins "Opened file: " 'O' := by decide +kernel
  exact not_mem_refusals (h.append name) (by decide)

/-! ## What stages write -/

theorem not_mem_refusals_of_mem_runLexical {text : String} :
    (∀ l ∈ (runLexical text).console, l ∉ refusals) ∧
      ∀ e ∈ (runLexical text).events, e.isRefusal = false := by
  refine ⟨forall_console_runLexical (by decide +kernel) (fun e _ => ?line)
    (fun t _ => t.listing_not_mem_refusals), fun e he => ?event⟩
  case line =>
    have h : Begins "Lexical Error (line " 'L' := by decide +kernel
    exact not_mem_refusals (((h.append _).append _).append _) (by decide)
  case event =>
    unfold LexicalOutcome.events at he
    split at he
    · cases he
    · rcases List.mem_append.1 he with he | he
      · obtain ⟨e', -, rfl⟩ := List.mem_map.1 he
        rfl
      · rw [List.mem_singleton.1 he]
        rfl

theorem not_mem_refusals_of_mem_checkStructure {ts : List Token} :
    (∀ l ∈ (checkStructure ts).console, l ∉ refusals) ∧
      ∀ e ∈ (checkStructure ts).events, e.isRefusal = false := by
  refine ⟨forall_console_checkStructure (by decide +kernel)
    fun f _ => f.message_not_mem_refusals, ?_⟩
  unfold checkStructure
  dsimp only
  split <;> exact List.forall_mem_singleton.2 rfl

theorem not_mem_refusals_of_mem_checkNames {p : Progress} {ts : List Token} :
    (∀ l ∈ (checkNames p ts).console, l ∉ refusals) ∧
      ∀ e ∈ (checkNames p ts).events, e.isRefusal = false := by
  refine ⟨forall_console_checkNames (by decide +kernel)
    fun f _ => f.message_not_mem_refusals, ?_⟩
  unfold checkNames
  dsimp only
  split <;> exact List.forall_mem_singleton.2 rfl

/-! ## Sessions -/

namespace Session

/-- No refusal is left on the console, and none was ever recorded. -/
structure Unrefused (s : Session) : Prop where
  console : ∀ l ∈ s.console, l ∉ refusals
  events : ∀ e ∈ s.events, e.isRefusal = false

theorem unrefused_start (source : String) : (start source).Unrefused := ⟨nofun, nofun⟩

namespace Unrefused

variable {s : Session} (h : s.Unrefused)
include h

/-- More may be written as long as it is no refusal. -/
theorem extend {s' : Session} {lines : List String} {es : List Event}
    (hl : (∀ l ∈ lines, l ∉ refusals) ∧ ∀ e ∈ es, e.isRefusal = false)
    (hc : s'.console = s.console ++ lines) (he : s'.events = s.events ++ es) : s'.Unrefused := by
  refine ⟨?_, ?_⟩
  · rw [hc]
    exact List.forall_mem_append.2 ⟨h.console, hl.1⟩
  · rw [he]
    exact List.forall_mem_append.2 ⟨h.events, hl.2⟩

theorem lexical : s.lexical.1.Unrefused :=
  h.extend not_mem_refusals_of_mem_runLexical rfl rfl

theorem syntactic (hp : s.progress ≠ .notStarted) : s.syntactic.1.Unrefused := by
  rw [syntactic_of_started hp]
  exact h.extend not_mem_refusals_of_mem_checkStructure rfl rfl

theorem semantic (hp : s.progress = .syntaxPassed) : s.semantic.1.Unrefused := by
  rw [semantic_of_syntaxPassed hp]
  exact h.extend not_mem_refusals_of_mem_checkNames rfl rfl

theorem load (source name : String) : (s.load source (some name)).Unrefused := by
  have hopened : ∀ l ∈ [openedLine name], l ∉ refusals :=
    List.forall_mem_singleton.2 (openedLine_not_mem_refusals name)
  unfold Session.load
  dsimp only
  split
  · exact h.extend ⟨List.forall_mem_nil _, List.forall_mem_nil _⟩ (List.append_nil _).symm
      (List.append_nil _).symm
  · exact h.extend ⟨hopened, List.forall_mem_nil _⟩ rfl (List.append_nil _).symm

theorem setSource (source : String) : (s.setSource source).1.Unrefused := by
  unfold Session.setSource
  split
  · exact h
  · exact h.extend ⟨List.forall_mem_nil _, List.forall_mem_singleton.2 rfl⟩
      (List.append_nil _).symm rfl

theorem clear : s.clear.Unrefused := ⟨nofun, h.events⟩

end Unrefused

end Session

end StagedAnalysis

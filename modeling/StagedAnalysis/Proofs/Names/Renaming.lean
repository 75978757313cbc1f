import StagedAnalysis.Proofs.Names.Renumbering

/-!
# Renaming

The identifiers of a stream may have any other names that are as different from each other. The
check of the structure does not look at them, and the analysis shows the same rows and diagnostics
with these names: in the cell for the name, and at the one place of the text where the name stands.

* `Token.rename`, `Row.rename`: other names for a stream and in a row.
* `Entry.row_relabel`, `Finding.toDiagnostic_rename`: rows and diagnostics with other names.
* `Finding.exists_message_rename`: where the name stands in the text.
* `check_analyze_rename`: the main statement.
-/

namespace StagedAnalysis

variable {n : String → String}

/-- An identifier gets another lexeme, and every other token stays as it is. -/
def Token.rename (n : String → String) (t : Token) : Token :=
  if t.kind = .identifier then { t with lexeme := n t.lexeme } else t

theorem Token.relabels_rename (n : String → String) : Token.Relabels id n (Token.rename n) where
  kind t := by
    unfold rename
    split <;> rfl
  lexeme t := by
    unfold rename
    split <;> rfl
  line t := by
    unfold rename
    split <;> rfl

/-- The lexemes of the identifiers, each as often as it stands there. -/
def identifiers (ts : List Token) : List String :=
  (ts.filter (·.kind == .identifier)).map Token.lexeme

theorem lexeme_mem_identifiers {ts : List Token} :
    ∀ t ∈ ts, t.kind = .identifier → t.lexeme ∈ identifiers ts := by
  intro t ht hk
  exact List.mem_map_of_mem (List.mem_filter.2 ⟨ht, beq_iff_eq.2 hk⟩)

/-! ## Rows and diagnostics -/

def Cell.mapText (g : String → String) : Cell → Cell
  | text s => text (g s)
  | c => c

/-- The row with another name in the cell for it. -/
def Row.rename (n : String → String) (r : Row) : Row :=
  r.map fun c => if c.1 = "name" then (c.1, c.2.mapText n) else c

theorem SymbolTable.Entry.row_relabel (e : Entry) :
    Entry.row { e with symbol := e.symbol.relabel id n } = Row.rename n e.row := by
  simp [row, Row.rename, Symbol.relabel, Cell.mapText]

namespace Finding

theorem relabel_lines (x : Finding) : x.relabel id n = x.rename n :=
  mapLine_eq_self fun _ _ => rfl

/-- A finding under another name differs in its text and in the cell for the name. -/
theorem toDiagnostic_rename (x : Finding) :
    (x.rename n).toDiagnostic =
      { x.toDiagnostic with
        message := .text (x.rename n).message
        extra := Row.rename n x.details } := by
  cases x <;> simp [toDiagnostic, rename, phase, code, line?, details, Row.rename, Cell.mapText]

theorem text_assoc (head name tail line last : String) :
    head ++ name ++ tail ++ line ++ last = head ++ name ++ (tail ++ line ++ last) := by
  simp only [String.append_assoc]

/-- The name stands at one place of the text, with the same before and behind it under any name. -/
theorem exists_message_rename {x : Finding} {name : String} (h : x.name? = some name) :
    ∃ head tail, ∀ n : String → String, (x.rename n).message = head ++ n name ++ tail := by
  cases x with
  | missingSemicolon line => cases h
  | unmatchedCloser delimiter line => cases h
  | unmatchedOpener delimiter count => cases h
  | undeclared a line =>
    cases h
    exact ⟨"Variable '", _, fun _ => text_assoc _ _ _ _ _⟩
  | stringToInt a line =>
    cases h
    exact ⟨"Type error: cannot assign string to int variable '", _, fun _ => text_assoc _ _ _ _ _⟩
  | unused a line =>
    cases h
    exact ⟨"Warning: variable '", _, fun _ => text_assoc _ _ _ _ _⟩

theorem lookup_details {x : Finding} {name : String} (h : x.name? = some name) :
    x.details.lookup "name" = some (.text name) := by
  cases x <;> cases h <;> rfl

end Finding

namespace Names

/-! ## Streams -/

/-- **Other names for the identifiers of a stream.** If different ones stay different, then the
check of the structure finds the same as before, and the analysis shows the same rows and the same
diagnostics, in the same order and with no other difference than the names: those in the rows, those
that come with a diagnostic, and the one in its text. -/
theorem check_analyze_rename {n : String → String} {ts : List Token}
    (hn : Set.InjOn n {name | name ∈ identifiers ts}) :
    let us := ts.map (Token.rename n)
    Structure.check us = Structure.check ts ∧
    (analyze us).table.entries.map SymbolTable.Entry.row =
      ((analyze ts).table.entries.map SymbolTable.Entry.row).map (Row.rename n) ∧
    (analyze us).findings.map Finding.toDiagnostic =
      ((analyze ts).findings.map fun x =>
        { x.toDiagnostic with
          message := .text (x.rename n).message
          extra := Row.rename n x.details }) ∧
    ∀ x ∈ (analyze ts).findings, ∃ name ∈ identifiers ts, ∃ head tail,
      x.message = head ++ name ++ tail ∧ (x.rename n).message = head ++ n name ++ tail ∧
      x.details.lookup "name" = some (.text name) := by
  intro us
  have hg := Token.relabels_rename n
  have hanalyze : analyze us = (analyze ts).relabel id n :=
    analyze_relabel lexeme_mem_identifiers hg hn
  have hwithin : (analyze ts).table.Within {name | name ∈ identifiers ts} :=
    within_resolved lexeme_mem_identifiers
  refine ⟨?check, ?rows, ?diagnostics, fun x hx => ?text⟩
  case check =>
    rw [Structure.check_map hg Function.injective_id]
    refine (List.map_congr_left fun x _ => ?_).trans (List.map_id' _)
    exact Finding.mapLine_eq_self fun _ _ => rfl
  case rows =>
    rw [hanalyze, Analysis.relabel, SymbolTable.entries_relabel hn hwithin, List.map_map,
      List.map_map]
    exact List.map_congr_left fun e _ => e.row_relabel
  case diagnostics =>
    rw [hanalyze, Analysis.relabel, List.map_map]
    refine List.map_congr_left fun x _ => ?_
    rw [Function.comp_apply, Finding.relabel_lines, Finding.toDiagnostic_rename]
  case text =>
    obtain ⟨t, ht, hk, hname⟩ := exists_token_of_mem_findings hx
    obtain ⟨head, tail, hmessage⟩ := Finding.exists_message_rename hname
    have hid : (x.rename id).message = head ++ t.lexeme ++ tail := hmessage id
    rw [Finding.rename_id] at hid
    exact ⟨t.lexeme, lexeme_mem_identifiers t ht hk, head, tail, hid, hmessage n,
      Finding.lookup_details hname⟩

/-- Two names change places, which the map keeps apart on this stream though not elsewhere. -/
theorem check_analyze_rename_sample :
    let n := fun name => if name = "x" then "y" else "x"
    let ts := (Document.ofText "int x;\nx = \"s\"\ny = 1; float y;").tokens
    let us := ts.map (Token.rename n)
    Set.InjOn n {name | name ∈ identifiers ts} ∧ n "y" = n "z" ∧
    Structure.check us = [.missingSemicolon 2] ∧
    (analyze us).table.entries.map SymbolTable.Entry.row =
      [[("name", .text "y"), ("type", .text "int"), ("line", .number 1), ("used", .flag true)],
        [("name", .text "x"), ("type", .text "float"), ("line", .number 3), ("used", .flag true)]] ∧
    (analyze us).findings.map Finding.message =
      ["Type error: cannot assign string to int variable 'y' (line 2)."] := by
  intro n ts us
  have hkept : ∀ a ∈ identifiers ts, ∀ b ∈ identifiers ts, n a = n b → a = b := by decide +kernel
  have hn : Set.InjOn n {name | name ∈ identifiers ts} := fun a ha b hb => hkept a ha b hb
  obtain ⟨hcheck, hrows, -, -⟩ := check_analyze_rename hn
  refine ⟨hn, rfl, hcheck.trans (by decide +kernel), hrows.trans (by decide +kernel), ?_⟩
  decide +kernel

/-- Where two names become one, so do their rows. -/
example :
    let ts : List Token :=
      [⟨.keyword, "int", 1, 0⟩, ⟨.identifier, "x", 1, 0⟩, ⟨.keyword, "int", 1, 0⟩,
        ⟨.identifier, "y", 1, 0⟩]
    (analyze ts).table.size = 2 ∧
      (analyze (ts.map (Token.rename fun _ => "z"))).table.size = 1 := by decide

end Names

end StagedAnalysis

import StagedAnalysis.Proofs.Layout.OneLine

/-!
# Independence of the layout

What the checks find in a stream is decided by its lexemes. The lines of the tokens are copied into
findings, and in one place they decide: the search for a semicolon ends where the line does. So the
same lexemes on other lines give the same findings on names and on delimiters, each with the line of
the same token, and where no line is broken that was not broken before no assignment loses its
semicolon.

* `terminated_of_keepsLines`, `unterminated_of_keepsLines`: the one decision that looks at lines.
* `check_sublist`: nothing new is found where lines are only joined.
* `layout_independent`: the main statement.
-/

namespace StagedAnalysis

/-- Neighbours that stand on one line in the first stream do so in the second. -/
def KeepsLines (ts us : List Token) : Prop :=
  ∀ (i : Nat) (t t' u u' : Token), ts[i]? = some t → ts[i + 1]? = some t' →
    us[i]? = some u → us[i + 1]? = some u' → t.line = t'.line → u.line = u'.line

theorem KeepsLines.tail {t u : Token} {ts us : List Token} (h : KeepsLines (t :: ts) (u :: us)) :
    KeepsLines ts us := fun i => h (i + 1)

theorem KeepsLines.drop {ts us : List Token} (h : KeepsLines ts us) (n : Nat) :
    KeepsLines (ts.drop n) (us.drop n) := by
  intro i
  simp only [List.getElem?_drop, ← Nat.add_assoc]
  exact h (n + i)

theorem keepsLines_of_forall {ts us : List Token} {line : Int} (h : ∀ u ∈ us, u.line = line) :
    KeepsLines ts us := by
  intro i t t' u u' _ _ hu hu' _
  rw [h u (List.mem_of_getElem? hu), h u' (List.mem_of_getElem? hu')]

theorem SameLexemes.drop {ts us : List Token} (h : SameLexemes ts us) (n : Nat) :
    SameLexemes (ts.drop n) (us.drop n) := by
  unfold SameLexemes
  rw [List.map_drop, List.map_drop, h]

/-- Tokens with the same lexeme are alike but for their place. -/
theorem Token.eq_of_asLexeme {t u : Token} (h : t.asLexeme = u.asLexeme) :
    t.kind = u.kind ∧ t.lexeme = u.lexeme :=
  ⟨congrArg Lexeme.kind h, String.toList_inj.1 (congrArg Lexeme.text h)⟩

namespace Structure

/-! ## Assignments -/

/-- A semicolon that is found on its line is found again: no token on the way leaves the line. -/
theorem terminated_of_keepsLines {t u : Token} {ts us : List Token} (h : SameLexemes ts us)
    (hk : KeepsLines (t :: ts) (u :: us)) (ht : terminated t.line ts = true) :
    terminated u.line us = true := by
  induction ts generalizing t u us with
  | nil => cases ht
  | cons t' ts ih =>
    cases us with
    | nil => cases h
    | cons u' us =>
      obtain ⟨hl, h⟩ := List.cons.inj h
      obtain ⟨hkind, hlex⟩ := Token.eq_of_asLexeme hl
      rw [terminated_cons, Bool.and_eq_true, beq_iff_eq, Bool.or_eq_true] at ht ⊢
      obtain ⟨htt, ht⟩ := ht
      have huu : u.line = u'.line := hk 0 t t' u u' rfl rfl rfl rfl htt.symm
      refine ⟨huu.symm, ?_⟩
      rcases ht with ht | ht
      · rw [Token.isPunct, hkind, hlex] at ht
        exact .inl ht
      · rw [huu]
        exact .inr (ih h hk.tail (htt ▸ ht))

theorem unterminated_of_keepsLines {ts us : List Token} (h : SameLexemes ts us)
    (hk : KeepsLines ts us) {p : Nat} (hu : Unterminated us p) : Unterminated ts p := by
  obtain ⟨u, after, he, ha, hn⟩ := hu
  have h' := h.drop p
  have hk' := hk.drop p
  rw [he] at h' hk'
  cases hd : ts.drop p with
  | nil =>
    rw [hd] at h'
    cases h'
  | cons t before =>
    rw [hd] at h' hk'
    obtain ⟨hl, h'⟩ := List.cons.inj h'
    refine ⟨t, before, hd, (Token.eq_of_asLexeme hl).1.trans ha, fun ht => hn ?_⟩
    exact terminated_iff.1 (terminated_of_keepsLines h' hk' (terminated_iff.2 ht))

theorem unterminated_sublist {ts us : List Token} (h : SameLexemes ts us) (hk : KeepsLines ts us)
    (line : Int) :
    ((unterminated us).map (Finding.mapLine fun _ => line)).Sublist
      ((unterminated ts).map (Finding.mapLine fun _ => line)) := by
  induction ts generalizing us with
  | nil =>
    obtain rfl : us = [] := List.map_eq_nil_iff.1 h.symm
    exact .refl _
  | cons t ts ih =>
    cases us with
    | nil => cases h
    | cons u us =>
      obtain ⟨hl, h⟩ := List.cons.inj h
      have hi := ih h hk.tail
      have ht := terminated_of_keepsLines h hk
      rw [unterminated, unterminated, (Token.eq_of_asLexeme hl).1]
      by_cases hu : u.kind = .assignment ∧ terminated u.line us = false
      · have ht' : terminated t.line ts = false :=
          Bool.eq_false_iff.2 fun htrue => Bool.false_ne_true (hu.2.symm.trans (ht htrue))
        rw [if_pos hu, if_pos ⟨hu.1, ht'⟩]
        exact hi.cons_cons _
      · rw [if_neg hu]
        split
        · exact hi.cons _
        · exact hi

/-! ## The whole check -/

theorem unmatchedClosers_congr {ts us : List Token} (h : SameLexemes ts us) (line : Int) :
    (unmatchedClosers {} us).map (Finding.mapLine fun _ => line) =
      (unmatchedClosers {} ts).map (Finding.mapLine fun _ => line) := by
  have hs : ∀ ts : List Token, (unmatchedClosers {} ts).map (Finding.mapLine fun _ => line) =
      (unmatchedClosers {} (spread ts)).map (Finding.mapLine fun _ => line) := by
    intro ts
    conv_lhs =>
      rw [← map_putBack_spread ts, unmatchedClosers_map (moves_putBack ts).relabels, List.map_map]
    exact List.map_congr_left fun f _ => f.mapLine_mapLine _ _
  rw [hs us, hs ts, spread_eq h]

/-- Where lines are only joined, nothing new is found. -/
theorem check_sublist {ts us : List Token} (h : SameLexemes ts us) (hk : KeepsLines ts us)
    (line : Int) :
    ((check us).map (Finding.mapLine fun _ => line)).Sublist
      ((check ts).map (Finding.mapLine fun _ => line)) := by
  simp only [check, unbalanced, List.map_append, unmatchedClosers_congr h, finalDepths_congr h]
  exact (unterminated_sublist h hk line).append (.refl _)

/-- A finding shows the line of one of the tokens, or none. -/
theorem line_of_mem_check {ts : List Token} {f : Finding} (h : f ∈ check ts) {line : Int}
    (hl : f.line? = some line) : ∃ t ∈ ts, t.line = line := by
  have hr : (∃ t ∈ ts, f.line? = some t.line) ∨ f.line? = none := by
    rcases List.mem_append.1 h with h | h
    · exact .inl ((reported_unterminated ts).line_of_mem h)
    · rcases List.mem_append.1 h with h | h
      · exact .inl ((reported_unmatchedClosers {} ts).line_of_mem h)
      · obtain ⟨k, -, hk⟩ := List.mem_filterMap.1 h
        split at hk
        · cases hk
          exact .inr rfl
        · cases hk
  rcases hr with ⟨t, ht, hr⟩ | hr
  · exact ⟨t, ht, Option.some.inj (hr.symm.trans hl)⟩
  · rw [hr] at hl
    cases hl

/-- Findings show no lines but those of the tokens. -/
theorem map_mapLine_check {f : Int → Int} {ts : List Token} (h : ∀ t ∈ ts, f t.line = t.line) :
    (check ts).map (Finding.mapLine f) = check ts := by
  refine (List.map_congr_left fun x hx => ?_).trans (List.map_id' _)
  refine Finding.mapLine_eq_self fun line hl => ?_
  obtain ⟨t, ht, rfl⟩ := line_of_mem_check hx hl
  exact h t ht

end Structure

namespace Names

/-- Rows and findings on the same lexemes are the same but for their lines. -/
theorem analyze_congr {ts us : List Token} (h : SameLexemes ts us) :
    ((analyze us).findings.map fun f => (f.code, f.details)) =
        ((analyze ts).findings.map fun f => (f.code, f.details)) ∧
      ((analyze us).table.entries.map fun e => (e.symbol.name, e.symbol.type, e.used)) =
        (analyze ts).table.entries.map fun e => (e.symbol.name, e.symbol.type, e.used) := by
  have hf : ∀ a : Analysis, (a.findings.map fun f => (f.code, f.details)) =
      (a.mapLine fun _ => 0).findings.map fun f => (f.code, f.details) := by
    intro a
    simp only [Analysis.mapLine, List.map_map, Function.comp_def, Finding.code_mapLine,
      Finding.details_mapLine]
  have he : ∀ a : Analysis,
      (a.table.entries.map fun e => (e.symbol.name, e.symbol.type, e.used)) =
        (a.mapLine fun _ => 0).table.entries.map fun e =>
          (e.symbol.name, e.symbol.type, e.used) := by
    intro a
    rw [Analysis.mapLine, SymbolTable.entries_mapLine, List.map_map]
    rfl
  rw [hf (analyze us), hf (analyze ts), he (analyze us), he (analyze ts), analyze_mapLine_eq h 0]
  exact ⟨rfl, rfl⟩

end Names

/-! ## Layouts -/

open Structure Names

/-- The lexemes decide what is found, and the lines only where. Findings stand at positions of the
stream, which are said here without the lines: those of closers and of findings on names are the
same in all layouts, and an assignment loses its semicolon only where a line is broken. So what is
read from several lines and is then put on one has the same rows and findings on names, and no new
finding on its structure. -/
theorem layout_independent :
    (∀ ts : List Token,
      Reported ts (Unterminated ts) ((check ts).filter (·.code == "S001")) ∧
      Reported ts (Unmatched {} ts) ((check ts).filter (·.code == "S002")) ∧
      ∃ ps : List Nat, ∀ us, SameLexemes ts us →
        List.Forall₂ (Finding.StandsAt us) ps (analyze us).findings ∧
        ((analyze us).findings.map fun f => (f.code, f.details)) =
          ((analyze ts).findings.map fun f => (f.code, f.details)) ∧
        ((analyze us).table.entries.map fun e => (e.symbol.name, e.symbol.type, e.used)) =
          ((analyze ts).table.entries.map fun e => (e.symbol.name, e.symbol.type, e.used)) ∧
        (∀ p, Unmatched {} us p ↔ Unmatched {} ts p) ∧
        (check us).filter (·.code == "S003") = (check ts).filter (·.code == "S003") ∧
        (KeepsLines ts us → ∀ p, Unterminated us p → Unterminated ts p)) ∧
    ∀ text : String, (Document.ofText text).ok = true →
      let ts := (Document.ofText text).tokens
      let us := (Document.ofText (onOneLine text)).tokens
      (Document.ofText (onOneLine text)).ok = true ∧ SameLexemes ts us ∧ KeepsLines ts us ∧
        (check us).Sublist ((check ts).map (Finding.mapLine fun _ => 1)) ∧
        analyze us = (analyze ts).mapLine fun _ => 1 := by
  refine ⟨fun ts => ?streams, fun text h => ?texts⟩
  case streams =>
    obtain ⟨h1, h2, -⟩ := check_filter_code ts
    obtain ⟨ps, hps⟩ := exists_positions ts
    refine ⟨h1 ▸ reported_unterminated ts, h2 ▸ reported_unmatchedClosers {} ts, ps, ?_⟩
    intro us h
    obtain ⟨hf, he⟩ := analyze_congr h
    refine ⟨hps us h, hf, he, fun p => (unmatched_congr h).symm, ?_,
      fun hk p => unterminated_of_keepsLines h hk⟩
    rw [(check_filter_code us).2.2, (check_filter_code ts).2.2, finalDepths_congr h]
  case texts =>
    obtain ⟨hok, hs, hl⟩ := ofText_onOneLine h
    have hk : KeepsLines (Document.ofText text).tokens _ := keepsLines_of_forall hl
    refine ⟨hok, hs, hk, ?_, ?_⟩
    · rw [← map_mapLine_check (f := fun _ => 1) fun t ht => (hl t ht).symm]
      exact check_sublist hs hk 1
    · rw [← mapLine_analyze (f := fun _ => 1) fun t ht => (hl t ht).symm]
      exact (analyze_mapLine_eq hs 1).symm

/-- A semicolon on the next line comes too late for the first assignment, and on one line it does
not. The names without a declaration are found in both. -/
theorem layout_independent_sample :
    let ts := (Document.ofText "x = 1\n; z = 2;").tokens
    let us := (Document.ofText (onOneLine "x = 1\n; z = 2;")).tokens
    check ts = [.missingSemicolon 1] ∧ check us = [] ∧
      (analyze ts).findings = [.undeclared "x" 1, .undeclared "z" 2] ∧
      (analyze us).findings = [.undeclared "x" 1, .undeclared "z" 1] ∧
      (check us).Sublist ((check ts).map (Finding.mapLine fun _ => 1)) ∧
      ∀ p, Unmatched {} us p ↔ Unmatched {} ts p := by
  have hok : (Document.ofText "x = 1\n; z = 2;").ok = true := by decide +kernel
  obtain ⟨hstreams, htexts⟩ := layout_independent
  obtain ⟨-, hs, -, hsub, -⟩ := htexts _ hok
  obtain ⟨-, -, ps, hps⟩ := hstreams (Document.ofText "x = 1\n; z = 2;").tokens
  refine ⟨by decide +kernel, by decide +kernel, by decide +kernel, by decide +kernel, hsub, ?_⟩
  exact (hps _ hs).2.2.2.1

end StagedAnalysis

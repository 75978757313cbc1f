import Mathlib.Logic.Function.Basic
import StagedAnalysis.Proofs.Document.Append
import StagedAnalysis.Structure.Check

/-!
# Parts of a token stream

How the check of a stream follows from its parts. The search for a semicolon never leaves a line, so
parts on lines of their own are searched apart. The counts of open delimiters run through all parts;
a part that leaves nothing open and closes nothing too much leaves them as they are, whatever they
are when it begins.

* `unterminated_append`, `unmatchedClosers_append`: findings part by part.
* `steps_add`: what a part does to some counts it does to any greater ones.
* `check_insert`: a part without findings may be put in or left out.
* `check_map`: lines count only as equal or different, so they may be renumbered. For the delimiters
  they do not count at all (`unmatchedClosers_map`). Names may be changed at will.
-/

namespace StagedAnalysis

/-- The map keeps kinds and lexemes, and gives the lines the numbers of `f`. Columns are free. -/
structure Token.Moves (f : Int → Int) (g : Token → Token) : Prop where
  kind (t : Token) : (g t).kind = t.kind
  lexeme (t : Token) : (g t).lexeme = t.lexeme
  line (t : Token) : (g t).line = f t.line

/-- The map keeps kinds, gives identifiers the names of `n` and the lines the numbers of `f`. All
other lexemes stay. Columns are free. -/
structure Token.Relabels (f : Int → Int) (n : String → String) (g : Token → Token) : Prop where
  kind (t : Token) : (g t).kind = t.kind
  lexeme (t : Token) : (g t).lexeme = if t.kind = .identifier then n t.lexeme else t.lexeme
  line (t : Token) : (g t).line = f t.line

theorem Token.Moves.relabels {f : Int → Int} {g : Token → Token} (hg : Token.Moves f g) :
    Token.Relabels f id g where
  kind := hg.kind
  lexeme t := by rw [hg.lexeme, id, ite_self]
  line := hg.line

theorem Token.moves_mapLine (f : Int → Int) : Token.Moves f (Token.mapLine f) :=
  ⟨fun _ => rfl, fun _ => rfl, fun _ => rfl⟩

/-- The finding with another number for its line. -/
def Finding.mapLine (f : Int → Int) : Finding → Finding
  | missingSemicolon line => missingSemicolon (f line)
  | unmatchedCloser delimiter line => unmatchedCloser delimiter (f line)
  | unmatchedOpener delimiter count => unmatchedOpener delimiter count
  | undeclared name line => undeclared name (f line)
  | stringToInt name line => stringToInt name (f line)
  | unused name line => unused name (f line)

namespace Structure

/-! ## Assignments -/

theorem terminated_cons (line : Int) (t : Token) (ts : List Token) :
    terminated line (t :: ts) = (t.line == line && (t.isPunct ";" || terminated line ts)) := by
  unfold terminated
  rw [List.takeWhile_cons]
  cases t.line == line <;> simp

theorem terminated_append {line : Int} {ts us : List Token} (h : ∀ u ∈ us, u.line ≠ line) :
    terminated line (ts ++ us) = terminated line ts := by
  induction ts with
  | nil =>
    cases us with
    | nil => rfl
    | cons u us => simp [terminated, h u (.head _)]
  | cons t ts ih =>
    unfold terminated at ih ⊢
    by_cases ht : t.line = line <;> simp [ht, ih]

theorem unterminated_append {ts us : List Token} (h : ∀ t ∈ ts, ∀ u ∈ us, u.line ≠ t.line) :
    unterminated (ts ++ us) = unterminated ts ++ unterminated us := by
  induction ts with
  | nil => rfl
  | cons t ts ih =>
    have hi := ih fun t ht => h t (.tail _ ht)
    simp only [List.cons_append, unterminated, terminated_append (h t (.head _)), hi]
    split <;> rfl

/-! ## Delimiters -/

theorem unmatchedClosers_append (d : Depths) (ts us : List Token) :
    unmatchedClosers d (ts ++ us) =
      unmatchedClosers d ts ++ unmatchedClosers (ts.foldl Depths.step d) us := by
  induction ts generalizing d with
  | nil => rfl
  | cons t ts ih => simp [unmatchedClosers, ih]

namespace Depths

instance : Add Depths := ⟨fun d e => ⟨d.parenthesis + e.parenthesis, d.brace + e.brace⟩⟩

@[simp] theorem get_add (d e : Depths) (k : Delimiter) : (d + e).get k = d.get k + e.get k := by
  cases k <;> rfl

theorem ext_get {d e : Depths} (h : ∀ k, d.get k = e.get k) : d = e := by
  obtain ⟨p, b⟩ := d
  obtain ⟨q, c⟩ := e
  have hp : p = q := h .parenthesis
  have hb : b = c := h .brace
  rw [hp, hb]

theorem get_set (d : Depths) (j k : Delimiter) (n : Nat) :
    (d.set k n).get j = if j = k then n else d.get j := by
  split
  · next h => rw [h, get_set_self]
  · next h => exact get_set_of_ne d n h

theorem add_empty (d : Depths) : d + {} = d := rfl

/-- A token that closes nothing too much does the same to greater counts. -/
theorem step_add {d e : Depths} {t : Token} (h : e.unmatched? t = none) :
    (d + e).unmatched? t = none ∧ (d + e).step t = d + e.step t := by
  unfold unmatched? step at *
  cases hs : delimiter? t with
  | none => exact ⟨rfl, rfl⟩
  | some sk =>
    obtain ⟨side, k⟩ := sk
    cases side with
    | opening =>
      refine ⟨rfl, ext_get fun j => ?_⟩
      simp only [get_set, get_add]
      by_cases hj : j = k <;> simp [hj, Nat.add_assoc]
    | closing =>
      have hk : e.get k ≠ 0 := by simpa [hs] using h
      refine ⟨by simp [hk], ext_get fun j => ?_⟩
      simp only [get_set, get_add]
      by_cases hj : j = k
      · simp only [hj, if_true]
        omega
      · simp [hj]

end Depths

/-- A part that closes nothing too much does the same to greater counts. -/
theorem steps_add {e : Depths} {ts : List Token} (h : unmatchedClosers e ts = []) (d : Depths) :
    unmatchedClosers (d + e) ts = [] ∧
      ts.foldl Depths.step (d + e) = d + ts.foldl Depths.step e := by
  induction ts generalizing e with
  | nil => exact ⟨rfl, rfl⟩
  | cons t ts ih =>
    obtain ⟨ht, hts⟩ := List.append_eq_nil_iff.1 h
    obtain ⟨hu, hs⟩ := Depths.step_add (d := d) (by simpa using ht)
    simpa [unmatchedClosers, hu, hs] using ih hts

theorem unmatchedOpeners_eq_nil_iff {d : Depths} : unmatchedOpeners d = [] ↔ d = {} := by
  refine ⟨fun h => Depths.ext_get fun k => ?_, fun h => h ▸ rfl⟩
  have hk : ¬0 < d.get k := fun hpos => by
    have hm : Finding.unmatchedOpener k (d.get k) ∈ unmatchedOpeners d :=
      List.mem_filterMap.2 ⟨k, by cases k <;> simp, by simp [hpos]⟩
    rw [h] at hm
    cases hm
  cases k <;> exact Nat.eq_zero_of_not_pos hk

/-- A part without findings passes any counts on. -/
theorem steps_of_unbalanced {ts : List Token} (h : unbalanced ts = []) (d : Depths) :
    unmatchedClosers d ts = [] ∧ ts.foldl Depths.step d = d := by
  obtain ⟨hc, ho⟩ := List.append_eq_nil_iff.1 h
  have hf : ts.foldl Depths.step {} = {} := unmatchedOpeners_eq_nil_iff.1 ho
  have hd := steps_add hc d
  rwa [hf, Depths.add_empty] at hd

/-! ## A part without findings -/

/-- A part without findings that stands on lines of its own changes nothing. -/
theorem check_insert {as bs cs : List Token} (h : check bs = [])
    (hab : ∀ a ∈ as, ∀ b ∈ bs, b.line ≠ a.line) (hac : ∀ a ∈ as, ∀ c ∈ cs, c.line ≠ a.line)
    (hbc : ∀ b ∈ bs, ∀ c ∈ cs, c.line ≠ b.line) : check (as ++ (bs ++ cs)) = check (as ++ cs) := by
  obtain ⟨hu, hb⟩ := List.append_eq_nil_iff.1 h
  have habc : ∀ a ∈ as, ∀ t ∈ bs ++ cs, t.line ≠ a.line := by
    intro a ha t ht
    rcases List.mem_append.1 ht with ht | ht
    · exact hab a ha t ht
    · exact hac a ha t ht
  obtain ⟨hc, hs⟩ := steps_of_unbalanced hb (as.foldl Depths.step {})
  have hun : unterminated (as ++ (bs ++ cs)) = unterminated (as ++ cs) := by
    rw [unterminated_append habc, unterminated_append hbc, unterminated_append hac, hu,
      List.nil_append]
  have hcl : unmatchedClosers {} (as ++ (bs ++ cs)) = unmatchedClosers {} (as ++ cs) := by
    simp only [unmatchedClosers_append, hc, hs, List.nil_append]
  have hfin : finalDepths (as ++ (bs ++ cs)) = finalDepths (as ++ cs) := by
    simp only [finalDepths, List.foldl_append, hs]
  simp only [check, unbalanced, hun, hcl, hfin]

/-! ## Other lines and names -/

section
variable {f : Int → Int} {n : String → String} {g : Token → Token} (hg : Token.Relabels f n g)
include hg

/-- Names are not looked at: an identifier is no punctuation. -/
theorem isPunct_move (t : Token) (text : String) : (g t).isPunct text = t.isPunct text := by
  rw [Token.isPunct, Token.isPunct, hg.kind, hg.lexeme]
  split
  · next ht => rw [ht]; rfl
  · rfl

theorem delimiter?_move (t : Token) : delimiter? (g t) = delimiter? t := by
  simp only [delimiter?, isPunct_move hg]

theorem terminated_map (hf : Function.Injective f) (line : Int) (ts : List Token) :
    terminated (f line) (ts.map g) = terminated line ts := by
  have hl : ∀ t : Token, ((g t).line == f line) = (t.line == line) := fun t => by
    rw [Bool.eq_iff_iff, beq_iff_eq, beq_iff_eq, hg.line]
    exact hf.eq_iff
  unfold terminated
  rw [List.takeWhile_map, List.any_map]
  simp [Function.comp_def, hl, isPunct_move hg]

theorem unterminated_map (hf : Function.Injective f) (ts : List Token) :
    unterminated (ts.map g) = (unterminated ts).map (Finding.mapLine f) := by
  induction ts with
  | nil => rfl
  | cons t ts ih =>
    simp only [List.map_cons, unterminated, hg.kind, hg.line, terminated_map hg hf, ih]
    split <;> rfl

theorem step_move (d : Depths) (t : Token) : d.step (g t) = d.step t := by
  rw [Depths.step, Depths.step, delimiter?_move hg]

theorem unmatched?_move (d : Depths) (t : Token) :
    d.unmatched? (g t) = (d.unmatched? t).map (Finding.mapLine f) := by
  unfold Depths.unmatched?
  rw [delimiter?_move hg, hg.line]
  cases delimiter? t with
  | none => rfl
  | some sk =>
    obtain ⟨_ | _, k⟩ := sk
    · rfl
    · by_cases hk : d.get k = 0 <;> simp [hk, Finding.mapLine]

theorem unmatchedClosers_map (d : Depths) (ts : List Token) :
    unmatchedClosers d (ts.map g) = (unmatchedClosers d ts).map (Finding.mapLine f) := by
  induction ts generalizing d with
  | nil => rfl
  | cons t ts ih =>
    simp only [List.map_cons, unmatchedClosers, step_move hg, ih, unmatched?_move hg,
      List.map_append, Option.toList_map]

theorem finalDepths_map (ts : List Token) : finalDepths (ts.map g) = finalDepths ts := by
  rw [finalDepths, List.foldl_map]
  simp only [step_move hg]
  rfl

end

theorem unmatchedOpeners_map_mapLine (f : Int → Int) (d : Depths) :
    (unmatchedOpeners d).map (Finding.mapLine f) = unmatchedOpeners d := by
  unfold unmatchedOpeners
  rw [List.map_filterMap]
  congr 1
  funext k
  split <;> rfl

/-- The check of a stream whose lines have other numbers and whose identifiers have other names. -/
theorem check_map {f : Int → Int} {n : String → String} {g : Token → Token}
    (hg : Token.Relabels f n g) (hf : Function.Injective f) (ts : List Token) :
    check (ts.map g) = (check ts).map (Finding.mapLine f) := by
  simp only [check, unbalanced, List.map_append, unterminated_map hg hf, unmatchedClosers_map hg,
    unmatchedOpeners_map_mapLine, finalDepths_map hg]

end Structure

end StagedAnalysis

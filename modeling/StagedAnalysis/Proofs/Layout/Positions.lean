import Mathlib.Data.List.Forall2
import StagedAnalysis.Proofs.Names.Renumbering
import StagedAnalysis.Proofs.Token.MaximalCut

/-!
# Positions of findings

A finding shows a line, but it is about one token of the stream. Here the positions of these tokens
are said without the lines, so that the findings of streams with the same lexemes can be compared.

* `Reported`: one finding for each position of some kind, in order, with the line of its token.
* `Unterminated`, `reported_unterminated`: assignments that meet no semicolon on their line.
* `Unmatched`, `reported_unmatchedClosers`: closers with nothing open before them.
* `check_filter_code`: the three parts of the check by their codes.
* `exists_positions`: the positions of the findings on names, the same for all streams with these
  lexemes.
-/

namespace StagedAnalysis

/-- Position by position the same kind and the same lexeme, on any lines and in any columns. -/
def SameLexemes (ts us : List Token) : Prop := ts.map Token.asLexeme = us.map Token.asLexeme

instance (ts us : List Token) : Decidable (SameLexemes ts us) := inferInstanceAs (Decidable (_ = _))

/-- The finding shows the line of the token at this position. -/
def Finding.StandsAt (ts : List Token) (p : Nat) (f : Finding) : Prop :=
  ∃ t, ts[p]? = some t ∧ f.line? = some t.line

/-- The findings are one for each position that `P` holds of, in the order of the tokens. -/
def Reported (ts : List Token) (P : Nat → Prop) (fs : List Finding) : Prop :=
  ∃ ps : List Nat, ps.Pairwise (· < ·) ∧ (∀ p, p ∈ ps ↔ P p) ∧
    List.Forall₂ (Finding.StandsAt ts) ps fs

namespace Reported

variable {t : Token} {ts : List Token} {P : Nat → Prop} {fs : List Finding}

theorem nil (h : ∀ p, ¬P p) : Reported ts P [] :=
  ⟨[], .nil, fun p => by simp [h p], .nil⟩

/-- The positions behind the first token. -/
theorem shift {ps : List Nat} (h : ps.Pairwise (· < ·))
    (hf : List.Forall₂ (Finding.StandsAt ts) ps fs) :
    (ps.map (· + 1)).Pairwise (· < ·) ∧
      List.Forall₂ (Finding.StandsAt (t :: ts)) (ps.map (· + 1)) fs :=
  ⟨h.map _ fun _ _ => Nat.succ_lt_succ, List.forall₂_map_left_iff.2 hf⟩

theorem skip (h : Reported ts (fun p => P (p + 1)) fs) (h0 : ¬P 0) : Reported (t :: ts) P fs := by
  obtain ⟨ps, hs, hm, hf⟩ := h
  obtain ⟨hs, hf⟩ := shift (t := t) hs hf
  refine ⟨_, hs, fun p => ?_, hf⟩
  cases p with
  | zero => simp [h0]
  | succ p => simp [hm]

theorem cons {f : Finding} (h : Reported ts (fun p => P (p + 1)) fs) (h0 : P 0)
    (hl : f.line? = some t.line) : Reported (t :: ts) P (f :: fs) := by
  obtain ⟨ps, hs, hm, hf⟩ := h
  obtain ⟨hs, hf⟩ := shift (t := t) hs hf
  refine ⟨0 :: ps.map (· + 1), .cons (by simp) hs, fun p => ?_, .cons ⟨t, rfl, hl⟩ hf⟩
  cases p with
  | zero => simp [h0]
  | succ p => simp [hm]

theorem line_of_mem {f : Finding} (h : Reported ts P fs) (hf : f ∈ fs) :
    ∃ t ∈ ts, f.line? = some t.line := by
  obtain ⟨ps, -, -, hfs⟩ := h
  induction hfs with
  | nil => cases hf
  | cons ha _ ih =>
    rcases List.mem_cons.1 hf with rfl | hf
    · obtain ⟨t, ht, hl⟩ := ha
      exact ⟨t, List.mem_of_getElem? ht, hl⟩
    · exact ih hf

end Reported

/-! ## Tokens that show their positions -/

/-- The stream with each token on a line of its own, numbered by its position. -/
def spread (ts : List Token) : List Token :=
  ts.mapIdx fun i t => { t with line := i, column := 0 }

theorem spread_eq {ts us : List Token} (h : SameLexemes ts us) : spread ts = spread us := by
  have hs : ∀ (ts : List Token) (i : Nat), (spread ts)[i]? =
      (ts.map Token.asLexeme)[i]?.map fun l => ⟨l.kind, String.ofList l.text, i, 0⟩ := by
    intro ts i
    rw [spread, List.getElem?_mapIdx, List.getElem?_map, Option.map_map]
    simp only [Function.comp_def, Token.asLexeme, String.ofList_toList]
  refine List.ext_getElem? fun i => ?_
  rw [hs, hs, h]

theorem line_of_mem_spread {ts : List Token} {t : Token} (h : t ∈ spread ts) :
    ∃ (i : Nat) (u : Token), ts[i]? = some u ∧ t.line = i := by
  obtain ⟨i, hi⟩ := List.mem_iff_getElem?.1 h
  rw [spread, List.getElem?_mapIdx, Option.map_eq_some_iff] at hi
  obtain ⟨u, hu, rfl⟩ := hi
  exact ⟨i, u, hu, rfl⟩

/-- The line of the token at a position. -/
def lineAt (ts : List Token) (i : Int) : Int := (ts[i.toNat]?.map Token.line).getD i

/-- Takes a token to the place of the token at the position that it shows. -/
def putBack (ts : List Token) (t : Token) : Token :=
  { t with
    line := lineAt ts t.line
    column := (ts[t.line.toNat]?.map Token.column).getD 0 }

theorem moves_putBack (ts : List Token) : Token.Moves (lineAt ts) (putBack ts) :=
  ⟨fun _ => rfl, fun _ => rfl, fun _ => rfl⟩

theorem map_putBack_spread (ts : List Token) : (spread ts).map (putBack ts) = ts := by
  refine List.ext_getElem? fun i => ?_
  rw [List.getElem?_map, spread, List.getElem?_mapIdx]
  cases hi : ts[i]? with
  | none => rfl
  | some t => simp [putBack, lineAt, hi]

namespace Structure

/-! ## Assignments -/

/-- A semicolon comes, and no token before it or the semicolon itself leaves the line. -/
def EndsOnLine (line : Int) (after : List Token) : Prop :=
  ∃ between semicolon rest, after = between ++ semicolon :: rest ∧
    semicolon.isPunct ";" = true ∧ ∀ t ∈ between ++ [semicolon], t.line = line

theorem terminated_iff {line : Int} {after : List Token} :
    terminated line after = true ↔ EndsOnLine line after := by
  unfold terminated
  rw [List.any_eq_true]
  constructor
  · rintro ⟨s, hs, hp⟩
    obtain ⟨between, rest, he⟩ := List.append_of_mem hs
    have hl : ∀ t ∈ between ++ s :: rest, t.line = line := by
      intro t ht
      rw [← he] at ht
      exact eq_of_beq (List.all_eq_true.1 List.all_takeWhile t ht)
    refine ⟨between, s, rest ++ after.dropWhile (·.line == line), ?_, hp, fun t ht => hl t ?_⟩
    · rw [← List.cons_append, ← List.append_assoc, ← he, List.takeWhile_append_dropWhile]
    · rw [List.append_cons]
      exact List.mem_append_left _ ht
  · rintro ⟨between, s, rest, rfl, hp, hl⟩
    have hl' : ∀ t ∈ between ++ [s], (t.line == line) = true := fun t ht => by simpa using hl t ht
    refine ⟨s, ?_, hp⟩
    rw [List.append_cons, List.takeWhile_append_of_pos hl']
    simp

/-- An assignment stands at the position, and no semicolon ends it. -/
def Unterminated (ts : List Token) (p : Nat) : Prop :=
  ∃ t after, ts.drop p = t :: after ∧ t.kind = .assignment ∧ ¬EndsOnLine t.line after

theorem unterminated_zero {t : Token} {ts : List Token} :
    Unterminated (t :: ts) 0 ↔ t.kind = .assignment ∧ terminated t.line ts = false := by
  rw [← Bool.not_eq_true, terminated_iff]
  constructor
  · rintro ⟨u, us, he, h⟩
    obtain ⟨rfl, rfl⟩ := List.cons.inj he
    exact h
  · exact fun h => ⟨t, ts, rfl, h⟩

theorem reported_unterminated (ts : List Token) :
    Reported ts (Unterminated ts) (unterminated ts) := by
  induction ts with
  | nil => exact .nil fun p ⟨t, after, he, _⟩ => by simp at he
  | cons t ts ih =>
    rw [unterminated]
    split
    · next h => exact .cons ih (unterminated_zero.2 h) rfl
    · next h => exact .skip ih (mt unterminated_zero.1 h)

/-! ## Delimiters -/

/-- A closer stands at the position, and the tokens before it leave nothing open for it, with the
counts of `d` before them. -/
def Unmatched (d : Depths) (ts : List Token) (p : Nat) : Prop :=
  ∃ t after k, ts.drop p = t :: after ∧ delimiter? t = some (.closing, k) ∧
    ((ts.take p).foldl Depths.step d).get k = 0

theorem unmatched_zero {d : Depths} {t : Token} {ts : List Token} :
    Unmatched d (t :: ts) 0 ↔ ∃ k, delimiter? t = some (.closing, k) ∧ d.get k = 0 := by
  constructor
  · rintro ⟨u, us, k, he, h⟩
    obtain ⟨rfl, rfl⟩ := List.cons.inj he
    exact ⟨k, h⟩
  · exact fun ⟨k, h⟩ => ⟨t, ts, k, rfl, h⟩

theorem reported_unmatchedClosers (d : Depths) (ts : List Token) :
    Reported ts (Unmatched d ts) (unmatchedClosers d ts) := by
  induction ts generalizing d with
  | nil => exact .nil fun p ⟨t, after, k, he, _⟩ => by simp at he
  | cons t ts ih =>
    have ih := ih (d.step t)
    unfold unmatchedClosers Depths.unmatched?
    split
    · next k hk =>
      split
      · next h0 => exact .cons ih (unmatched_zero.2 ⟨k, hk, h0⟩) rfl
      · next h0 =>
        refine .skip ih fun h => ?_
        obtain ⟨j, hj, h⟩ := unmatched_zero.1 h
        rw [hk] at hj
        cases hj
        exact h0 h
    · next hk =>
      refine .skip ih fun h => ?_
      obtain ⟨j, hj, -⟩ := unmatched_zero.1 h
      exact hk j hj

theorem unmatched_map {f : Int → Int} {g : Token → Token} (hg : Token.Moves f g) {d : Depths}
    {ts : List Token} {p : Nat} : Unmatched d (ts.map g) p ↔ Unmatched d ts p := by
  unfold Unmatched
  rw [← List.map_drop, ← List.map_take, List.foldl_map]
  simp only [step_move hg.relabels]
  cases ts.drop p with
  | nil => simp
  | cons t after => simp [delimiter?_move hg.relabels]

/-- The counts of delimiters do not know of lines. -/
theorem unmatched_congr {ts us : List Token} (h : SameLexemes ts us) {d : Depths} {p : Nat} :
    Unmatched d ts p ↔ Unmatched d us p := by
  rw [← map_putBack_spread ts, ← map_putBack_spread us, unmatched_map (moves_putBack ts),
    unmatched_map (moves_putBack us), spread_eq h]

theorem finalDepths_congr {ts us : List Token} (h : SameLexemes ts us) :
    finalDepths ts = finalDepths us := by
  rw [← map_putBack_spread ts, ← map_putBack_spread us, finalDepths_map (moves_putBack ts).relabels,
    finalDepths_map (moves_putBack us).relabels, spread_eq h]

/-! ## Codes -/

theorem code_of_mem_unterminated {ts : List Token} {f : Finding} (h : f ∈ unterminated ts) :
    f.code = "S001" := by
  induction ts with
  | nil => cases h
  | cons t ts ih =>
    rw [unterminated] at h
    split at h
    · rcases List.mem_cons.1 h with rfl | h
      · rfl
      · exact ih h
    · exact ih h

theorem code_of_mem_unmatchedClosers {d : Depths} {ts : List Token} {f : Finding}
    (h : f ∈ unmatchedClosers d ts) : f.code = "S002" := by
  induction ts generalizing d with
  | nil => cases h
  | cons t ts ih =>
    rcases List.mem_append.1 h with h | h
    · unfold Depths.unmatched? at h
      split at h
      · split at h
        · rw [List.mem_singleton.1 h]
          rfl
        · cases h
      · cases h
    · exact ih h

theorem code_of_mem_unmatchedOpeners {d : Depths} {f : Finding} (h : f ∈ unmatchedOpeners d) :
    f.code = "S003" := by
  obtain ⟨k, -, hk⟩ := List.mem_filterMap.1 h
  split at hk
  · cases hk
    rfl
  · cases hk

theorem filter_code {fs : List Finding} {c : String} (h : ∀ f ∈ fs, f.code = c) (code : String) :
    fs.filter (·.code == code) = if c = code then fs else [] := by
  split
  · next hc => exact List.filter_eq_self.2 fun f hf => beq_iff_eq.2 ((h f hf).trans hc)
  · next hc =>
    refine List.filter_eq_nil_iff.2 fun f hf => ?_
    rw [h f hf, beq_iff_eq]
    exact hc

/-- The parts of the check are told apart by their codes. -/
theorem check_filter_code (ts : List Token) :
    (check ts).filter (·.code == "S001") = unterminated ts ∧
    (check ts).filter (·.code == "S002") = unmatchedClosers {} ts ∧
    (check ts).filter (·.code == "S003") = unmatchedOpeners (finalDepths ts) := by
  simp only [check, unbalanced, List.filter_append, filter_code fun _ => code_of_mem_unterminated,
    filter_code fun _ => code_of_mem_unmatchedClosers,
    filter_code fun _ => code_of_mem_unmatchedOpeners]
  simp

end Structure

/-! ## Names -/

namespace Names

theorem line?_of_mem_findings {ts : List Token} {f : Finding} (h : f ∈ (analyze ts).findings) :
    ∃ line, f.line? = some line := by
  rcases List.mem_append.1 h with h | h
  · obtain ⟨o, -, ho⟩ := List.mem_filterMap.1 h
    unfold Occurrence.fault? at ho
    split at ho
    · split at ho
      · cases ho
        exact ⟨_, rfl⟩
      · split at ho
        · split at ho
          · cases ho
            exact ⟨_, rfl⟩
          · cases ho
        · cases ho
    · cases ho
  · obtain ⟨s, -, rfl⟩ := List.mem_map.1 h
    exact ⟨_, rfl⟩

/-- A finding shows the line of one of the tokens. -/
theorem exists_line_of_mem_findings {ts : List Token} {f : Finding}
    (h : f ∈ (analyze ts).findings) : ∃ t ∈ ts, f.line? = some t.line := by
  -- the renumbering `r` keeps the lines of the tokens only, and the analysis goes along with it
  let r : Int → Int := fun line => if line ∈ ts.map Token.line then line else line + 1
  have hr : (analyze ts).mapLine r = analyze ts :=
    mapLine_analyze fun t ht => if_pos (List.mem_map_of_mem ht)
  have hf : f.mapLine r = f := by
    have hfs := (congrArg Analysis.findings hr).trans (List.map_id _).symm
    exact List.map_inj_left.1 hfs f h
  obtain ⟨line, hl⟩ := line?_of_mem_findings h
  have hfix : r line = line := by
    have hr := f.line?_mapLine r
    rw [hf, hl] at hr
    exact (Option.some.inj hr).symm
  by_cases hm : line ∈ ts.map Token.line
  · obtain ⟨t, ht, rfl⟩ := List.mem_map.1 hm
    exact ⟨t, ht, hl⟩
  · rw [show r line = line + 1 from if_neg hm] at hfix
    omega

/-- A stream is analyzed as its tokens on lines of their own, and then the lines are put back. -/
theorem analyze_spread (ts : List Token) :
    analyze ts = (analyze (spread ts)).mapLine (lineAt ts) := by
  rw [← analyze_map (moves_putBack ts), map_putBack_spread]

/-- The positions of the findings on names depend on the lexemes alone. -/
theorem exists_positions (ts : List Token) :
    ∃ ps : List Nat, ∀ us, SameLexemes ts us →
      List.Forall₂ (Finding.StandsAt us) ps (analyze us).findings := by
  refine ⟨(analyze (spread ts)).findings.map fun f => (f.line?.getD 0).toNat, fun us h => ?_⟩
  rw [analyze_spread us, spread_eq h]
  refine List.forall₂_map_left_iff.2 (List.forall₂_map_right_iff.2 (List.forall₂_same.2 ?_))
  intro f hf
  obtain ⟨t, ht, hl⟩ := exists_line_of_mem_findings hf
  obtain ⟨i, u, hu, hi⟩ := line_of_mem_spread ht
  refine ⟨u, ?_, ?_⟩
  · simpa [hl, hi] using hu
  · rw [f.line?_mapLine, hl, hi]
    simp [lineAt, hu]

/-- Without the lines, the analyses of the same lexemes are the same. -/
theorem analyze_mapLine_eq {ts us : List Token} (h : SameLexemes ts us) (line : Int) :
    (analyze ts).mapLine (fun _ => line) = (analyze us).mapLine fun _ => line := by
  rw [analyze_spread ts, analyze_spread us, spread_eq h, Analysis.mapLine_mapLine,
    Analysis.mapLine_mapLine]
  rfl

end Names

end StagedAnalysis

import StagedAnalysis.Proofs.Document.Composition
import StagedAnalysis.Proofs.Layout.Positions
import StagedAnalysis.Proofs.Listed

/-!
# Assignments that no semicolon ends

Each assignment is searched for a semicolon on its own. Told by positions, an assignment is reported
if no semicolon behind it can be reached without leaving its line. One pass from the right finds the
same, as it need only remember the line of a semicolon that can still be reached. Where lines never
go back, it is the semicolons of the line that decide, wherever the search would stop.

* `terminated_iff_exists`: the search by positions.
* `Unended`, `listed_unterminated`: which assignments are reported.
* `Sweep`, `sweep_findings`: the pass from the right.
* `unended_iff_of_pairwise`: lines that never go back.
* `check_assignments`: the main statement.
-/

namespace StagedAnalysis

namespace Structure

/-! ## The search by positions -/

theorem terminated_iff_exists {line : Int} {ts : List Token} :
    terminated line ts = true ↔ ∃ (j : Nat) (u : Token), ts[j]? = some u ∧
      u.isPunct ";" = true ∧ ∀ m ≤ j, ∀ v, ts[m]? = some v → v.line = line := by
  induction ts with
  | nil => simp [terminated]
  | cons t ts ih =>
    rw [terminated_cons, Bool.and_eq_true, beq_iff_eq, Bool.or_eq_true, ih]
    constructor
    · rintro ⟨ht, hp | ⟨j, u, hu, hp, hl⟩⟩
      · refine ⟨0, t, rfl, hp, fun m hm v hv => ?_⟩
        obtain rfl := Nat.le_zero.1 hm
        rwa [← Option.some.inj hv]
      · refine ⟨j + 1, u, hu, hp, fun m hm v hv => ?_⟩
        cases m with
        | zero => rwa [← Option.some.inj hv]
        | succ m => exact hl m (Nat.le_of_succ_le_succ hm) v hv
    · rintro ⟨j, u, hu, hp, hl⟩
      refine ⟨hl 0 (Nat.zero_le j) t rfl, ?_⟩
      cases j with
      | zero =>
        rw [Option.some.inj hu]
        exact .inl hp
      | succ j => exact .inr ⟨j, u, hu, hp, fun m hm => hl (m + 1) (Nat.succ_le_succ hm)⟩

/-- A semicolon stands behind the position, and all tokens from there up to it are on one line. -/
def Ended (ts : List Token) (i : Nat) (line : Int) : Prop :=
  ∃ (j : Nat) (u : Token), i < j ∧ ts[j]? = some u ∧ u.isPunct ";" = true ∧
    ∀ m v, i ≤ m → m ≤ j → ts[m]? = some v → v.line = line

/-- An assignment that no semicolon ends stands at the position. The finding shows its line. -/
def Unended (ts : List Token) (i : Nat) (f : Finding) : Prop :=
  ∃ t, ts[i]? = some t ∧ t.kind = .assignment ∧ ¬Ended ts i t.line ∧ f = .missingSemicolon t.line

variable {t : Token} {ts : List Token} {i : Nat} {f : Finding} {line : Int}

theorem ended_zero : Ended (t :: ts) 0 t.line ↔ terminated t.line ts = true := by
  rw [terminated_iff_exists]
  constructor
  · rintro ⟨_ | j, u, hj, hu, hp, hl⟩
    · cases hj
    · exact ⟨j, u, hu, hp, fun m hm v hv =>
        hl (m + 1) v (Nat.zero_le _) (Nat.succ_le_succ hm) hv⟩
  · rintro ⟨j, u, hu, hp, hl⟩
    refine ⟨j + 1, u, Nat.succ_pos j, hu, hp, fun m v _ hm hv => ?_⟩
    cases m with
    | zero => rw [← Option.some.inj hv]
    | succ m => exact hl m (Nat.le_of_succ_le_succ hm) v hv

theorem ended_succ : Ended (t :: ts) (i + 1) line ↔ Ended ts i line := by
  constructor
  · rintro ⟨_ | j, u, hj, hu, hp, hl⟩
    · cases hj
    · exact ⟨j, u, Nat.lt_of_succ_lt_succ hj, hu, hp, fun m v hi hm hv =>
        hl (m + 1) v (Nat.succ_le_succ hi) (Nat.succ_le_succ hm) hv⟩
  · rintro ⟨j, u, hj, hu, hp, hl⟩
    refine ⟨j + 1, u, Nat.succ_lt_succ hj, hu, hp, fun m v hi hm hv => ?_⟩
    cases m with
    | zero => cases hi
    | succ m => exact hl m v (Nat.le_of_succ_le_succ hi) (Nat.le_of_succ_le_succ hm) hv

theorem listed_unterminated (ts : List Token) : Listed (Unended ts) (unterminated ts) := by
  induction ts with
  | nil => exact .nil fun p f ⟨t, ht, _⟩ => by simp at ht
  | cons t ts ih =>
    have hstep : unterminated (t :: ts) =
        (if t.kind = .assignment ∧ terminated t.line ts = false then
          some (.missingSemicolon t.line) else none : Option Finding).toList ++
          unterminated ts := by
      rw [unterminated]
      split <;> rfl
    rw [hstep]
    refine .cons? _ (fun f => ?_) (ih.congr fun p f => ?_)
    · rw [Unended, Option.ite_none_right_eq_some, Option.some.injEq, ← Bool.not_eq_true]
      simp [ended_zero, eq_comm (a := f), and_assoc]
    · simp only [Unended, List.getElem?_cons_succ, ended_succ]

/-! ## One pass from the right -/

/-- What the pass knows of the tokens behind: the line of a semicolon that a token in front could
reach, and the findings. -/
structure Sweep where
  reachable? : Option Int := none
  findings : List Finding := []

/-- A semicolon can be reached on its own line, and farther only from that line. -/
def Sweep.step (t : Token) (s : Sweep) : Sweep where
  reachable? := if t.isPunct ";" ∨ s.reachable? = some t.line then some t.line else none
  findings :=
    if t.kind = .assignment ∧ s.reachable? ≠ some t.line then
      .missingSemicolon t.line :: s.findings
    else s.findings

def sweep (ts : List Token) : Sweep := ts.foldr Sweep.step {}

theorem sweep_reachable?_eq_some_iff :
    (sweep ts).reachable? = some line ↔ terminated line ts = true := by
  induction ts generalizing line with
  | nil => simp [sweep, terminated]
  | cons t ts ih =>
    show (Sweep.step t (sweep ts)).reachable? = some line ↔ _
    rw [Sweep.step, Option.ite_none_right_eq_some, ih, Option.some.injEq, terminated_cons,
      Bool.and_eq_true, beq_iff_eq, Bool.or_eq_true, and_comm]
    refine and_congr_right fun h => ?_
    rw [h]

theorem sweep_findings (ts : List Token) : (sweep ts).findings = unterminated ts := by
  induction ts with
  | nil => rfl
  | cons t ts ih =>
    show (Sweep.step t (sweep ts)).findings = _
    simp only [Sweep.step, unterminated, ih, ne_eq, sweep_reachable?_eq_some_iff,
      Bool.not_eq_true]

/-! ## Lines that never go back -/

/-- An assignment stands at the position, behind every semicolon of its line. -/
def AfterSemicolons (ts : List Token) (i : Nat) (f : Finding) : Prop :=
  ∃ t, ts[i]? = some t ∧ t.kind = .assignment ∧
    (∀ j u, ts[j]? = some u → u.isPunct ";" = true → u.line = t.line → j < i) ∧
    f = .missingSemicolon t.line

theorem unended_iff_of_pairwise (h : ts.Pairwise fun t u => t.line ≤ u.line) :
    Unended ts i f ↔ AfterSemicolons ts i f := by
  have hle {j k : Nat} {t u : Token} (hjk : j ≤ k) (ht : ts[j]? = some t) (hu : ts[k]? = some u) :
      t.line ≤ u.line := by
    obtain ⟨hj, rfl⟩ := List.getElem?_eq_some_iff.1 ht
    obtain ⟨hk, rfl⟩ := List.getElem?_eq_some_iff.1 hu
    rcases Nat.lt_or_eq_of_le hjk with hlt | rfl
    · exact List.pairwise_iff_getElem.1 h j k hj hk hlt
    · exact Int.le_refl _
  refine exists_congr fun t => and_congr_right fun ht => and_congr_right fun ha =>
    and_congr_left fun _ => ?_
  constructor
  · intro hn j u hu hp hl
    by_contra hj
    have hij : i < j := by
      refine Nat.lt_of_le_of_ne (Nat.le_of_not_lt hj) ?_
      rintro rfl
      obtain rfl := Option.some.inj (ht.symm.trans hu)
      simp [Token.isPunct, ha] at hp
    refine hn ⟨j, u, hij, hu, hp, fun m v him hmj hv => ?_⟩
    exact Int.le_antisymm (hl ▸ hle hmj hv hu) (hle him ht hv)
  · rintro hs ⟨j, u, hij, hu, hp, hl⟩
    have hj := hs j u hu hp (hl j u (Nat.le_of_lt hij) (Nat.le_refl j) hu)
    exact absurd hj (Nat.lt_asymm hij)

/-- The tokens of a document never go back to a line. -/
theorem pairwise_line_tokens (text : String) :
    (Document.ofText text).tokens.Pairwise fun t u => t.line ≤ u.line :=
  (Document.pairwise_readLines 1 _).imp fun h => h.elim Int.le_of_lt fun h => Int.le_of_eq h.1

/-! ## The rule -/

/-- **The rule for assignments.** Before anything on delimiters, and in the order of the tokens, an
assignment is reported exactly if no semicolon behind it can be reached with all tokens from the
assignment to the semicolon on one line. One pass from the right that remembers the line of a
semicolon in reach finds the same. Where lines never go back, as in every document, those reported
are the assignments behind the last semicolon of their line. -/
theorem check_assignments (ts : List Token) :
    let coded (code : String) := (check ts).filter (·.code == code)
    check ts = coded "S001" ++ (coded "S002" ++ coded "S003") ∧
    Listed (Unended ts) (coded "S001") ∧
    coded "S001" = (sweep ts).findings ∧
    ((ts.Pairwise fun t u => t.line ≤ u.line) → Listed (AfterSemicolons ts) (coded "S001")) ∧
    ∀ text, (Document.ofText text).tokens.Pairwise fun t u => t.line ≤ u.line := by
  intro coded
  obtain ⟨h1, h2, h3⟩ := check_filter_code ts
  have hlisted := listed_unterminated ts
  simp only [coded, h1, h2, h3]
  exact ⟨rfl, hlisted, (sweep_findings ts).symm,
    fun h => hlisted.congr fun _ _ => unended_iff_of_pairwise h, pairwise_line_tokens⟩

/-- Of three assignments on two lines the one behind the last semicolon of its line is reported. -/
theorem check_assignments_sample :
    let ts := (Document.ofText "x = 1; y = 2\nz = 3;").tokens
    (ts.Pairwise fun t u => t.line ≤ u.line) ∧
    Listed (AfterSemicolons ts) [.missingSemicolon 1] := by
  intro ts
  obtain ⟨-, -, -, hlisted, hdocument⟩ := check_assignments ts
  have hcoded : (check ts).filter (·.code == "S001") = [.missingSemicolon 1] := by decide +kernel
  simp only [hcoded] at hlisted
  exact ⟨hdocument _, hlisted (hdocument _)⟩

/-- A semicolon that comes back to the line is out of reach. -/
example : check [⟨.assignment, "=", 1, 0⟩, ⟨.identifier, "y", 2, 0⟩, ⟨.punctuation, ";", 1, 0⟩] =
    [.missingSemicolon 1] := by decide

end Structure

end StagedAnalysis

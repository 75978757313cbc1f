import Mathlib.Data.Finset.Card
import StagedAnalysis.Proofs.Structure.Excess

/-!
# Deleted tokens

Tokens are deleted by position. What is left and what was deleted make up the stream again, so the
excess of the stream is that of both together, and its peak is at most that of what is left and one
more for each closer that was deleted.

* `pick`, `remaining`, `removed`: the tokens at some positions, in order.
* `length_removed`: as many tokens are deleted as there are positions.
* `excess_eq_add`, `peak_le_add`: the excess and the peak of the stream.
* `remaining_erase`: an opener that is put back.
-/

namespace StagedAnalysis

namespace Structure

/-- The tokens at the positions that `P` holds of. -/
def pick (P : Nat → Bool) (ts : List Token) : List Token :=
  (ts.zipIdx.filter fun x => P x.2).map Prod.fst

/-- The tokens but for those at the positions in `D`. -/
def remaining (D : Finset Nat) (ts : List Token) : List Token := pick (fun p => decide (p ∉ D)) ts

/-- The tokens at the positions in `D`. -/
def removed (D : Finset Nat) (ts : List Token) : List Token := pick (fun p => decide (p ∈ D)) ts

variable {D E : Finset Nat} {k : Delimiter} {t : Token} {ts : List Token}

/-! ## Position by position -/

theorem pick_concat (P : Nat → Bool) (ts : List Token) (t : Token) :
    pick P (ts ++ [t]) = pick P ts ++ if P ts.length then [t] else [] := by
  unfold pick
  rw [List.zipIdx_append, List.filter_append, List.map_append]
  cases h : P ts.length <;> simp [h]

theorem mem_pick {P : Nat → Bool} : t ∈ pick P ts ↔ ∃ p, P p = true ∧ ts[p]? = some t := by
  simp only [pick, List.mem_map, List.mem_filter, Prod.exists, List.mk_mem_zipIdx_iff_getElem?,
    exists_and_right, exists_eq_right]
  exact exists_congr fun p => and_comm

theorem pick_congr {P Q : Nat → Bool} (h : ∀ p < ts.length, P p = Q p) : pick P ts = pick Q ts := by
  unfold pick
  congr 1
  refine List.filter_congr fun x hx => h x.2 ?_
  exact (List.getElem?_eq_some_iff.1 (List.mem_zipIdx_iff_getElem?.1 hx)).1

/-- Of the tokens of some kind only their own positions matter. -/
theorem filter_pick_congr {P Q : Nat → Bool} {q : Token → Bool}
    (h : ∀ p t, ts[p]? = some t → q t = true → P p = Q p) :
    (pick P ts).filter q = (pick Q ts).filter q := by
  simp only [pick, List.filter_map, List.filter_filter]
  congr 1
  refine List.filter_congr fun x hx => ?_
  have hx := h x.2 x.1 (List.mem_zipIdx_iff_getElem?.1 hx)
  cases hq : q x.1 with
  | false => simp [hq]
  | true => simp [hq, hx hq]

theorem pick_true (ts : List Token) : pick (fun _ => true) ts = ts := by
  rw [pick, List.filter_true, List.zipIdx_map_fst]

theorem filter_remaining {q : Token → Bool} (h : ∀ p ∈ D, ∀ t, ts[p]? = some t → q t = false) :
    (remaining D ts).filter q = ts.filter q := by
  have hp : ∀ p t, ts[p]? = some t → q t = true → decide (p ∉ D) = true := by
    intro p t ht hq
    refine decide_eq_true fun hm => ?_
    rw [h p hm t ht] at hq
    cases hq
  have hf := filter_pick_congr hp
  rwa [pick_true] at hf

theorem removed_concat_of_mem (h : ts.length ∈ D) :
    removed D (ts ++ [t]) = removed D ts ++ [t] ∧ remaining D (ts ++ [t]) = remaining D ts := by
  simp [removed, remaining, pick_concat, h]

theorem removed_concat_of_not_mem (h : ts.length ∉ D) :
    removed D (ts ++ [t]) = removed D ts ∧ remaining D (ts ++ [t]) = remaining D ts ++ [t] := by
  simp [removed, remaining, pick_concat, h]

/-- One token is deleted at each position. -/
theorem length_removed (h : ∀ p ∈ D, p < ts.length) : (removed D ts).length = D.card := by
  let ps := (ts.zipIdx.filter fun x => decide (x.2 ∈ D)).map Prod.snd
  have hnodup : ps.Nodup := by
    refine List.Nodup.sublist (List.Sublist.map _ List.filter_sublist) ?_
    rw [List.zipIdx_map_snd]
    exact List.nodup_range'
  have hmem : ps.toFinset = D := by
    ext p
    simp only [ps, List.mem_toFinset, List.mem_map, List.mem_filter, decide_eq_true_eq]
    constructor
    · rintro ⟨x, ⟨-, hx⟩, rfl⟩
      exact hx
    · intro hp
      have ht := List.getElem?_eq_getElem (h p hp)
      exact ⟨(_, p), ⟨List.mem_zipIdx_iff_getElem?.2 ht, hp⟩, rfl⟩
  rw [removed, pick, List.length_map, ← hmem, List.toFinset_card_of_nodup hnodup, List.length_map]
  simp only [hmem]

/-! ## The excess of what is left -/

theorem excess_eq_add (D : Finset Nat) (k : Delimiter) (ts : List Token) :
    excess k ts = excess k (remaining D ts) + excess k (removed D ts) := by
  induction ts using List.reverseRecOn with
  | nil => rfl
  | append_singleton ts t ih =>
    by_cases h : ts.length ∈ D
    · obtain ⟨h1, h2⟩ := removed_concat_of_mem (t := t) h
      rw [h1, h2, excess_concat, excess_concat, ih, Int.add_assoc]
    · obtain ⟨h1, h2⟩ := removed_concat_of_not_mem (t := t) h
      rw [h1, h2, excess_concat, excess_concat, ih, Int.add_right_comm]

theorem excess_le_countP (k : Delimiter) (ts : List Token) :
    excess k ts ≤ ts.countP (·.isPunct (k.mark .closing)) := by
  rw [excess_eq_sub]
  omega

theorem peak_le_add (D : Finset Nat) (k : Delimiter) (ts : List Token) :
    peak k ts ≤ peak k (remaining D ts) + (removed D ts).countP (·.isPunct (k.mark .closing)) := by
  induction ts using List.reverseRecOn with
  | nil => exact Int.le_refl 0
  | append_singleton ts t ih =>
    have he := excess_eq_add D k (ts ++ [t])
    have hr := excess_le_peak k (remaining D (ts ++ [t]))
    have hc := excess_le_countP k (removed D (ts ++ [t]))
    rw [peak_concat]
    refine Int.max_le.2 ⟨Int.le_trans ih ?_, by omega⟩
    by_cases h : ts.length ∈ D
    · obtain ⟨h1, h2⟩ := removed_concat_of_mem (t := t) h
      rw [h1, h2, List.countP_append]
      omega
    · obtain ⟨h1, h2⟩ := removed_concat_of_not_mem (t := t) h
      rw [h1, h2, peak_concat]
      omega

/-! ## An opener that is put back -/

theorem remaining_congr (h : ∀ p < ts.length, p ∈ D ↔ p ∈ E) :
    remaining D ts = remaining E ts ∧ removed D ts = removed E ts :=
  ⟨pick_congr fun p hp => by simp [h p hp], pick_congr fun p hp => by simp [h p hp]⟩

theorem getElem?_concat_iff {p : Nat} {u : Token} :
    (ts ++ [t])[p]? = some u ↔ ts[p]? = some u ∨ p = ts.length ∧ t = u := by
  have h : ItemAt some (ts ++ [t]) p u ↔ _ := ItemAt.concat_iff
  simpa [ItemAt] using h

/-- With an opener put back, the excess of what is left is less by one and its peak no greater. -/
theorem remaining_erase {q : Nat} (hq : q ∈ D) (ht : ts[q]? = some t)
    (ho : t.isPunct (k.mark .opening) = true) :
    excess k (remaining (D.erase q) ts) = excess k (remaining D ts) - 1 ∧
      peak k (remaining (D.erase q) ts) ≤ peak k (remaining D ts) := by
  induction ts using List.reverseRecOn with
  | nil => simp at ht
  | append_singleton ts u ih =>
    rcases getElem?_concat_iff.1 ht with ht | ⟨rfl, rfl⟩
    · obtain ⟨he, hp⟩ := ih ht
      have hne : ts.length ≠ q := Nat.ne_of_gt (List.getElem?_eq_some_iff.1 ht).1
      by_cases hu : ts.length ∈ D
      · have hu' : ts.length ∈ D.erase q := Finset.mem_erase.2 ⟨hne, hu⟩
        rw [(removed_concat_of_mem hu).2, (removed_concat_of_mem hu').2]
        exact ⟨he, hp⟩
      · have hu' : ts.length ∉ D.erase q := fun h => hu (Finset.mem_of_mem_erase h)
        rw [(removed_concat_of_not_mem hu).2, (removed_concat_of_not_mem hu').2, peak_concat,
          peak_concat, excess_concat, excess_concat, he]
        omega
    · have hcongr : remaining (D.erase ts.length) ts = remaining D ts :=
        (remaining_congr fun p hp => by simp [Nat.ne_of_lt hp]).1
      have hc : u.isPunct (k.mark .closing) = false := by
        rw [Bool.eq_false_iff]
        exact fun hc => by cases (mark_unique ho hc).1
      have hle := excess_le_peak k (remaining D ts)
      rw [(removed_concat_of_mem hq).2, (removed_concat_of_not_mem (Finset.notMem_erase _ _)).2,
        hcongr, peak_concat, excess_concat, hc, ho]
      simp only [if_true, Bool.false_eq_true, if_false]
      omega

end Structure

end StagedAnalysis

import Mathlib.Data.List.Forall2

/-!
# Items by position

What a pass over a stream collects can be said position by position: which positions have an item,
and which item that is. A list is `Listed` by such a rule if it has one item for each position that
the rule gives one, in the order of the positions. A rule that gives no position two items leaves no
choice about the list.

* `Listed.cons?`, `Listed.concat`: one position more, in front or at the end; `Listed.filter`: the
  items of some kind.
* `ItemAt`, `listed_filterMap`: what is kept of a list.
-/

namespace StagedAnalysis

/-- One item for each position that has one, in order. -/
def Listed {α : Type} (P : Nat → α → Prop) (xs : List α) : Prop :=
  ∃ ps : List Nat, ps.Pairwise (· < ·) ∧ (∀ p, p ∈ ps ↔ ∃ x, P p x) ∧ List.Forall₂ P ps xs

namespace Listed

variable {α : Type} {P Q : Nat → α → Prop} {xs : List α}

theorem nil (h : ∀ p x, ¬P p x) : Listed P [] := ⟨[], .nil, fun p => by simp [h p], .nil⟩

theorem congr (h : Listed P xs) (hPQ : ∀ p x, P p x ↔ Q p x) : Listed Q xs := by
  have he : P = Q := funext fun p => funext fun x => propext (hPQ p x)
  rwa [← he]

/-- The first position has this item, or none, and the others follow. -/
theorem cons? (x? : Option α) (h0 : ∀ x, P 0 x ↔ x? = some x) (h : Listed (fun p => P (p + 1)) xs) :
    Listed P (x?.toList ++ xs) := by
  obtain ⟨ps, hs, hm, hf⟩ := h
  have hs' : (ps.map (· + 1)).Pairwise (· < ·) := hs.map _ fun _ _ => Nat.succ_lt_succ
  have hf' : List.Forall₂ P (ps.map (· + 1)) xs := List.forall₂_map_left_iff.2 hf
  cases x? with
  | none =>
    refine ⟨_, hs', fun p => ?_, hf'⟩
    cases p with
    | zero => simp [h0]
    | succ p => simp [hm]
  | some x =>
    refine ⟨0 :: ps.map (· + 1), .cons (by simp) hs', fun p => ?_, .cons ((h0 x).2 rfl) hf'⟩
    cases p with
    | zero => simp [h0]
    | succ p => simp [hm]

/-- A position behind all others. -/
theorem concat {n : Nat} (h : Listed P xs) (hn : ∀ p y, P p y → p < n) (x : α) :
    Listed (fun p y => P p y ∨ p = n ∧ y = x) (xs ++ [x]) := by
  obtain ⟨ps, hs, hm, hf⟩ := h
  have hlt : ∀ p ∈ ps, p < n := fun p hp => by
    obtain ⟨y, hy⟩ := (hm p).1 hp
    exact hn p y hy
  refine ⟨ps ++ [n], List.pairwise_append.2 ⟨hs, List.pairwise_singleton _ _, ?_⟩, fun p => ?_, ?_⟩
  · intro p hp q hq
    rw [List.mem_singleton.1 hq]
    exact hlt p hp
  · simp [hm, exists_or]
  · exact List.rel_append (hf.imp fun _ _ => .inl) (.cons (.inr ⟨rfl, rfl⟩) .nil)

/-- The items of some kind stand at the positions of their own, if no position has two items. -/
theorem filter (h : Listed P xs) (hP : ∀ p x y, P p x → P p y → x = y) (q : α → Bool) :
    Listed (fun p x => P p x ∧ q x = true) (xs.filter q) := by
  obtain ⟨ps, hs, hm, hf⟩ := h
  obtain ⟨rs, hr, hrm, hrf⟩ : ∃ rs : List Nat, rs.Sublist ps ∧
      (∀ p, p ∈ rs ↔ p ∈ ps ∧ ∃ x, P p x ∧ q x = true) ∧
      List.Forall₂ (fun p x => P p x ∧ q x = true) rs (xs.filter q) := by
    clear hs hm
    induction hf with
    | nil => exact ⟨[], .slnil, by simp, .nil⟩
    | @cons p x ps xs hp _ ih =>
      obtain ⟨rs, hr, hrm, hrf⟩ := ih
      by_cases hq : q x = true
      · rw [List.filter_cons_of_pos hq]
        refine ⟨p :: rs, hr.cons_cons p, fun r => ?_, .cons ⟨hp, hq⟩ hrf⟩
        rw [List.mem_cons, List.mem_cons, hrm, or_and_right]
        refine or_congr_left (iff_self_and.2 ?_)
        rintro rfl
        exact ⟨x, hp, hq⟩
      · rw [List.filter_cons_of_neg hq]
        refine ⟨rs, hr.cons p, fun r => ?_, hrf⟩
        rw [List.mem_cons, hrm, or_and_right, iff_or_self]
        rintro ⟨rfl, y, hy, hqy⟩
        exact absurd (hP r x y hp hy ▸ hqy) hq
  refine ⟨rs, hs.sublist hr, fun p => ?_, hrf⟩
  rw [hrm, hm]
  exact ⟨fun h => h.2, fun ⟨x, hx, hq⟩ => ⟨⟨x, hx⟩, x, hx, hq⟩⟩

end Listed

/-! ## What is kept of a list -/

/-- What `g` makes of the element at a position. -/
def ItemAt {α β : Type} (g : α → Option β) (xs : List α) (p : Nat) (y : β) : Prop :=
  ∃ x, xs[p]? = some x ∧ g x = some y

namespace ItemAt

variable {α β : Type} {g : α → Option β} {x : α} {xs : List α} {p : Nat} {y : β}

theorem lt_length (h : ItemAt g xs p y) : p < xs.length := by
  obtain ⟨x, hx, -⟩ := h
  exact (List.getElem?_eq_some_iff.1 hx).1

theorem exists_iff_mem : (∃ p, ItemAt g xs p y) ↔ y ∈ xs.filterMap g := by
  rw [List.mem_filterMap]
  constructor
  · rintro ⟨p, x, hx, hy⟩
    exact ⟨x, List.mem_of_getElem? hx, hy⟩
  · rintro ⟨x, hx, hy⟩
    obtain ⟨p, hx⟩ := List.mem_iff_getElem?.1 hx
    exact ⟨p, x, hx, hy⟩

theorem concat_iff :
    ItemAt g (xs ++ [x]) p y ↔ ItemAt g xs p y ∨ p = xs.length ∧ g x = some y := by
  unfold ItemAt
  rcases Nat.lt_trichotomy p xs.length with h | rfl | h
  · simp [List.getElem?_append_left h, Nat.ne_of_lt h]
  · simp
  · have hl : (xs ++ [x]).length ≤ p := by rw [List.length_append]; exact h
    simp [List.getElem?_eq_none hl, List.getElem?_eq_none (Nat.le_of_lt h), Nat.ne_of_gt h]

theorem concat_of_none (hx : g x = none) : ItemAt g (xs ++ [x]) = ItemAt g xs := by
  funext p y
  simp [concat_iff, hx]

theorem concat_of_some (hx : g x = some y) :
    ItemAt g (xs ++ [x]) = fun p z => ItemAt g xs p z ∨ p = xs.length ∧ z = y := by
  funext p z
  rw [concat_iff, hx, Option.some_inj, eq_comm (a := y)]

end ItemAt

theorem listed_filterMap {α β : Type} (g : α → Option β) (xs : List α) :
    Listed (ItemAt g xs) (xs.filterMap g) := by
  induction xs with
  | nil => exact .nil fun p y => by simp [ItemAt]
  | cons x xs ih =>
    have hcons : (x :: xs).filterMap g = (g x).toList ++ xs.filterMap g := by
      cases hx : g x <;> simp [hx]
    rw [hcons]
    exact .cons? (g x) (fun y => by simp [ItemAt]) (ih.congr fun p y => by simp [ItemAt])

end StagedAnalysis

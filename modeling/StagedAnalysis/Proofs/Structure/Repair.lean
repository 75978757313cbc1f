import Mathlib.Order.Bounds.Defs
import StagedAnalysis.Proofs.Structure.Balance
import StagedAnalysis.Proofs.Structure.Deletion

/-!
# The least repair

What the check reports of a kind of delimiter is the least that has to be deleted until it reports
nothing on that kind. No less will do: at the peak of the excess so many closers are in excess, and
from there to the end so many openers are left. So much will do: delete the closers that are blamed,
and for each opener that is left open an opener.

* `closerFindings`, `openCount`: what is reported of one kind; `length_closerFindings`,
  `openCount_check`: these are the peak and the surplus.
* `Repairs`, `clean_iff`: deletions after which nothing is reported on the kind.
* `Repairs.le_card`: no deletion of fewer tokens repairs.
* `LeastRepair`, `exists_leastRepair`: the repair that the reports describe, token by token.
* `check_least_repair`: the main statement.
-/

namespace StagedAnalysis

namespace Structure

variable {D : Finset Nat} {k : Delimiter} {t : Token} {ts : List Token}

/-! ## What is reported of one kind -/

/-- The findings on closers of this kind. -/
def closerFindings (k : Delimiter) (fs : List Finding) : List Finding :=
  fs.filter fun f => f.code == "S002" && f.delimiter? == some k

/-- How many openers of this kind the finding says are open. -/
def openers? (k : Delimiter) : Finding → Option Nat
  | .unmatchedOpener j n => if j = k then some n else none
  | _ => none

/-- How many openers of this kind are reported open; none without a finding on them. -/
def openCount (k : Delimiter) (fs : List Finding) : Nat := (fs.findSome? (openers? k)).getD 0

theorem closerFindings_check (k : Delimiter) (ts : List Token) :
    closerFindings k (check ts) = (unmatchedClosers {} ts).filter (·.delimiter? == some k) := by
  rw [closerFindings, ← (check_filter_code ts).2.1, List.filter_filter]
  exact List.filter_congr fun f _ => Bool.and_comm _ _

theorem Blamed.unique {p : Nat} {f g : Finding} (hf : Blamed ts p f) (hg : Blamed ts p g) :
    f = g := by
  obtain ⟨j, t, ht, hj, -, -, rfl⟩ := hf
  obtain ⟨k, u, hu, hk, -, -, rfl⟩ := hg
  obtain rfl := Option.some.inj (ht.symm.trans hu)
  rw [(mark_unique hj hk).2]

theorem listed_closerFindings (k : Delimiter) (ts : List Token) :
    Listed (fun p f => Blamed ts p f ∧ f.delimiter? = some k) (closerFindings k (check ts)) := by
  rw [closerFindings_check]
  exact ((listed_unmatchedClosers ts).filter (fun _ _ _ => Blamed.unique) _).congr
    fun p f => and_congr_right fun _ => beq_iff_eq

theorem closerFindings_concat (k : Delimiter) (ts : List Token) (t : Token) :
    closerFindings k (check (ts ++ [t])) = closerFindings k (check ts) ++
      if t.isPunct (k.mark .closing) = true ∧ (finalDepths ts).get k = 0 then
        [.unmatchedCloser k t.line] else [] := by
  rw [closerFindings_check, closerFindings_check, unmatchedClosers_append, List.filter_append]
  congr 1
  rw [unmatchedClosers, unmatchedClosers, List.append_nil]
  show ((finalDepths ts).unmatched? t).toList.filter _ = _
  split
  · next h =>
    rw [Depths.unmatched?_eq_some_iff.2 ⟨k, h.1, h.2, rfl⟩]
    simp [Finding.delimiter?]
  · next h =>
    refine List.filter_eq_nil_iff.2 fun f hf => ?_
    obtain ⟨j, hj, h0, rfl⟩ := Depths.unmatched?_eq_some_iff.1 (Option.mem_toList.1 hf)
    rw [beq_iff_eq, Finding.delimiter?, Option.some.injEq]
    rintro rfl
    exact h ⟨hj, h0⟩

theorem length_closerFindings (k : Delimiter) (ts : List Token) :
    ((closerFindings k (check ts)).length : Int) = peak k ts := by
  induction ts using List.reverseRecOn with
  | nil => rfl
  | append_singleton ts t ih =>
    have hd := get_finalDepths k ts
    have hle := excess_le_peak k ts
    rw [surplus] at hd
    rw [closerFindings_concat, List.length_append, peak_concat, excess_concat, Int.natCast_add, ih]
    by_cases hc : t.isPunct (k.mark .closing) = true
    · rw [if_pos hc]
      by_cases h0 : (finalDepths ts).get k = 0
      · rw [if_pos ⟨hc, h0⟩, List.length_singleton]
        omega
      · rw [if_neg fun h => h0 h.2, List.length_nil]
        omega
    · rw [if_neg hc, if_neg fun h => hc h.1, List.length_nil]
      split <;> omega

theorem openers?_eq_none {f : Finding} (h : f.code ≠ "S003") : openers? k f = none := by
  cases f with
  | unmatchedOpener => exact absurd rfl h
  | _ => rfl

theorem openCount_check (k : Delimiter) (ts : List Token) :
    openCount k (check ts) = (finalDepths ts).get k := by
  have hu : (unterminated ts).findSome? (openers? k) = none :=
    List.findSome?_eq_none_iff.2 fun f hf =>
      openers?_eq_none (by rw [code_of_mem_unterminated hf]; decide)
  have hc : (unmatchedClosers {} ts).findSome? (openers? k) = none :=
    List.findSome?_eq_none_iff.2 fun f hf =>
      openers?_eq_none (by rw [code_of_mem_unmatchedClosers hf]; decide)
  rw [openCount, check, unbalanced, List.findSome?_append, List.findSome?_append, hu, hc]
  obtain ⟨m, n⟩ := finalDepths ts
  cases k <;> by_cases hm : 0 < m <;> by_cases hn : 0 < n <;>
    simp_all [unmatchedOpeners, openers?, Depths.get]

theorem filter_delimiter_check (k : Delimiter) (ts : List Token) :
    (check ts).filter (·.delimiter? == some k) =
      closerFindings k (check ts) ++ unmatchedOpeners ((finalDepths ts).only k) := by
  have hu : (unterminated ts).filter (·.delimiter? == some k) = [] :=
    List.filter_eq_nil_iff.2 fun f hf => by simp [delimiter?_of_mem_unterminated hf]
  rw [closerFindings_check, check, unbalanced, List.filter_append, List.filter_append, hu,
    unmatchedOpeners_filter, List.nil_append]

/-! ## Repairs -/

/-- Delimiters of one kind stand at these positions, and nothing is reported on that kind once they
are deleted. -/
structure Repairs (k : Delimiter) (ts : List Token) (D : Finset Nat) : Prop where
  delimits : ∀ p ∈ D, ∃ t, ts[p]? = some t ∧ t.delimits k = true
  clean : ∀ f ∈ check (remaining D ts), f.delimiter? ≠ some k

theorem clean_iff :
    (∀ f ∈ check ts, f.delimiter? ≠ some k) ↔ peak k ts = 0 ∧ excess k ts = 0 := by
  have hd := get_finalDepths k ts
  have hl := length_closerFindings k ts
  have honly : (finalDepths ts).only k = {} ↔ (finalDepths ts).get k = 0 := by
    constructor
    · intro h
      rw [← Depths.get_set_self {} k ((finalDepths ts).get k), ← Depths.only, h]
      cases k <;> rfl
    · intro h
      rw [Depths.only, h]
      cases k <;> rfl
  have hf : (check ts).filter (·.delimiter? == some k) = [] ↔
      ∀ f ∈ check ts, f.delimiter? ≠ some k := by
    simp only [List.filter_eq_nil_iff, beq_iff_eq, ne_eq]
  rw [← hf, filter_delimiter_check, List.append_eq_nil_iff, unmatchedOpeners_eq_nil_iff, honly,
    ← List.length_eq_zero_iff]
  rw [surplus] at hd
  omega

theorem length_eq_countP_add (h : ∀ t ∈ ts, t.delimits k = true) :
    ts.length =
      ts.countP (·.isPunct (k.mark .closing)) + ts.countP (·.isPunct (k.mark .opening)) := by
  rw [List.length_eq_countP_add_countP (·.isPunct (k.mark .closing))]
  congr 1
  refine List.countP_congr fun t ht => ?_
  have hd := h t ht
  rw [Token.delimits, Bool.or_eq_true] at hd
  rw [decide_eq_true_iff]
  exact ⟨hd.resolve_right, fun ho hc => by cases (mark_unique ho hc).1⟩

namespace Repairs

variable (h : Repairs k ts D)
include h

theorem delimits_of_mem (ht : t ∈ removed D ts) : t.delimits k = true := by
  obtain ⟨p, hp, hpt⟩ := mem_pick.1 ht
  obtain ⟨u, hu, hd⟩ := h.delimits p (of_decide_eq_true hp)
  rwa [← Option.some.inj (hu.symm.trans hpt)]

theorem card_eq :
    D.card = (removed D ts).countP (·.isPunct (k.mark .closing)) +
      (removed D ts).countP (·.isPunct (k.mark .opening)) := by
  rw [← length_eq_countP_add fun t ht => h.delimits_of_mem ht]
  refine (length_removed fun p hp => ?_).symm
  obtain ⟨t, ht, -⟩ := h.delimits p hp
  exact (List.getElem?_eq_some_iff.1 ht).1

/-- What is deleted has the peak in closers and the surplus in openers, or more. -/
theorem le_card : (closerFindings k (check ts)).length + openCount k (check ts) ≤ D.card := by
  obtain ⟨hp, he⟩ := clean_iff.1 h.clean
  have hpeak := peak_le_add D k ts
  have hexcess := excess_eq_add D k ts
  have hopen := get_finalDepths k ts
  have hclosers := length_closerFindings k ts
  rw [surplus] at hopen
  have hremoved := excess_eq_sub k (removed D ts)
  rw [openCount_check, h.card_eq]
  omega

end Repairs

/-! ## The repair that the reports describe -/

/-- The closers at these positions are those that meet nothing open, and the openers are as many as
are left open. Without them the excess has no peak and ends at zero. -/
structure LeastRepair (k : Delimiter) (ts : List Token) (D : Finset Nat) : Prop where
  delimits : ∀ p ∈ D, ∃ t, ts[p]? = some t ∧ t.delimits k = true
  closers : ∀ p t, ts[p]? = some t → t.isPunct (k.mark .closing) = true →
    (p ∈ D ↔ (finalDepths (ts.take p)).get k = 0)
  openers : (removed D ts).countP (·.isPunct (k.mark .opening)) = (finalDepths ts).get k
  peak : peak k (remaining D ts) = 0
  excess : excess k (remaining D ts) = 0

namespace LeastRepair

theorem lt_length (h : LeastRepair k ts D) {p : Nat} (hp : p ∈ D) : p < ts.length := by
  obtain ⟨t, ht, -⟩ := h.delimits p hp
  exact (List.getElem?_eq_some_iff.1 ht).1

theorem delimits_concat (h : LeastRepair k ts D) (t : Token) :
    ∀ p ∈ D, ∃ u, (ts ++ [t])[p]? = some u ∧ u.delimits k = true := by
  intro p hp
  obtain ⟨u, hu, hd⟩ := h.delimits p hp
  exact ⟨u, getElem?_concat_iff.2 (.inl hu), hd⟩

/-- For the closers of a longer stream only the last token is new. -/
theorem closers_concat (h : LeastRepair k ts D) {E : Finset Nat}
    (hE : ∀ p t, ts[p]? = some t → t.isPunct (k.mark .closing) = true → (p ∈ E ↔ p ∈ D))
    (hn : t.isPunct (k.mark .closing) = true → (ts.length ∈ E ↔ (finalDepths ts).get k = 0)) :
    ∀ p u, (ts ++ [t])[p]? = some u → u.isPunct (k.mark .closing) = true →
      (p ∈ E ↔ (finalDepths ((ts ++ [t]).take p)).get k = 0) := by
  intro p u hu hc
  rcases getElem?_concat_iff.1 hu with hu | ⟨rfl, rfl⟩
  · have hp := (List.getElem?_eq_some_iff.1 hu).1
    rw [hE p u hu hc, h.closers p u hu hc, List.take_append_of_le_length (Nat.le_of_lt hp)]
  · rw [hn hc, List.take_left]

theorem nil (k : Delimiter) : LeastRepair k [] ∅ where
  delimits p hp := by cases hp
  closers p t ht := by simp at ht
  openers := by cases k <;> rfl
  peak := rfl
  excess := rfl

/-- A closer that meets nothing open is deleted, and so is an opener for now. -/
theorem delete (h : LeastRepair k ts D) (hd : t.delimits k = true)
    (h0 : t.isPunct (k.mark .closing) = true → (finalDepths ts).get k = 0) :
    LeastRepair k (ts ++ [t]) (insert ts.length D) := by
  have hn : ts.length ∈ insert ts.length D := Finset.mem_insert_self _ _
  have hsame : ∀ p < ts.length, p ∈ insert ts.length D ↔ p ∈ D :=
    fun p hp => by simp [Nat.ne_of_lt hp]
  obtain ⟨hrem, hdel⟩ := remaining_congr hsame
  obtain ⟨h1, h2⟩ := removed_concat_of_mem (t := t) hn
  rw [hdel] at h1
  rw [hrem] at h2
  refine ⟨?delimits, ?closers, ?openers, h2 ▸ h.peak, h2 ▸ h.excess⟩
  case delimits =>
    intro p hp
    rcases Finset.mem_insert.1 hp with rfl | hp
    · exact ⟨t, by simp, hd⟩
    · exact h.delimits_concat t p hp
  case closers =>
    refine h.closers_concat (fun p u hu _ => ?_) fun hc => by simp [h0 hc]
    simp [Nat.ne_of_lt (List.getElem?_eq_some_iff.1 hu).1]
  case openers =>
    rw [h1, List.countP_append, h.openers, finalDepths_concat, Depths.get_step]
    rw [Token.delimits, Bool.or_eq_true] at hd
    by_cases hc : t.isPunct (k.mark .closing) = true
    · have ho : ¬t.isPunct (k.mark .opening) = true := fun ho => by cases (mark_unique ho hc).1
      simp [hc, ho, h0 hc]
    · simp [hc, hd.resolve_right hc]

/-- A closer that meets an opener has one put back that was deleted. -/
theorem putBack (h : LeastRepair k ts D) (hc : t.isPunct (k.mark .closing) = true)
    (h0 : (finalDepths ts).get k ≠ 0) : ∃ q, LeastRepair k (ts ++ [t]) (D.erase q) := by
  have hpos := Nat.pos_of_ne_zero h0
  rw [← h.openers, List.countP_pos_iff] at hpos
  obtain ⟨o, hm, ho⟩ := hpos
  obtain ⟨q, hq, hqo⟩ := mem_pick.1 hm
  have hq : q ∈ D := of_decide_eq_true hq
  have hn : ts.length ∉ D.erase q :=
    fun hn => Nat.lt_irrefl _ (h.lt_length (Finset.mem_of_mem_erase hn))
  have hmem : ∀ p u, ts[p]? = some u → u.isPunct (k.mark .closing) = true →
      (p ∈ D.erase q ↔ p ∈ D) := by
    intro p u hu huc
    have hne : p ≠ q := by
      rintro rfl
      obtain rfl := Option.some.inj (hu.symm.trans hqo)
      cases (mark_unique ho huc).1
    simp [hne]
  obtain ⟨h1, h2⟩ := removed_concat_of_not_mem (t := t) hn
  obtain ⟨he, hp⟩ := remaining_erase hq hqo ho
  refine ⟨q, fun p hp => h.delimits_concat t p (Finset.mem_of_mem_erase hp),
    h.closers_concat hmem fun _ => iff_of_false hn h0, ?openers, ?peak, ?excess⟩
  case openers =>
    -- the closers that are deleted stay the same, so the excess tells the openers
    have hclosers : (removed (D.erase q) ts).countP (·.isPunct (k.mark .closing)) =
        (removed D ts).countP (·.isPunct (k.mark .closing)) := by
      rw [List.countP_eq_length_filter, List.countP_eq_length_filter]
      exact congrArg List.length (filter_pick_congr fun p u hu huc => by simp [hmem p u hu huc])
    have hD := excess_eq_add D k ts
    have hE := excess_eq_add (D.erase q) k ts
    have hopen := h.openers
    rw [he, hD, excess_eq_sub k (removed D ts), excess_eq_sub k (removed (D.erase q) ts)] at hE
    rw [h1, finalDepths_concat, Depths.get_step, if_pos hc, ← hopen]
    omega
  case peak =>
    rw [h2, peak_concat, excess_concat, if_pos hc, he, h.excess]
    rw [h.peak] at hp
    omega
  case excess => rw [h2, excess_concat, if_pos hc, he, h.excess]; rfl

/-- Any other token stays. -/
theorem keep (h : LeastRepair k ts D) (hd : t.delimits k = false) :
    LeastRepair k (ts ++ [t]) D := by
  have hn : ts.length ∉ D := fun hn => Nat.lt_irrefl _ (h.lt_length hn)
  obtain ⟨h1, h2⟩ := removed_concat_of_not_mem (t := t) hn
  obtain ⟨ho, hc⟩ := Bool.or_eq_false_iff.1 hd
  refine ⟨h.delimits_concat t, h.closers_concat (fun _ _ _ _ => Iff.rfl) (by simp [hc]),
    ?openers, ?peak, ?excess⟩
  case openers =>
    rw [h1, h.openers, finalDepths_concat, Depths.get_step, hc, ho]
    rfl
  case peak =>
    rw [h2, peak_concat, excess_concat, hc, ho, h.peak, h.excess]
    rfl
  case excess =>
    rw [h2, excess_concat, hc, ho, h.excess]
    rfl

end LeastRepair

theorem exists_leastRepair (k : Delimiter) (ts : List Token) : ∃ D, LeastRepair k ts D := by
  induction ts using List.reverseRecOn with
  | nil => exact ⟨∅, .nil k⟩
  | append_singleton ts t ih =>
    obtain ⟨D, h⟩ := ih
    by_cases hd : t.delimits k = true
    · by_cases h0 : t.isPunct (k.mark .closing) = true → (finalDepths ts).get k = 0
      · exact ⟨_, h.delete hd h0⟩
      · obtain ⟨hc, h0⟩ := Classical.not_imp.1 h0
        obtain ⟨q, hq⟩ := h.putBack hc h0
        exact ⟨_, hq⟩
    · exact ⟨D, h.keep (by simpa using hd)⟩

namespace LeastRepair

theorem repairs (h : LeastRepair k ts D) : Repairs k ts D :=
  ⟨h.delimits, clean_iff.2 ⟨h.peak, h.excess⟩⟩

/-- The closers that are deleted are those that are reported. -/
theorem mem_iff_blamed (h : LeastRepair k ts D) {p : Nat} (ht : ts[p]? = some t)
    (hc : t.isPunct (k.mark .closing) = true) :
    p ∈ D ↔ Blamed ts p (.unmatchedCloser k t.line) := by
  rw [h.closers p t ht hc, get_finalDepths_eq_zero_iff ht hc]
  constructor
  · rintro ⟨h0, hm⟩
    exact ⟨k, t, ht, hc, h0, hm, rfl⟩
  · rintro ⟨j, u, hu, -, h0, hm, he⟩
    obtain ⟨rfl, -⟩ := Finding.unmatchedCloser.inj he
    exact ⟨h0, hm⟩

theorem card_eq (h : LeastRepair k ts D) :
    D.card = (closerFindings k (check ts)).length + openCount k (check ts) := by
  have hD := excess_eq_add D k ts
  have hpeak := length_closerFindings k ts
  have hopen := get_finalDepths k ts
  have hr := h.openers
  have hremoved := excess_eq_sub k (removed D ts)
  rw [h.excess] at hD
  rw [surplus] at hopen
  rw [openCount_check, h.repairs.card_eq]
  omega

end LeastRepair

/-! ## The other kind -/

theorem check_remaining_of_ne {j : Delimiter} (hj : j ≠ k)
    (hD : ∀ p ∈ D, ∃ t, ts[p]? = some t ∧ t.delimits k = true) :
    (check (remaining D ts)).filter (·.delimiter? == some j) =
      (check ts).filter (·.delimiter? == some j) := by
  have hf : (remaining D ts).filter (·.delimits j) = ts.filter (·.delimits j) := by
    refine filter_remaining fun p hp t ht => ?_
    obtain ⟨u, hu, hk⟩ := hD p hp
    obtain rfl := Option.some.inj (ht.symm.trans hu)
    rw [Bool.eq_false_iff]
    intro hj'
    obtain ⟨_, hs⟩ := delimits_iff.1 hj'
    obtain ⟨_, hs'⟩ := delimits_iff.1 hk
    rw [hs, Option.some.injEq, Prod.mk.injEq] at hs'
    exact hj hs'.2
  rw [check_filter_delimiter, check_filter_delimiter, hf]

/-- **The reports are the least repair.** Of one kind of delimiter, as many have to be deleted as
the check reports, in closers and in open openers, until it reports nothing on that kind. So many
will do, if they are just the closers that are blamed, which are those that were reported, and as
many openers as were reported open; fewer will not. Nothing that is deleted of one kind changes what
is found on the other. -/
theorem check_least_repair (ts : List Token) (k : Delimiter) :
    let reported := (closerFindings k (check ts)).length + openCount k (check ts)
    IsLeast {n | ∃ D, Repairs k ts D ∧ D.card = n} reported ∧
    Listed (fun p f => Blamed ts p f ∧ f.delimiter? = some k) (closerFindings k (check ts)) ∧
    (∃ D, Repairs k ts D ∧ D.card = reported ∧
      (∀ p t, ts[p]? = some t → t.isPunct (k.mark .closing) = true →
        (p ∈ D ↔ Blamed ts p (.unmatchedCloser k t.line))) ∧
      (removed D ts).countP (·.isPunct (k.mark .opening)) = openCount k (check ts)) ∧
    ∀ D : Finset Nat, (∀ p ∈ D, ∃ t, ts[p]? = some t ∧ t.delimits k = true) → ∀ j, j ≠ k →
      (check (remaining D ts)).filter (·.delimiter? == some j) =
        (check ts).filter (·.delimiter? == some j) := by
  intro reported
  obtain ⟨D, hD⟩ := exists_leastRepair k ts
  refine ⟨⟨⟨D, hD.repairs, hD.card_eq⟩, ?least⟩, listed_closerFindings k ts,
    ⟨D, hD.repairs, hD.card_eq, ?closers, ?openers⟩, fun D hk j hj => check_remaining_of_ne hj hk⟩
  case least =>
    rintro _ ⟨E, hE, rfl⟩
    exact hE.le_card
  case closers => exact fun p t ht hc => hD.mem_iff_blamed ht hc
  case openers => rw [hD.openers, openCount_check]

/-- The closer and one opener have to go; what is found on the brace stays. -/
theorem check_least_repair_sample :
    let ts : List Token := [⟨.punctuation, ")", 1, 1⟩, ⟨.punctuation, "(", 1, 2⟩,
      ⟨.punctuation, "(", 1, 3⟩, ⟨.punctuation, ")", 1, 4⟩, ⟨.punctuation, "\x7d", 2, 1⟩]
    IsLeast {n | ∃ D, Repairs .parenthesis ts D ∧ D.card = n} 2 ∧
    (∀ p ∈ ({0, 1} : Finset Nat), ∃ t, ts[p]? = some t ∧ t.delimits .parenthesis = true) ∧
    (check (remaining {0, 1} ts)).filter (·.delimiter? == some .brace) =
      (check ts).filter (·.delimiter? == some .brace) := by
  intro ts
  obtain ⟨hleast, -, -, hother⟩ := check_least_repair ts .parenthesis
  have hreported : (closerFindings .parenthesis (check ts)).length +
      openCount .parenthesis (check ts) = 2 := by decide
  have hdelimits : ∀ p ∈ ({0, 1} : Finset Nat),
      ∃ t, ts[p]? = some t ∧ t.delimits .parenthesis = true := by
    intro p hp
    rcases Finset.mem_insert.1 hp with rfl | hp
    · exact ⟨_, rfl, by decide⟩
    · rw [Finset.mem_singleton.1 hp]
      exact ⟨_, rfl, by decide⟩
  rw [hreported] at hleast
  exact ⟨hleast, hdelimits, hother {0, 1} hdelimits .brace (by decide)⟩

end Structure

end StagedAnalysis

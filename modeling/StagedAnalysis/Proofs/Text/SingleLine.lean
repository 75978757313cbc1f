import Mathlib.Tactic.SplitIfs
import StagedAnalysis.Text.Lines
import StagedAnalysis.Text.Quoted

/-!
# Single lines

A text without a line feed is one line. Lines that are put below one another are found again in the
whole, and each may be put together from pieces that are single lines themselves. Quoted text is
one: quoting writes a line feed as an escape, and an escape is made of printable characters.

* `singleLine_append`, `singleLine_toString`, `singleLine_quoted`: what a line may be made of.
* `pieces_unlines`: lines below one another are found again.
-/

namespace StagedAnalysis.Text

def SingleLine (s : String) : Prop := '\n' ∉ s.toList

instance (s : String) : Decidable (SingleLine s) := inferInstanceAs (Decidable (_ ∉ _))

theorem singleLine_append {a b : String} :
    SingleLine (a ++ b) ↔ SingleLine a ∧ SingleLine b := by
  simp [SingleLine]

/-- A number is written in digits, with at most a sign before them. -/
theorem singleLine_toString (n : Int) : SingleLine (toString n) := by
  have hdigits (m : Nat) : SingleLine m.repr := by
    intro h
    rw [Nat.toList_repr] at h
    have hd := Nat.isDigit_of_mem_toDigits (by decide) (by decide) h
    exact absurd hd (by decide)
  rw [Int.toString_eq_repr]
  cases n with
  | ofNat m => exact hdigits m
  | negSucc m => exact singleLine_append.2 ⟨by decide, hdigits (m + 1)⟩

theorem singleLine_toString_nat (n : Nat) : SingleLine (toString n) :=
  singleLine_toString (Int.ofNat n)

/-! ## Quoted text -/

theorem newline_not_mem_toDigits {b : Nat} (hb : 1 < b) (n : Nat) : '\n' ∉ Nat.toDigits b n := by
  induction n using Nat.strongRecOn with
  | ind n ih =>
    rw [Nat.toDigits_eq_if hb]
    split
    · simp
    · next hn =>
      have hlt : n / b < n := Nat.div_lt_self (by omega) hb
      simpa using ih _ hlt

theorem newline_not_mem_hex (width n : Nat) : '\n' ∉ hex width n := by
  simp only [hex, List.mem_append, List.mem_replicate, not_or]
  exact ⟨fun h => absurd h.2 (by decide), newline_not_mem_toDigits (by decide) n⟩

theorem newline_not_mem_escapeCode (c : Char) : '\n' ∉ escapeCode c := by
  unfold escapeCode
  split_ifs <;> simp [newline_not_mem_hex]

theorem newline_not_mem_escapeChar {quote : Char} (hq : quote ≠ '\n') (c : Char) :
    '\n' ∉ escapeChar quote c := by
  unfold escapeChar
  by_cases hn : c = '\n'
  · simp [hn, hq.symm]
  · have hc : '\n' ≠ c := Ne.symm hn
    split_ifs <;> simp [hc, newline_not_mem_escapeCode]

theorem quoteFor_ne_newline (s : List Char) : quoteFor s ≠ '\n' := by
  unfold quoteFor
  split <;> decide

theorem singleLine_quoted (s : String) : SingleLine (quoted s) := by
  have hq := quoteFor_ne_newline s.toList
  simp only [SingleLine, quoted, String.toList_ofList, List.cons_append, List.mem_cons,
    List.mem_append, List.mem_flatMap, List.not_mem_nil, or_false, not_or]
  refine ⟨hq.symm, ?_, hq.symm⟩
  rintro ⟨c, -, hc⟩
  exact newline_not_mem_escapeChar hq c hc

/-! ## Lines below one another -/

theorem pieces_unlines {ls : List String} (hne : ls ≠ []) (h : ∀ l ∈ ls, SingleLine l) :
    pieces '\n' (unlines ls).toList = ls.map String.toList := by
  rw [unlines, String.toList_ofList]
  refine pieces_join (by simpa using hne) fun l hl => ?_
  obtain ⟨t, ht, rfl⟩ := List.mem_map.1 hl
  exact h t ht

end StagedAnalysis.Text

import StagedAnalysis.Document

/-!
# The lines of a document

Each line of a document is read on its own, and only its number depends on the others.

* `readLines_getElem?`, `mem_readLines`: which line is read from which piece of the text.
* `ok_read_iff`, `ok_ofChars_iff`: when a line and when a document could be read.
-/

namespace StagedAnalysis

theorem ok_read_iff {n : Int} {s : List Char} :
    (Line.read n s).ok = true ↔ ∃ ts, scan n s = .ok ts := by
  unfold Line.ok Line.error? Line.read
  dsimp only
  cases scan n s <;> simp

theorem tokens_read {n : Int} {s : List Char} {ts : List Token} (h : scan n s = .ok ts) :
    (Line.read n s).tokens = ts := by
  unfold Line.tokens Line.read
  rw [h]

theorem tokens_read_of_error {n : Int} {s : List Char} {e : LexicalError}
    (h : scan n s = .error e) : (Line.read n s).tokens = [] := by
  unfold Line.tokens Line.read
  rw [h]

/-- Only a line that could be read has tokens. -/
theorem scan_of_mem_tokens_read {n : Int} {s : List Char} {t : Token}
    (h : t ∈ (Line.read n s).tokens) : ∃ ts, scan n s = .ok ts ∧ t ∈ ts := by
  cases hs : scan n s with
  | ok ts => exact ⟨ts, rfl, tokens_read hs ▸ h⟩
  | error e =>
    rw [tokens_read_of_error hs] at h
    cases h

namespace Document

theorem length_readLines (n : Int) (ls : List (List Char)) :
    (readLines n ls).length = ls.length := by
  induction ls generalizing n with
  | nil => rfl
  | cons l ls ih => simp [readLines, ih]

theorem readLines_getElem? (n : Int) (ls : List (List Char)) (k : Nat) :
    (readLines n ls)[k]? = ls[k]?.map (Line.read (n + k)) := by
  induction ls generalizing n k with
  | nil => rfl
  | cons l ls ih =>
    cases k with
    | zero => simp [readLines]
    | succ k =>
      simp only [readLines, List.getElem?_cons_succ, ih]
      rw [show n + 1 + (k : Int) = n + ((k + 1 : Nat) : Int) by omega]

/-- Every line is read from a line of the text. -/
theorem mem_readLines {n : Int} {ls : List (List Char)} {r : Line} (h : r ∈ readLines n ls) :
    ∃ (k : Nat) (l : List Char), ls[k]? = some l ∧ r = .read (n + k) l := by
  obtain ⟨k, hk⟩ := List.mem_iff_getElem?.1 h
  rw [readLines_getElem?, Option.map_eq_some_iff] at hk
  obtain ⟨l, hl, hr⟩ := hk
  exact ⟨k, l, hl, hr.symm⟩

/-- A document could be read if each of its lines can. -/
theorem ok_ofChars_iff {s : List Char} :
    (ofChars s).ok = true ↔
      ∀ (k : Nat) l, (Text.lines s)[k]? = some l → ∃ ts, scan (1 + k) l = .ok ts := by
  refine List.all_eq_true.trans ⟨fun h k l hl => ?_, fun h r hr => ?_⟩
  · refine ok_read_iff.1 (h _ (List.mem_of_getElem? (i := k) ?_))
    show (readLines 1 (Text.lines s))[k]? = _
    rw [readLines_getElem?, hl]
    rfl
  · obtain ⟨k, l, hl, rfl⟩ := mem_readLines hr
    exact ok_read_iff.2 (h k l hl)

end Document

end StagedAnalysis

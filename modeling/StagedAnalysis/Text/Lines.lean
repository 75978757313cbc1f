/-!
# Pieces and lines

A text is cut at a separator, so there is one piece more than separators and a final separator
leaves an empty last piece. Lines are the pieces between line feeds. `unifyNewlines` is applied to
text read from a file: there every carriage return ends a line, and one followed by a line feed
ends it together with that line feed.
-/

namespace StagedAnalysis.Text

/-- The pieces between separators. -/
def pieces (sep : Char) : List Char → List (List Char)
  | [] => [[]]
  | c :: cs =>
    if c = sep then [] :: pieces sep cs
    else match pieces sep cs with
      | [] => [[c]]
      | l :: ls => (c :: l) :: ls

/-- Pieces with a separator between each two. -/
def join (sep : Char) : List (List Char) → List Char
  | [] => []
  | [l] => l
  | l :: ls => l ++ sep :: join sep ls

/-- The lines of a text. -/
def lines (s : List Char) : List (List Char) := pieces '\n' s

/-- A text of these lines. -/
def unlines (ls : List String) : String := String.ofList (join '\n' (ls.map String.toList))

def unifyNewlines : List Char → List Char
  | [] => []
  | '\r' :: '\n' :: cs => '\n' :: unifyNewlines cs
  | c :: cs => (if c = '\r' then '\n' else c) :: unifyNewlines cs

/-! ## Cutting loses nothing -/

variable {sep : Char}

theorem pieces_ne_nil (s : List Char) : pieces sep s ≠ [] := by
  cases s with
  | nil => simp [pieces]
  | cons c cs =>
    simp only [pieces]
    split
    · simp
    · split <;> simp

theorem join_pieces (s : List Char) : join sep (pieces sep s) = s := by
  induction s with
  | nil => rfl
  | cons c cs ih =>
    rcases hl : pieces sep cs with _ | ⟨l, ls⟩
    · exact absurd hl (pieces_ne_nil cs)
    · simp only [pieces, hl] at ih ⊢
      split
      · next h => simpa [join, h] using ih
      · cases ls <;> simp_all [join]

theorem pieces_of_not_mem {s : List Char} (h : sep ∉ s) : pieces sep s = [s] := by
  induction s with
  | nil => rfl
  | cons c cs ih =>
    have hc : c ≠ sep := fun e => h (e ▸ List.mem_cons_self)
    simp [pieces, hc, ih fun m => h (List.mem_cons_of_mem _ m)]

theorem pieces_append (s t : List Char) :
    pieces sep (s ++ sep :: t) = pieces sep s ++ pieces sep t := by
  induction s with
  | nil => simp [pieces]
  | cons c cs ih =>
    simp only [List.cons_append, pieces, ih]
    split
    · rfl
    · rcases hl : pieces sep cs with _ | ⟨l, ls⟩
      · exact absurd hl (pieces_ne_nil cs)
      · rfl

/-- Pieces without the separator are found again. -/
theorem pieces_join {ls : List (List Char)} (hne : ls ≠ []) (h : ∀ l ∈ ls, sep ∉ l) :
    pieces sep (join sep ls) = ls := by
  induction ls with
  | nil => exact absurd rfl hne
  | cons l ls ih =>
    have hl := h l List.mem_cons_self
    cases ls with
    | nil => exact pieces_of_not_mem hl
    | cons k ks =>
      have hks := ih (by simp) fun m hm => h m (List.mem_cons_of_mem _ hm)
      simp only [join] at hks ⊢
      rw [pieces_append, pieces_of_not_mem hl, hks]
      rfl

/-- No piece holds the separator. -/
theorem not_mem_of_mem_pieces {s l : List Char} (h : l ∈ pieces sep s) : sep ∉ l := by
  induction s generalizing l with
  | nil => simp_all [pieces]
  | cons c cs ih =>
    rcases hl : pieces sep cs with _ | ⟨p, ps⟩
    · exact absurd hl (pieces_ne_nil cs)
    · simp only [pieces, hl] at ih h
      split at h
      · rcases List.mem_cons.1 h with rfl | h
        · simp
        · exact ih h
      · next hc =>
        rcases List.mem_cons.1 h with rfl | h
        · simpa [Ne.symm hc] using ih List.mem_cons_self
        · exact ih (List.mem_cons_of_mem _ h)

end StagedAnalysis.Text

/-!
# Blank text

The characters that separate without meaning anything, and the text that is left once they are
taken off both ends. Text is a list of characters here: positions count code points.
-/

namespace StagedAnalysis.Text

/-- White space: the tabs, breaks and separators of Latin-1, and the spaces beyond it. -/
def isBlank (c : Char) : Bool :=
  let n := c.toNat
  (0x09 ≤ n && n ≤ 0x0D) || (0x1C ≤ n && n ≤ 0x20) || n == 0x85 || n == 0xA0 || n == 0x1680 ||
    (0x2000 ≤ n && n ≤ 0x200A) || n == 0x2028 || n == 0x2029 || n == 0x202F || n == 0x205F ||
    n == 0x3000

/-- Text of blank characters only; the empty text is blank. -/
def Blank (s : List Char) : Prop := ∀ c ∈ s, isBlank c = true

-- named, as there are also instances that go through every character there is
instance (s : List Char) : Decidable (Blank s) := List.decidableBAll (isBlank · = true) s

def trimStart (s : List Char) : List Char := s.dropWhile isBlank

def trimEnd (s : List Char) : List Char := (s.reverse.dropWhile isBlank).reverse

/-- The text between its first and its last character that is not blank. -/
def trim (s : List Char) : List Char := trimEnd (trimStart s)

/-! ## Blank text -/

@[simp] theorem blank_nil : Blank [] := by simp [Blank]

@[simp] theorem blank_cons {c : Char} {s : List Char} : Blank (c :: s) ↔ isBlank c ∧ Blank s := by
  simp [Blank]

@[simp] theorem blank_append {s t : List Char} : Blank (s ++ t) ↔ Blank s ∧ Blank t := by
  simp only [Blank, List.mem_append, or_imp, forall_and]

end StagedAnalysis.Text

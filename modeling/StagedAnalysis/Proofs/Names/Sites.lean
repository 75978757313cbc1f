import StagedAnalysis.Proofs.Names.Mentioned
import StagedAnalysis.Proofs.Names.Order

/-!
# Sites

Where a stream declares a name, where it uses one and where it assigns to one wrongly, said of
positions in the stream. A position beyond either end has no token, so what stands at the ends has
no neighbour there.

* `getElem?_occurrences`: an occurrence shows what stands around its position.
* `DeclaredAt`, `lookup?_declared_eq_some_iff`, `lookup?_declared_eq_none_iff`: declarations.
* `UsedAt`, `isUsed_resolved_iff`: uses of a name that is declared somewhere.
* `FaultAt`, `listed_faults`: faults.
-/

namespace StagedAnalysis.Names

/-! ## Occurrences -/

/-- The token right before a position. -/
def before? (ts : List Token) : Nat → Option Token
  | 0 => none
  | p + 1 => ts[p]?

/-- A token as it stands at a position. -/
def Occurrence.inside (ts : List Token) (p : Nat) (t : Token) : Occurrence :=
  ⟨before? ts p, t, ts[p + 1]?, ts[p + 2]?⟩

theorem getElem?_occurrencesAfter (a : Token) (ts : List Token) (p : Nat) :
    (occurrencesAfter (some a) ts)[p]? =
      ts[p]?.map fun t => ⟨(a :: ts)[p]?, t, ts[p + 1]?, ts[p + 2]?⟩ := by
  induction ts generalizing a p with
  | nil => rfl
  | cons t ts ih =>
    cases p with
    | zero => simp [occurrencesAfter, List.head?_eq_getElem?]
    | succ p => simpa [occurrencesAfter] using ih t p

theorem getElem?_occurrences (ts : List Token) (p : Nat) :
    (occurrences ts)[p]? = ts[p]?.map (Occurrence.inside ts p) := by
  cases ts with
  | nil => rfl
  | cons t ts =>
    cases p with
    | zero =>
      simp [occurrences, occurrencesAfter, Occurrence.inside, before?, List.head?_eq_getElem?]
    | succ p => exact getElem?_occurrencesAfter t ts p

theorem itemAt_occurrences {α : Type} {g : Occurrence → Option α} {ts : List Token} {p : Nat}
    {y : α} :
    ItemAt g (occurrences ts) p y ↔ ∃ t, ts[p]? = some t ∧ g (.inside ts p t) = some y := by
  simp [ItemAt, getElem?_occurrences]

/-! ## Declarations -/

/-- The symbol that an identifier right after a keyword declares. -/
def Occurrence.declared? (o : Occurrence) : Option Symbol :=
  o.previous?.bind fun k =>
    if k.kind = .keyword ∧ o.token.kind = .identifier then
      some ⟨o.token.lexeme, k.lexeme, o.token.line⟩
    else none

theorem Occurrence.declared?_eq_some_iff {o : Occurrence} {s : Symbol} :
    o.declared? = some s ↔ ∃ k, o.previous? = some k ∧ k.kind = .keyword ∧
      o.token.kind = .identifier ∧ s = ⟨o.token.lexeme, k.lexeme, o.token.line⟩ := by
  simp only [declared?, Option.bind_eq_some_iff, Option.ite_none_right_eq_some, Option.some_inj,
    and_assoc, eq_comm (b := s)]

theorem declarations_cons (a : Token) (ts : List Token) :
    declarations (a :: ts) = (occurrencesAfter (some a) ts).filterMap Occurrence.declared? := by
  induction ts generalizing a with
  | nil => rfl
  | cons t ts ih =>
    rw [declarations, occurrencesAfter, ih]
    by_cases h : a.kind = .keyword ∧ t.kind = .identifier <;> simp [Occurrence.declared?, h]

theorem declarations_eq (ts : List Token) :
    declarations ts = (occurrences ts).filterMap Occurrence.declared? := by
  cases ts with
  | nil => rfl
  | cons t ts => exact declarations_cons t ts

/-- An identifier stands at the position and a keyword right before it. -/
def DeclaredAt (ts : List Token) (p : Nat) (s : Symbol) : Prop :=
  ∃ k i, before? ts p = some k ∧ ts[p]? = some i ∧ k.kind = .keyword ∧ i.kind = .identifier ∧
    s = ⟨i.lexeme, k.lexeme, i.line⟩

theorem itemAt_declared? (ts : List Token) :
    ItemAt Occurrence.declared? (occurrences ts) = DeclaredAt ts := by
  funext p s
  refine propext (itemAt_occurrences.trans ?_)
  simp only [Occurrence.declared?_eq_some_iff]
  constructor
  · rintro ⟨i, hi, k, hk, hd⟩
    exact ⟨k, i, hk, hi, hd⟩
  · rintro ⟨k, i, hk, hi, hd⟩
    exact ⟨i, hi, k, hk, hd⟩

theorem declared_eq (ts : List Token) :
    declared ts =
      ((occurrences ts).filterMap Occurrence.declared?).foldl SymbolTable.declare {} := by
  rw [declared, declarations_eq]

theorem lookup?_declared_eq_some_iff {ts : List Token} {name : String} {s : Symbol} :
    (declared ts).lookup? name = some s ↔ LastDeclared (DeclaredAt ts) s ∧ s.name = name := by
  rw [declared_eq, ← itemAt_declared?]
  exact SymbolTable.lookup?_eq_some_iff _ _

theorem lookup?_declared_eq_none_iff {ts : List Token} {name : String} :
    (declared ts).lookup? name = none ↔ ∀ p s, DeclaredAt ts p s → s.name ≠ name := by
  rw [declared_eq, ← itemAt_declared?]
  exact SymbolTable.lookup?_eq_none_iff _ _

/-! ## Uses -/

/-- The identifier at the position is assigned to, or no keyword stands right before it. -/
def UsedAt (ts : List Token) (p : Nat) (name : String) : Prop :=
  ∃ i, ts[p]? = some i ∧ i.kind = .identifier ∧ i.lexeme = name ∧
    (isKind .assignment ts[p + 1]? = true ∨ isKind .keyword (before? ts p) = false)

theorem use?_eq_some_iff {table : SymbolTable} {o : Occurrence} {name : String}
    (h : table.contains name = true) :
    o.use? table = some name ↔ o.token.kind = .identifier ∧ o.token.lexeme = name ∧
      (isKind .assignment o.next? = true ∨ isKind .keyword o.previous? = false) := by
  rw [Occurrence.use?, Option.ite_none_right_eq_some, Option.some_inj]
  have huse (hname : o.token.lexeme = name) :
      (o.isAssigned || o.isRead && table.contains o.token.lexeme) = true ↔
        o.token.kind = .identifier ∧
          (isKind .assignment o.next? = true ∨ isKind .keyword o.previous? = false) := by
    rw [hname, h, Bool.and_true, Occurrence.isAssigned, Occurrence.isRead]
    cases isKind .assignment o.next? <;> simp
  constructor
  · rintro ⟨hu, hname⟩
    obtain ⟨hk, hsides⟩ := (huse hname).1 hu
    exact ⟨hk, hname, hsides⟩
  · rintro ⟨hk, hname, hsides⟩
    exact ⟨(huse hname).2 ⟨hk, hsides⟩, hname⟩

/-- A declared name is used if it is used at some position. -/
theorem isUsed_resolved_iff {ts : List Token} {name : String}
    (h : (declared ts).contains name = true) :
    (resolved ts).isUsed name = true ↔ ∃ p, UsedAt ts p name := by
  rw [isUsed_resolved, ← ItemAt.exists_iff_mem]
  simp only [itemAt_occurrences, use?_eq_some_iff h]
  rfl

/-! ## Faults -/

/-- An identifier stands at the position and an assignment right after it. -/
def AssignedAt (ts : List Token) (p : Nat) (i : Token) : Prop :=
  ts[p]? = some i ∧ i.kind = .identifier ∧ isKind .assignment ts[p + 1]? = true

/-- What is wrong at a position. A declaration counts wherever it stands, and the last one decides
the type. -/
inductive FaultAt (ts : List Token) (p : Nat) : Finding → Prop
  | undeclared {i : Token} (assigned : AssignedAt ts p i)
      (nowhere : ∀ q s, DeclaredAt ts q s → s.name ≠ i.lexeme) :
      FaultAt ts p (.undeclared i.lexeme i.line)
  | stringToInt {i r : Token} {s : Symbol} (assigned : AssignedAt ts p i)
      (next : ts[p + 2]? = some r) (string : r.kind = .string)
      (last : LastDeclared (DeclaredAt ts) s) (name : s.name = i.lexeme) (int : s.type = "int") :
      FaultAt ts p (.stringToInt i.lexeme r.line)

theorem assignedAt_iff {ts : List Token} {p : Nat} {i : Token} :
    AssignedAt ts p i ↔ ts[p]? = some i ∧ (Occurrence.inside ts p i).isAssigned = true := by
  simp [AssignedAt, Occurrence.isAssigned, Occurrence.inside]

theorem AssignedAt.usedAt {ts : List Token} {p : Nat} {i : Token} (h : AssignedAt ts p i) :
    UsedAt ts p i.lexeme :=
  ⟨i, h.1, h.2.1, rfl, .inl h.2.2⟩

theorem FaultAt.code {ts : List Token} {p : Nat} {f : Finding} (h : FaultAt ts p f) :
    f.code = "E002" ∨ f.code = "E101" := by
  cases h with
  | undeclared => exact .inl rfl
  | stringToInt => exact .inr rfl

theorem itemAt_fault? (ts : List Token) :
    ItemAt (Occurrence.fault? (declared ts)) (occurrences ts) = FaultAt ts := by
  funext p f
  refine propext (itemAt_occurrences.trans ?_)
  simp only [fault?_eq_some_iff, lookup?_declared_eq_some_iff, lookup?_declared_eq_none_iff]
  constructor
  · rintro ⟨i, hi, ha, ⟨hno, rfl⟩ | ⟨s, r, ⟨hl, hname⟩, hr, hint, hs, rfl⟩⟩
    · exact .undeclared (assignedAt_iff.2 ⟨hi, ha⟩) hno
    · exact .stringToInt (assignedAt_iff.2 ⟨hi, ha⟩) hr hs hl hname hint
  · intro h
    cases h with
    | undeclared assigned nowhere =>
      obtain ⟨hi, ha⟩ := assignedAt_iff.1 assigned
      exact ⟨_, hi, ha, .inl ⟨nowhere, rfl⟩⟩
    | stringToInt assigned next string last name int =>
      obtain ⟨hi, ha⟩ := assignedAt_iff.1 assigned
      exact ⟨_, hi, ha, .inr ⟨_, _, ⟨last, name⟩, next, int, string, rfl⟩⟩

theorem mem_faults_iff {ts : List Token} {f : Finding} :
    f ∈ (occurrences ts).filterMap (Occurrence.fault? (declared ts)) ↔ ∃ p, FaultAt ts p f := by
  rw [← ItemAt.exists_iff_mem, itemAt_fault?]

/-- The faults stand in the order of their positions. -/
theorem listed_faults (ts : List Token) :
    Listed (FaultAt ts) ((occurrences ts).filterMap (Occurrence.fault? (declared ts))) := by
  rw [← itemAt_fault?]
  exact listed_filterMap _ _

end StagedAnalysis.Names

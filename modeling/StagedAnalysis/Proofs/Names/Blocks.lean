import StagedAnalysis.Document
import StagedAnalysis.Proofs.Names.Declared

/-!
# Blocks

The analysis looks at an identifier with the token before it and the two after it. None of them is
in another block if every block is empty or ends with punctuation: what stands last neither declares
nor is used. So the declarations and the uses of blocks in a row are those of each block, and where
no name is declared by two of them it does not matter in which order they stand.

* `declarations_append`, `filterMap_occurrencesAfter_append`: nothing straddles a seam.
* `lookup?_declared_flatten`: what blocks in a row declare is what one of them declares.
* `analyze_flatten_perm`: the main statement.
-/

namespace StagedAnalysis.Names

/-! ## Blocks -/

/-- Nothing, or tokens of which the last is punctuation. -/
def Closed (ts : List Token) : Prop := ∀ t ∈ ts.getLast?, t.kind = .punctuation

instance (ts : List Token) : Decidable (Closed ts) :=
  inferInstanceAs (Decidable (∀ t ∈ ts.getLast?, t.kind = .punctuation))

/-- No name is declared by both. -/
def Apart (b c : List Token) : Prop := ∀ name, ¬(Declares b name ∧ Declares c name)

theorem Apart.symm {b c : List Token} (h : Apart b c) : Apart c b :=
  fun name hd => h name ⟨hd.2, hd.1⟩

theorem Closed.tail {t : Token} {ts : List Token} (h : Closed (t :: ts)) : Closed ts := by
  intro u hu
  refine h u ?_
  rw [List.getLast?_cons, Option.mem_def.1 hu]
  rfl

theorem Closed.of_singleton {t : Token} (h : Closed [t]) : t.kind = .punctuation := h t rfl

/-! ## Declarations -/

theorem apart_iff {b c : List Token} :
    Apart b c ↔ ∀ s ∈ declarations b, ∀ u ∈ declarations c, u.name ≠ s.name := by
  simp only [Apart, declares_iff, not_and, not_exists, forall_exists_index, and_imp]
  constructor
  · exact fun h s hs u hu => h s.name s hs rfl u hu
  · rintro h name s hs rfl u hu
    exact h s hs u hu

instance (b c : List Token) : Decidable (Apart b c) := decidable_of_iff _ apart_iff.symm

theorem declarations_cons_of_ne {t : Token} (h : t.kind ≠ .keyword) (ts : List Token) :
    declarations (t :: ts) = declarations ts := by
  cases ts with
  | nil => rfl
  | cons u ts => rw [declarations, if_neg fun hk => h hk.1]

theorem declarations_append {ts : List Token} (h : Closed ts) (us : List Token) :
    declarations (ts ++ us) = declarations ts ++ declarations us := by
  fun_induction declarations ts with
  | case1 a b ts hk ih =>
    rw [List.cons_append, List.cons_append, declarations, if_pos hk, ← List.cons_append, ih h.tail]
    rfl
  | case2 a b ts hk ih =>
    rw [List.cons_append, List.cons_append, declarations, if_neg hk, ← List.cons_append, ih h.tail]
  | case3 ts hts =>
    rcases ts with _ | ⟨t, _ | ⟨u, ts⟩⟩
    · rfl
    · have ht : t.kind ≠ .keyword := by simp [h.of_singleton]
      exact declarations_cons_of_ne ht us
    · exact absurd rfl (hts t u ts)

/-- What comes later wins. -/
theorem lookup?_declared_append {ts : List Token} (h : Closed ts) (us : List Token)
    (name : String) :
    (declared (ts ++ us)).lookup? name =
      ((declared us).lookup? name).or ((declared ts).lookup? name) := by
  simp only [lookup?_declared, declarations_append h, List.reverse_append, List.find?_append]

/-- What blocks in a row declare is what one of them declares. -/
theorem lookup?_declared_flatten {bs : List (List Token)} (hc : ∀ b ∈ bs, Closed b)
    (ha : bs.Pairwise Apart) {name : String} {s : Symbol} :
    (declared bs.flatten).lookup? name = some s ↔
      ∃ b ∈ bs, (declared b).lookup? name = some s := by
  induction bs generalizing s with
  | nil => simp [lookup?_declared, declarations]
  | cons b bs ih =>
    obtain ⟨hb, ha⟩ := List.pairwise_cons.1 ha
    have ih {s : Symbol} := ih (s := s) (fun c hm => hc c (.tail _ hm)) ha
    rw [List.flatten_cons, lookup?_declared_append (hc b (.head _)), Option.or_eq_some_iff, ih,
      List.exists_mem_cons_iff]
    constructor
    · rintro (h | ⟨-, h⟩)
      · exact .inr h
      · exact .inl h
    · rintro (h | h)
      · refine .inr ⟨?_, h⟩
        -- a later declaration of the name would stand in another block
        refine Option.eq_none_iff_forall_ne_some.2 fun s' hs' => ?_
        obtain ⟨c, hm, hs'⟩ := ih.1 hs'
        exact hb c hm name ⟨declares_of_lookup? h, declares_of_lookup? hs'⟩
      · exact .inl h

/-- The order of blocks does not matter to what is found. -/
theorem lookup?_declared_perm {bs cs : List (List Token)} (hp : bs.Perm cs)
    (hc : ∀ b ∈ bs, Closed b) (ha : bs.Pairwise Apart) (name : String) :
    (declared bs.flatten).lookup? name = (declared cs.flatten).lookup? name := by
  have hc' : ∀ b ∈ cs, Closed b := fun b hb => hc b (hp.mem_iff.2 hb)
  have ha' : cs.Pairwise Apart := (hp.pairwise_iff Apart.symm).1 ha
  refine Option.ext fun s => ?_
  rw [lookup?_declared_flatten hc ha, lookup?_declared_flatten hc' ha']
  simp only [hp.mem_iff]

/-! ## Occurrences -/

/-- The same token, with neighbours that make no difference to its use. -/
structure Occurrence.Alike (o p : Occurrence) : Prop where
  token : o.token = p.token
  previous : isKind .keyword o.previous? = isKind .keyword p.previous?
  next : o.token.kind = .identifier → isKind .assignment o.next? = isKind .assignment p.next?
  afterNext : o.isAssigned = true → o.afterNext? = p.afterNext?

namespace Occurrence

variable {o p : Occurrence}

theorem Alike.refl (o : Occurrence) : o.Alike o := ⟨rfl, rfl, fun _ => rfl, fun _ => rfl⟩

theorem Alike.isAssigned_eq (h : o.Alike p) : o.isAssigned = p.isAssigned := by
  unfold isAssigned
  rw [← h.token]
  cases hk : o.token.kind == .identifier with
  | true => rw [h.next (eq_of_beq hk)]
  | false => rfl

theorem Alike.isRead_eq (h : o.Alike p) : o.isRead = p.isRead := by
  unfold isRead
  rw [← h.token, h.previous]
  cases hk : o.token.kind == .identifier with
  | true => rw [h.next (eq_of_beq hk)]
  | false => rfl

theorem Alike.use?_eq (h : o.Alike p) (table : SymbolTable) : o.use? table = p.use? table := by
  rw [use?, use?, h.isAssigned_eq, h.isRead_eq, h.token]

theorem Alike.fault?_eq (h : o.Alike p) (table : SymbolTable) :
    o.fault? table = p.fault? table := by
  unfold fault?
  rw [← h.isAssigned_eq, ← h.token]
  split
  · next ha => rw [h.afterNext ha]
  · rfl

end Occurrence

section
variable {α : Type} {f : Occurrence → Option α}

theorem filterMap_occurrencesAfter_of_ne (hf : ∀ o p : Occurrence, o.Alike p → f o = f p)
    {previous? : Option Token} (h : isKind .keyword previous? = false) (ts : List Token) :
    (occurrencesAfter previous? ts).filterMap f = (occurrences ts).filterMap f := by
  cases ts with
  | nil => rfl
  | cons t ts =>
    have ha := hf ⟨previous?, t, ts.head?, ts.tail.head?⟩ ⟨none, t, ts.head?, ts.tail.head?⟩
      ⟨rfl, h, fun _ => rfl, fun _ => rfl⟩
    simp only [occurrences, occurrencesAfter, List.filterMap_cons, ha]

/-- The last token of a block is neither an identifier nor an assignment, and no keyword either. -/
theorem filterMap_occurrencesAfter_append (hf : ∀ o p : Occurrence, o.Alike p → f o = f p)
    {previous? : Option Token} {ts : List Token} (hc : Closed ts)
    (hp : ts = [] → isKind .keyword previous? = false) (us : List Token) :
    (occurrencesAfter previous? (ts ++ us)).filterMap f =
      (occurrencesAfter previous? ts).filterMap f ++ (occurrences us).filterMap f := by
  induction ts generalizing previous? with
  | nil => exact filterMap_occurrencesAfter_of_ne hf (hp rfl) us
  | cons t ts ih =>
    have ht : ts = [] → isKind .keyword (some t) = false := by
      rintro rfl
      simp [isKind, hc.of_singleton]
    have hi := ih hc.tail ht
    have ha : f ⟨previous?, t, (ts ++ us).head?, (ts ++ us).tail.head?⟩ =
        f ⟨previous?, t, ts.head?, ts.tail.head?⟩ := by
      refine hf _ _ ?_
      rcases ts with _ | ⟨u, _ | ⟨v, ts⟩⟩
      · have hk := hc.of_singleton
        refine ⟨rfl, rfl, ?_, ?_⟩ <;> simp [hk, Occurrence.isAssigned]
      · have hk := hc.tail.of_singleton
        refine ⟨rfl, rfl, fun _ => rfl, ?_⟩
        simp [hk, Occurrence.isAssigned, isKind]
      · exact .refl _
    simp only [List.cons_append, occurrencesAfter, List.filterMap_cons, ha, hi]
    split <;> rfl

theorem filterMap_occurrences_flatten (hf : ∀ o p : Occurrence, o.Alike p → f o = f p)
    {bs : List (List Token)} (hc : ∀ b ∈ bs, Closed b) :
    (occurrences bs.flatten).filterMap f = bs.flatMap fun b => (occurrences b).filterMap f := by
  induction bs with
  | nil => rfl
  | cons b bs ih =>
    rw [List.flatten_cons, occurrences,
      filterMap_occurrencesAfter_append hf (hc b (.head _)) fun _ => rfl,
      ih fun c hm => hc c (.tail _ hm)]
    rfl

theorem filterMap_occurrences_perm (hf : ∀ o p : Occurrence, o.Alike p → f o = f p)
    {bs cs : List (List Token)} (hp : bs.Perm cs) (hc : ∀ b ∈ bs, Closed b) :
    ((occurrences bs.flatten).filterMap f).Perm ((occurrences cs.flatten).filterMap f) := by
  rw [filterMap_occurrences_flatten hf hc,
    filterMap_occurrences_flatten hf fun b hb => hc b (hp.mem_iff.2 hb)]
  exact hp.flatMap_right _

end

/-! ## Analyses -/

/-- Only what is found in the table matters to the use of a name. -/
theorem use?_congr {t u : SymbolTable} (h : ∀ name, t.lookup? name = u.lookup? name) :
    Occurrence.use? t = Occurrence.use? u := by
  funext o
  unfold Occurrence.use? SymbolTable.contains
  rw [h]

theorem fault?_congr {t u : SymbolTable} (h : ∀ name, t.lookup? name = u.lookup? name) :
    Occurrence.fault? t = Occurrence.fault? u := by
  funext o
  simp only [Occurrence.fault?, h]

section
variable {bs cs : List (List Token)} (hp : bs.Perm cs) (hc : ∀ b ∈ bs, Closed b)
  (ha : bs.Pairwise Apart)
include hp hc ha

theorem symbols_perm_of_blocks :
    (resolved bs.flatten).symbols.Perm (resolved cs.flatten).symbols := by
  rw [symbols_resolved, symbols_resolved]
  exact SymbolTable.symbols_perm (distinct_declared _) (distinct_declared _)
    (lookup?_declared_perm hp hc ha)

theorem isUsed_of_blocks (name : String) :
    (resolved bs.flatten).isUsed name = (resolved cs.flatten).isUsed name := by
  rw [Bool.eq_iff_iff, isUsed_resolved, isUsed_resolved,
    use?_congr (lookup?_declared_perm hp hc ha)]
  exact (filterMap_occurrences_perm (fun _ _ h => h.use?_eq _) hp hc).mem_iff

theorem entries_perm :
    (resolved bs.flatten).entries.Perm (resolved cs.flatten).entries := by
  unfold SymbolTable.entries
  simp only [isUsed_of_blocks hp hc ha]
  exact (symbols_perm_of_blocks hp hc ha).map _

theorem findings_perm :
    (analyze bs.flatten).findings.Perm (analyze cs.flatten).findings := by
  unfold analyze SymbolTable.unused
  dsimp only
  rw [fault?_congr (lookup?_declared_perm hp hc ha)]
  simp only [isUsed_of_blocks hp hc ha]
  exact (filterMap_occurrences_perm (fun _ _ h => h.fault?_eq _) hp hc).append
    (((symbols_perm_of_blocks hp hc ha).filter _).map _)

end

/-- **The order of independent blocks.** Blocks that are empty or end with punctuation, and of which
no two declare the same name, may stand in any order: the rows of the table and the findings are the
same, each as often, but for their order. -/
theorem analyze_flatten_perm (bs cs : List (List Token)) (hp : bs.Perm cs)
    (hc : ∀ b ∈ bs, Closed b) (ha : bs.Pairwise Apart) :
    ((analyze bs.flatten).table.entries.map SymbolTable.Entry.row).Perm
      ((analyze cs.flatten).table.entries.map SymbolTable.Entry.row) ∧
    ((analyze bs.flatten).findings.map Finding.toDiagnostic).Perm
      ((analyze cs.flatten).findings.map Finding.toDiagnostic) :=
  ⟨(entries_perm hp hc ha).map _, (findings_perm hp hc ha).map _⟩

/-- A string goes to `x` before the block that makes it an `int`, and `y` is declared for
nothing. -/
def sampleBlocks : List (List Token) :=
  [(Line.read 1 ['x', '=', '"', 'a', '"', ';']).tokens, [],
    (Line.read 2 ['i', 'n', 't', ' ', 'x', ';']).tokens,
    (Line.read 3 ['z', '=', '1', ';', 'i', 'n', 't', ' ', 'y', ';']).tokens]

theorem analyze_flatten_perm_sample :
    sampleBlocks.Perm sampleBlocks.reverse ∧ (∀ b ∈ sampleBlocks, Closed b) ∧
    sampleBlocks.Pairwise Apart ∧
    ((analyze sampleBlocks.reverse.flatten).findings.map Finding.toDiagnostic).Perm
      ([.stringToInt "x" 1, .undeclared "z" 3, .unused "y" 3].map Finding.toDiagnostic) := by
  have hp : sampleBlocks.Perm sampleBlocks.reverse := (List.reverse_perm _).symm
  have hc : ∀ b ∈ sampleBlocks, Closed b := by decide +kernel
  have ha : sampleBlocks.Pairwise Apart := by decide +kernel
  have hf : (analyze sampleBlocks.flatten).findings =
      [.stringToInt "x" 1, .undeclared "z" 3, .unused "y" 3] := by decide +kernel
  exact ⟨hp, hc, ha, hf ▸ (analyze_flatten_perm _ _ hp hc ha).2.symm⟩

end StagedAnalysis.Names

import StagedAnalysis.Document
import StagedAnalysis.Proofs.Names.Rows

/-!
# Faults of assignments

Which assignments are reported depends on the whole stream, as a declaration counts wherever it
stands. So an undeclared name has no other finding, and a name that a string is assigned to is used.

* `not_mem_of_undeclared`, `not_mem_of_stringToInt`: findings that exclude one another.
* `analyze_faults`: the main statement.
-/

namespace StagedAnalysis.Names

variable {ts : List Token} {name : String} {line line' : Int}

/-- A name that is reported as undeclared is declared nowhere. -/
theorem not_declaredAt_of_mem (h : .undeclared name line ∈ (analyze ts).findings) {p : Nat}
    {s : Symbol} (hs : DeclaredAt ts p s) : s.name ≠ name := by
  rcases mem_findings_iff.1 h with ⟨p, hp⟩ | ⟨s, -, -, he⟩
  · cases hp with
    | undeclared _ nowhere => exact nowhere _ _ hs
  · cases he

/-- A string is assigned where it is reported, to a name with a declaration. -/
theorem exists_assignedAt_of_mem (h : .stringToInt name line ∈ (analyze ts).findings) :
    (∃ p, UsedAt ts p name) ∧
      ∃ s, LastDeclared (DeclaredAt ts) s ∧ s.name = name ∧ s.type = "int" := by
  rcases mem_findings_iff.1 h with ⟨p, hp⟩ | ⟨s, -, -, he⟩
  · cases hp with
    | stringToInt assigned _ _ last name int => exact ⟨⟨p, assigned.usedAt⟩, _, last, name, int⟩
  · cases he

theorem exists_unused_of_mem (h : .unused name line ∈ (analyze ts).findings) :
    (∀ p, ¬UsedAt ts p name) ∧ ∃ s, LastDeclared (DeclaredAt ts) s ∧ s.name = name := by
  rcases mem_findings_iff.1 h with ⟨p, hp⟩ | ⟨s, hl, hu, he⟩
  · cases hp
  · cases he
    exact ⟨hu, s, hl, rfl⟩

/-- An undeclared name has no other finding. -/
theorem not_mem_of_undeclared (h : .undeclared name line ∈ (analyze ts).findings) :
    .unused name line' ∉ (analyze ts).findings ∧
      .stringToInt name line' ∉ (analyze ts).findings := by
  -- both other findings are about a name with a declaration
  have hno {s : Symbol} (hl : LastDeclared (DeclaredAt ts) s) : s.name ≠ name := by
    obtain ⟨p, hp, -⟩ := hl
    exact not_declaredAt_of_mem h hp
  refine ⟨fun hu => ?_, fun hs => ?_⟩
  · obtain ⟨-, s, hl, hname⟩ := exists_unused_of_mem hu
    exact hno hl hname
  · obtain ⟨-, s, hl, hname, -⟩ := exists_assignedAt_of_mem hs
    exact hno hl hname

/-- To assign is to use, also where a string is assigned. -/
theorem not_mem_of_stringToInt (h : .stringToInt name line ∈ (analyze ts).findings) :
    .unused name line' ∉ (analyze ts).findings := by
  intro hu
  obtain ⟨⟨p, hp⟩, -⟩ := exists_assignedAt_of_mem h
  exact (exists_unused_of_mem hu).1 p hp

/-- What is shown of such a string is the name and the type that it was declared with last. -/
theorem exists_declared_of_code {f : Finding} (h : f ∈ (analyze ts).findings)
    (hc : f.code = "E101") : ∃ s, LastDeclared (DeclaredAt ts) s ∧ s.type = "int" ∧
      f.details = [("name", .text s.name), ("declared", .text s.type)] := by
  rcases mem_findings_iff.1 h with ⟨p, hp⟩ | ⟨s, -, -, rfl⟩
  · cases hp with
    | undeclared => simp [Finding.code] at hc
    | stringToInt _ _ _ last name int =>
      exact ⟨_, last, int, by rw [Finding.details, name, int]⟩
  · simp [Finding.code] at hc

theorem filter_findings (ts : List Token) :
    (analyze ts).findings.filter (fun f => f.code = "E002" ∨ f.code = "E101") =
      (occurrences ts).filterMap (Occurrence.fault? (declared ts)) := by
  have hfaults : ∀ f ∈ (occurrences ts).filterMap (Occurrence.fault? (declared ts)),
      decide (f.code = "E002" ∨ f.code = "E101") = true := by
    intro f hf
    obtain ⟨p, hp⟩ := mem_faults_iff.1 hf
    exact decide_eq_true hp.code
  have hunused : ((resolved ts).unused.map fun s => Finding.unused s.name s.line).filter
      (fun f => f.code = "E002" ∨ f.code = "E101") = [] := by
    simp [Finding.code]
  rw [analyze, List.filter_append, hunused, List.append_nil, List.filter_eq_self.2 hfaults]

/-- The faults of assignments stand in the order of their positions, one for each position that has
one. They exclude one another and what is unused, and are found without looking at anything but the
positions of the stream. -/
theorem analyze_faults (ts : List Token) :
    Listed (FaultAt ts)
        ((analyze ts).findings.filter fun f => f.code = "E002" ∨ f.code = "E101") ∧
      (∀ name line line', .undeclared name line ∈ (analyze ts).findings →
        .unused name line' ∉ (analyze ts).findings ∧
          .stringToInt name line' ∉ (analyze ts).findings) ∧
      (∀ name line line', .stringToInt name line ∈ (analyze ts).findings →
        .unused name line' ∉ (analyze ts).findings) ∧
      (∀ f ∈ (analyze ts).findings, f.code = "E101" → ∃ s, LastDeclared (DeclaredAt ts) s ∧
        s.type = "int" ∧ f.details = [("name", .text s.name), ("declared", .text s.type)]) ∧
      ∀ p, (occurrences ts)[p]? = ts[p]?.map fun t =>
        Occurrence.mk (before? ts p) t ts[p + 1]? ts[p + 2]? := by
  refine ⟨?_, fun _ _ _ h => not_mem_of_undeclared h, fun _ _ _ h => not_mem_of_stringToInt h,
    fun _ hf hc => exists_declared_of_code hf hc, getElem?_occurrences ts⟩
  rw [filter_findings]
  exact listed_faults ts

/-- The declaration that makes this assignment wrong stands behind it. -/
example : (analyze (Document.ofText "x = \"s\";\nint x;").tokens).findings =
    [.stringToInt "x" 1] := by decide +kernel

end StagedAnalysis.Names

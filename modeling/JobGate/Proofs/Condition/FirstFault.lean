import JobGate.Condition.Instantiation
import JobGate.Proofs.Traversal
/-! The failure of an instantiation. `ClauseFault` says in which ways a clause cannot be built,
field by field; a condition fails with the fault of its first clause that has one. -/
namespace JobGate.Condition
open Traversal
variable {base : String} {data : Bindings} {clause : Clause} {i : Nat} {f : Failure}

inductive ClauseFault (base : String) (data : Bindings) (clause : Clause) (i : Nat) :
    Failure → Prop where
  | key {fault : Variant.ResolveFault} (hk : clause.key.resolve data = .error fault) :
      ClauseFault base data clause i (.ofResolve ⟨base, .key i⟩ fault)
  | operator {key name : String} (hk : clause.key.resolve data = .ok key)
      (ho : clause.operator = .placeholder name) :
      ClauseFault base data clause i (.refused ⟨base, .operator i⟩ .misplacedPlaceholder)
  | value {key op name : String} {j : Nat} (hk : clause.key.resolve data = .ok key)
      (ho : clause.operator = .literal op) (hv : clause.values[j]? = some (.placeholder name))
      (hbefore : ∀ k < j, ∀ v, clause.values[k]? = some v → ∃ s, v = .literal s) :
      ClauseFault base data clause i (.refused ⟨base, .value i j⟩ .misplacedPlaceholder)
  | requirement {key op : String} {values : List String} {refusal : Requirement.Refusal}
      (hk : clause.key.resolve data = .ok key) (ho : clause.operator = .literal op)
      (hv : clause.values = values.map .literal)
      (hb : Requirement.build key op values = .error refusal) :
      ClauseFault base data clause i (.ofRefusal ⟨base, .clause i⟩ refusal)

theorem literal_eq_ok_iff {path : Path} {v : Variant} {s : String} :
    literal path v = .ok s ↔ v = .literal s := by
  cases v <;> simp [literal]

theorem literal_eq_error_iff {path : Path} {v : Variant} :
    literal path v = .error f ↔
      (∃ name, v = .placeholder name) ∧ f = .refused path .misplacedPlaceholder := by
  cases v <;> simp [literal, eq_comm]

theorem literals_eq_ok_iff {values : List Variant} {texts : List String} :
    literals base i values.zipIdx = .ok texts ↔ values = texts.map .literal := by
  rw [literals, mapM_eq_ok_iff]
  simp only [literal_eq_ok_iff]
  rw [forall₂_zipIdx_iff (R := fun v s => v = Variant.literal s), ← List.forall₂_map_right_iff,
    List.forall₂_eq_eq_eq]

theorem literals_eq_error_iff {values : List Variant} :
    literals base i values.zipIdx = .error f ↔
      ∃ (j : Nat) (name : String), values[j]? = some (.placeholder name) ∧
        f = .refused ⟨base, .value i j⟩ .misplacedPlaceholder ∧
        ∀ k < j, ∀ v, values[k]? = some v → ∃ s, v = .literal s := by
  rw [literals, mapM_zipIdx_eq_error_iff]
  simp only [literal_eq_error_iff, literal_eq_ok_iff]
  constructor
  · intro h
    obtain ⟨j, _, hv, ⟨⟨name, rfl⟩, rfl⟩, hbefore⟩ := h
    exact ⟨j, name, hv, rfl, hbefore⟩
  · intro h
    obtain ⟨j, name, hv, rfl, hbefore⟩ := h
    exact ⟨j, _, hv, ⟨⟨name, rfl⟩, rfl⟩, hbefore⟩

theorem compileClause_eq_ok_iff {r : Requirement} :
    compileClause base data clause i = .ok r ↔
      ∃ (key op : String) (values : List String), clause.key.resolve data = .ok key ∧
        clause.operator = .literal op ∧ clause.values = values.map .literal ∧
        Requirement.build key op values = .ok r := by
  simp only [compileClause, bind_eq_ok_iff, mapError_eq_ok_iff, literal_eq_ok_iff,
    literals_eq_ok_iff]
  constructor
  · intro ⟨key, hk, op, ho, values, hv, hb⟩
    exact ⟨key, op, values, hk, ho, hv, hb⟩
  · intro ⟨key, op, values, hk, ho, hv, hb⟩
    exact ⟨key, hk, op, ho, values, hv, hb⟩

theorem compileClause_eq_error_iff :
    compileClause base data clause i = .error f ↔ ClauseFault base data clause i f := by
  simp only [compileClause, bind_eq_error_iff, mapError_eq_error_iff, mapError_eq_ok_iff,
    literal_eq_error_iff, literal_eq_ok_iff, literals_eq_error_iff, literals_eq_ok_iff]
  constructor
  · intro h
    obtain ⟨fault, hk, rfl⟩ | ⟨key, hk, ⟨⟨name, ho⟩, rfl⟩ | ⟨op, ho, h⟩⟩ := h
    · exact .key hk
    · exact .operator hk ho
    · obtain ⟨j, name, hv, rfl, hbefore⟩ | ⟨values, hv, refusal, hb, rfl⟩ := h
      · exact .value hk ho hv hbefore
      · exact .requirement hk ho hv hb
  · intro h
    cases h with
    | key hk => exact .inl ⟨_, hk, rfl⟩
    | operator hk ho => exact .inr ⟨_, hk, .inl ⟨⟨_, ho⟩, rfl⟩⟩
    | value hk ho hv hbefore =>
      exact .inr ⟨_, hk, .inr ⟨_, ho, .inl ⟨_, _, hv, rfl, hbefore⟩⟩⟩
    | requirement hk ho hv hb =>
      exact .inr ⟨_, hk, .inr ⟨_, ho, .inr ⟨_, hv, _, hb, rfl⟩⟩⟩

variable {c : Condition}

/-- The failing clause is the first that cannot be built. -/
theorem compile_eq_error_iff :
    c.compile base data = .error f ↔
      ∃ (i : Nat) (clause : Clause), c.clauses[i]? = some clause ∧
        ClauseFault base data clause i f ∧
        ∀ k < i, ∀ earlier, c.clauses[k]? = some earlier →
          ∃ r, compileClause base data earlier k = .ok r := by
  simp only [compile, compileClauses, bind_eq_error_iff, mapM_zipIdx_eq_error_iff,
    compileClause_eq_error_iff, pure, Except.pure, reduceCtorEq, and_false, exists_false, or_false]

theorem compile_eq_ok_iff {k : CompiledCondition} :
    c.compile base data = .ok k ↔ k.dependency = c.dependency ∧
      List.Forall₂ (fun p r => compileClause base data p.1 p.2 = .ok r)
        c.clauses.zipIdx k.requirements := by
  simp only [compile, compileClauses, bind_eq_ok_iff, mapM_eq_ok_iff, pure, Except.pure,
    Except.ok.injEq]
  constructor
  · intro h
    obtain ⟨rs, h, rfl⟩ := h
    exact ⟨rfl, h⟩
  · intro ⟨hd, h⟩
    exact ⟨k.requirements, h, by rw [← hd]⟩

end JobGate.Condition

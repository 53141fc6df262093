import JobGate.Condition.Validation
import Mathlib.Data.List.Flatten
import Mathlib.Data.List.Sigma
/-! The errors of a condition, place by place. `Violation` says which causes there are at a place
(`mem_errors_iff`); places are told in order, none twice (`errors_places_sublist`). -/
namespace JobGate.Condition
variable {inputs : Dictionary Input} {clause : Clause} {clauses : List Clause} {i : Nat}

/- When a field is at fault, and what kind of error it is then. -/

theorem keyCause?_eq_none_iff {key : Variant} :
    keyCause? inputs key = none ↔ ∀ name, key = .placeholder name →
      ∃ input, inputs.get? name = some input ∧ input.type.name = "string" := by
  cases key with
  | literal s => simp [keyCause?]
  | placeholder name =>
    have hkey : keyTypes = ["string"] := rfl
    cases h : inputs.get? name <;> simp [keyCause?, inputCause?, hkey, h]

theorem kind_of_keyCause? {key : Variant} {cause : Cause}
    (h : keyCause? inputs key = some cause) : cause.kind = .variantUsage := by
  cases key with
  | literal s => cases h
  | placeholder name =>
    rw [keyCause?, inputCause?] at h
    split at h
    · cases h
      rfl
    · split at h
      · cases h
      · cases h
        rfl

theorem operatorCause?_eq_none_iff {op : Variant} :
    operatorCause? op = none ↔ ∃ s, op = .literal s ∧ s ∈ Operator.names := by
  cases op <;> simp [operatorCause?]

theorem valueCause?_eq_none_iff {v : Variant} : valueCause? v = none ↔ ∃ s, v = .literal s := by
  cases v <;> simp [valueCause?]

inductive Violation (inputs : Dictionary Input) (clauses : List Clause) : Place → Cause → Prop where
  | key {i : Nat} {clause : Clause} {cause : Cause} (hi : clauses[i]? = some clause)
      (hk : keyCause? inputs clause.key = some cause) : Violation inputs clauses (.key i) cause
  | operator {i : Nat} {clause : Clause} {cause : Cause} (hi : clauses[i]? = some clause)
      (ho : operatorCause? clause.operator = some cause) :
      Violation inputs clauses (.operator i) cause
  | value {i j : Nat} {clause : Clause} {v : Variant} {cause : Cause}
      (hi : clauses[i]? = some clause) (hj : clause.values[j]? = some v)
      (hv : valueCause? v = some cause) : Violation inputs clauses (.value i j) cause

theorem mem_clauseCauses_iff {p : Place} {cause : Cause} :
    (p, cause) ∈ clauseCauses inputs clause i ↔
      (p = .key i ∧ keyCause? inputs clause.key = some cause) ∨
      (p = .operator i ∧ operatorCause? clause.operator = some cause) ∨
      ∃ j v, p = .value i j ∧ clause.values[j]? = some v ∧ valueCause? v = some cause := by
  simp only [clauseCauses, List.mem_append, Option.mem_toList, Option.map_eq_some_iff,
    List.mem_filterMap, List.mem_zipIdx_iff_getElem?, Prod.exists, Prod.mk.injEq]
  constructor
  · intro h
    obtain (⟨_, hk, rfl, rfl⟩ | ⟨_, ho, rfl, rfl⟩) | ⟨v, j, hj, _, hv, rfl, rfl⟩ := h
    · exact .inl ⟨rfl, hk⟩
    · exact .inr (.inl ⟨rfl, ho⟩)
    · exact .inr (.inr ⟨j, v, rfl, hj, hv⟩)
  · intro h
    obtain ⟨rfl, hk⟩ | ⟨rfl, ho⟩ | ⟨j, v, rfl, hj, hv⟩ := h
    · exact .inl (.inl ⟨_, hk, rfl, rfl⟩)
    · exact .inl (.inr ⟨_, ho, rfl, rfl⟩)
    · exact .inr ⟨v, j, hj, _, hv, rfl, rfl⟩

theorem mem_clauseErrors_iff {base : String} {e : Error} :
    e ∈ clauseErrors base inputs clauses ↔
      e.path.base = base ∧ Violation inputs clauses e.path.place e.cause := by
  obtain ⟨⟨b, p⟩, cause⟩ := e
  simp only [clauseErrors, List.mem_flatMap, List.mem_map, List.mem_zipIdx_iff_getElem?,
    Prod.exists, Error.mk.injEq, Path.mk.injEq]
  constructor
  · intro h
    obtain ⟨clause, i, hi, p, cause, h, ⟨rfl, rfl⟩, rfl⟩ := h
    refine ⟨rfl, ?_⟩
    obtain ⟨rfl, hk⟩ | ⟨rfl, ho⟩ | ⟨j, v, rfl, hj, hv⟩ := mem_clauseCauses_iff.1 h
    · exact .key hi hk
    · exact .operator hi ho
    · exact .value hi hj hv
  · intro ⟨hb, h⟩
    subst hb
    cases h with
    | key hi hk =>
      exact ⟨_, _, hi, _, _, mem_clauseCauses_iff.2 (.inl ⟨rfl, hk⟩), ⟨rfl, rfl⟩, rfl⟩
    | operator hi ho =>
      exact ⟨_, _, hi, _, _, mem_clauseCauses_iff.2 (.inr (.inl ⟨rfl, ho⟩)), ⟨rfl, rfl⟩, rfl⟩
    | value hi hj hv =>
      exact ⟨_, _, hi, _, _, mem_clauseCauses_iff.2 (.inr (.inr ⟨_, _, rfl, hj, hv⟩)),
        ⟨rfl, rfl⟩, rfl⟩

variable {job : String} {c : Condition} {w : Workflow}

theorem mem_errors_iff {e : Error} :
    e ∈ errors job (some c) inputs w ↔ e.path.base = baseOf job ∧
      (Violation inputs c.clauses e.path.place e.cause ∨
        e.path.place = .whole ∧ dependencyCause? w job c.dependency = some e.cause) := by
  obtain ⟨⟨b, p⟩, cause⟩ := e
  simp only [errors, dependencyError?, List.mem_append, mem_clauseErrors_iff, Option.mem_toList,
    Option.map_eq_some_iff, Error.mk.injEq, Path.mk.injEq]
  constructor
  · intro h
    obtain ⟨hb, hv⟩ | ⟨_, hd, ⟨rfl, rfl⟩, rfl⟩ := h
    · exact ⟨hb, .inl hv⟩
    · exact ⟨rfl, .inr ⟨rfl, hd⟩⟩
  · intro h
    obtain ⟨rfl, hv | ⟨rfl, hd⟩⟩ := h
    · exact .inl ⟨rfl, hv⟩
    · exact .inr ⟨_, hd, ⟨rfl, rfl⟩, rfl⟩

theorem base_of_mem_errors {condition : Option Condition} {e : Error}
    (he : e ∈ errors job condition inputs w) : e.path.base = baseOf job := by
  cases condition with
  | none => cases he
  | some c => exact (mem_errors_iff.1 he).1

/- The places at which there can be an error, in order. -/

def clausePlaces (clause : Clause) (i : Nat) : List Place :=
  .key i :: .operator i :: clause.values.zipIdx.map (fun p => .value i p.2)

def places (clauses : List Clause) : List Place :=
  clauses.zipIdx.flatMap (fun p => clausePlaces p.1 p.2) ++ [.whole]

theorem map_fst_toList_sublist {α β : Type} (a : α) (o : Option β) :
    ((o.map (a, ·)).toList.map Prod.fst).Sublist [a] := by
  cases o <;> simp

theorem clauseCauses_places_sublist :
    ((clauseCauses inputs clause i).map Prod.fst).Sublist (clausePlaces clause i) := by
  have hvalues : ((clause.values.zipIdx.filterMap
      (fun p => (valueCause? p.1).map (Place.value i p.2, ·))).map Prod.fst).Sublist
      (clause.values.zipIdx.map (fun p => Place.value i p.2)) := by
    generalize clause.values.zipIdx = l
    induction l with
    | nil => simp
    | cons p l ih =>
      cases h : valueCause? p.1 with
      | none => simpa [List.filterMap_cons, h] using ih.cons _
      | some cause => simpa [List.filterMap_cons, h] using ih
  rw [clauseCauses, List.map_append, List.map_append]
  exact ((map_fst_toList_sublist _ _).append (map_fst_toList_sublist _ _)).append hvalues

theorem errors_places_sublist :
    ((errors job (some c) inputs w).map (fun e => e.path.place)).Sublist (places c.clauses) := by
  have hclauses : ((clauseErrors (baseOf job) inputs c.clauses).map
      (fun e => e.path.place)).Sublist
      (c.clauses.zipIdx.flatMap (fun p => clausePlaces p.1 p.2)) := by
    rw [clauseErrors, List.map_flatMap]
    apply List.Sublist.flatMap_right
    intro p hp
    rw [List.map_map]
    exact clauseCauses_places_sublist
  rw [errors, List.map_append, places]
  refine hclauses.append ?_
  cases h : dependencyCause? w job c.dependency <;> simp [dependencyError?, h]

def Place.index? : Place → Option Nat
  | .whole => none
  | .clause i | .key i | .operator i | .value i _ => some i

theorem index?_of_mem_clausePlaces {p : Place} (hp : p ∈ clausePlaces clause i) :
    p.index? = some i := by
  simp only [clausePlaces, List.mem_cons, List.mem_map] at hp
  obtain rfl | rfl | ⟨_, -, rfl⟩ := hp <;> rfl

theorem nodup_clausePlaces : (clausePlaces clause i).Nodup := by
  have hvalues : (clause.values.zipIdx.map (fun p => Place.value i p.2)).Nodup := by
    have h := (List.nodup_zipIdx_map_snd clause.values).map (f := Place.value i)
      (by intro a b hab; exact (Place.value.inj hab).2)
    rwa [List.map_map] at h
  simp [clausePlaces, hvalues]

theorem nodup_places : (places clauses).Nodup := by
  have hclauses : (clauses.zipIdx.flatMap (fun p => clausePlaces p.1 p.2)).Nodup := by
    rw [List.nodup_flatMap]
    refine ⟨fun p _ => nodup_clausePlaces, ?_⟩
    refine (List.pairwise_map.1 (List.nodup_zipIdx_map_snd clauses)).imp ?_
    intro p q hpq x hp hq
    have hx := (index?_of_mem_clausePlaces hp).symm.trans (index?_of_mem_clausePlaces hq)
    exact hpq (Option.some.inj hx)
  rw [places, List.nodup_append]
  refine ⟨hclauses, List.nodup_singleton _, ?_⟩
  intro p hp q hq
  obtain ⟨_, -, hp⟩ := List.mem_flatMap.1 hp
  have hp := index?_of_mem_clausePlaces hp
  rw [List.mem_singleton.1 hq]
  intro h
  rw [h] at hp
  exact absurd hp (by simp [Place.index?])

theorem nodup_errors_places :
    ((errors job (some c) inputs w).map (fun e => e.path.place)).Nodup :=
  errors_places_sublist.nodup nodup_places

end JobGate.Condition

import JobGate.Proofs.Label.Grammar
import JobGate.Requirement.Basic
/-! What a requirement that was built is like: nothing is wrong with its key, operator and values
(`build_eq_ok_iff`), and all that its selector and its evaluation need is `WellFormed`. -/
namespace JobGate

def Operator.Admits (op : Operator) (count : Nat) : Prop :=
  match op with
  | .oneOf | .noneOf => count ≠ 0
  | .present | .absent => count = 0
  | .greater | .less => count = 1

def Operator.IsOrder (op : Operator) : Prop := op = .greater ∨ op = .less

theorem Operator.name_injective : Function.Injective Operator.name := by
  intro op op' h
  have hsome := Operator.ofName?_name op
  rw [h, Operator.ofName?_name, Option.some.injEq] at hsome
  exact hsome.symm

theorem Operator.isOrder_iff_name {op : Operator} :
    op.IsOrder ↔ op.name = "Gt" ∨ op.name = "Lt" := by
  rw [IsOrder, ← Operator.name_injective.eq_iff, ← Operator.name_injective.eq_iff (b := .less)]
  rfl

namespace Requirement
variable {key : String} {op : Operator} {values : List String}

theorem keyProblems_eq_nil_iff : keyProblems key = [] ↔ Label.IsKey key.toList := by
  rw [keyProblems, List.map_eq_nil_iff, Label.keyFaults_eq_nil_iff]

theorem valueProblem?_eq_none_iff {value : String} :
    valueProblem? value = none ↔ Label.IsValue value.toList := by
  rw [valueProblem?, Option.map_eq_none_iff, Label.valueFault?_eq_none_iff]

theorem valueProblems_eq_nil_iff :
    valueProblems values = [] ↔ ∀ v ∈ values, Label.IsValue v.toList := by
  simp only [valueProblems, List.filterMap_eq_nil_iff, valueProblem?_eq_none_iff]

theorem arityProblem?_eq_none_iff :
    arityProblem? op values = none ↔ op.Admits values.length := by
  cases op with
  | oneOf | noneOf => simp [arityProblem?, Operator.Admits]
  | present | absent => simp [arityProblem?, Operator.Admits]
  | greater | less => simp [arityProblem?, Operator.Admits]

def IsInteger (value : String) : Prop := ∃ n, Numeral.readStrict value = .ok (some n)

theorem notIntegers_eq_nil_iff : notIntegers op values = .ok [] ↔ ∀ v ∈ values, IsInteger v := by
  induction values with
  | nil => simp [notIntegers]
  | cons value rest ih =>
    rw [List.forall_mem_cons, ← ih, notIntegers, IsInteger]
    cases Numeral.readStrict value with
    | error f => simp [bind, Except.bind]
    | ok read =>
      cases notIntegers op rest with
      | error f => simp [bind, Except.bind]
      | ok ps =>
        cases read with
        | none => simp [bind, Except.bind, pure, Except.pure]
        | some n => simp [bind, Except.bind, pure, Except.pure]

theorem integerProblems_eq_nil_iff :
    integerProblems op values = .ok [] ↔ (op.IsOrder → ∀ v ∈ values, IsInteger v) := by
  cases op with
  | oneOf | noneOf | present | absent => simp [integerProblems, Operator.IsOrder]
  | greater | less => simp [integerProblems, Operator.IsOrder, notIntegers_eq_nil_iff]

/-- Nothing is wrong with a clause that has this key, operator and values. -/
structure Accepted (key : String) (op : Operator) (values : List String) : Prop where
  key : Label.IsKey key.toList
  arity : op.Admits values.length
  integers : op.IsOrder → ∀ v ∈ values, IsInteger v
  values : ∀ v ∈ values, Label.IsValue v.toList

theorem problems_eq_nil_iff : problems key op values = .ok [] ↔ Accepted key op values := by
  have hparts : problems key op values = .ok [] ↔ integerProblems op values = .ok [] ∧
      keyProblems key = [] ∧ arityProblem? op values = none ∧ valueProblems values = [] := by
    rw [problems]
    cases integerProblems op values with
    | error f => simp [Except.map]
    | ok ps =>
      simp only [Except.map, Except.ok.injEq, List.append_eq_nil_iff, Option.toList_eq_nil_iff]
      tauto
  rw [hparts, integerProblems_eq_nil_iff, keyProblems_eq_nil_iff, arityProblem?_eq_none_iff,
    valueProblems_eq_nil_iff]
  constructor
  · intro ⟨hi, hk, ha, hv⟩
    exact ⟨hk, ha, hi, hv⟩
  · intro h
    exact ⟨h.integers, h.key, h.arity, h.values⟩

theorem build_eq_ok_iff {operator : String} {r : Requirement} :
    build key operator values = .ok r ↔ ∃ op, Operator.ofName? operator = some op ∧
      Accepted key op values ∧ r = ⟨key, op, values.mergeSort⟩ := by
  rw [build]
  cases hop : Operator.ofName? operator with
  | none => simp
  | some op =>
    simp only [Option.some.injEq, exists_eq_left', ← problems_eq_nil_iff]
    cases problems key op values with
    | error f => simp
    | ok ps =>
      cases ps with
      | nil => simp [eq_comm]
      | cons p ps => simp

theorem build_of_accepted (h : Accepted key op values) :
    build key op.name values = .ok ⟨key, op, values.mergeSort⟩ :=
  build_eq_ok_iff.2 ⟨op, Operator.ofName?_name op, h, rfl⟩

theorem Accepted.withOperator {op' : Operator} (h : Accepted key op values)
    (ha : op'.Admits values.length) (ho : op'.IsOrder → op.IsOrder) : Accepted key op' values :=
  ⟨h.key, ha, fun hop => h.integers (ho hop), h.values⟩

/-- What holds of every requirement that was built. -/
structure WellFormed (r : Requirement) : Prop where
  accepted : Accepted r.key r.operator r.values
  sorted : r.values.Pairwise (· ≤ ·)

theorem Accepted.perm {values' : List String} (h : Accepted key op values)
    (hp : values.Perm values') : Accepted key op values' := by
  refine ⟨h.key, ?_, ?_, ?_⟩
  · rw [← hp.length_eq]
    exact h.arity
  · intro ho v hv
    exact h.integers ho v (hp.mem_iff.2 hv)
  · intro v hv
    exact h.values v (hp.mem_iff.2 hv)

theorem Accepted.mergeSort (h : Accepted key op values) : Accepted key op values.mergeSort :=
  h.perm (List.mergeSort_perm values _).symm

theorem Accepted.exists_bound (h : Accepted key op values) (ho : op.IsOrder) :
    ∃ bound n, values = [bound] ∧ Numeral.readStrict bound = .ok (some n) := by
  have harity := h.arity
  have hone : values.length = 1 := by
    obtain rfl | rfl := ho
    · exact harity
    · exact harity
  obtain ⟨bound, rfl⟩ := List.length_eq_one_iff.1 hone
  obtain ⟨n, hn⟩ := h.integers ho bound (List.mem_singleton_self bound)
  exact ⟨bound, n, rfl, hn⟩

theorem sorted_mergeSort (values : List String) : values.mergeSort.Pairwise (· ≤ ·) := by
  have htrans : ∀ a b c : String, decide (a ≤ b) → decide (b ≤ c) → decide (a ≤ c) := by
    intro a b c hab hbc
    simp only [decide_eq_true_eq] at hab hbc ⊢
    exact String.le_trans hab hbc
  have htotal : ∀ a b : String, decide (a ≤ b) || decide (b ≤ a) := by
    intro a b
    simpa using String.le_total a b
  simpa using List.pairwise_mergeSort htrans htotal values

theorem mergeSort_eq_of_perm {values' : List String} (hp : values.Perm values')
    (hs : values'.Pairwise (· ≤ ·)) : values.mergeSort = values' := by
  have hperm : values.mergeSort.Perm values' := (List.mergeSort_perm values _).trans hp
  exact hperm.eq_of_pairwise (fun a b _ _ => String.le_antisymm) (sorted_mergeSort values) hs

theorem Accepted.wellFormed (h : Accepted key op values) :
    WellFormed ⟨key, op, values.mergeSort⟩ :=
  ⟨h.mergeSort, sorted_mergeSort values⟩

theorem wellFormed_of_build {operator : String} {r : Requirement}
    (h : build key operator values = .ok r) : r.WellFormed := by
  obtain ⟨op, -, ha, rfl⟩ := build_eq_ok_iff.1 h
  exact ha.wellFormed

theorem known_of_build {operator : String} {r : Requirement}
    (h : build key operator values = .ok r) : operator ∈ Operator.names := by
  by_contra hn
  obtain ⟨op, hop, -, -⟩ := build_eq_ok_iff.1 h
  rw [Operator.ofName?_eq_none_iff.2 hn] at hop
  cases hop

end Requirement
end JobGate

import JobGate.Proofs.Condition.PathText
import JobGate.Proofs.Condition.Violation
import JobGate.Proofs.Traversal
/-! What is told about a condition. `clauseReports` lists the errors that a clause deserves without
the functions that find them; just these are told (`errors_are_the_reports`). -/
namespace JobGate.Condition

/-- A placeholder for a key has to name an input that is declared as a string. -/
def IsMisusedKey (inputs : Dictionary Input) (key : Variant) : Prop :=
  ∃ name, key = .placeholder name ∧
    ∀ input, inputs.get? name = some input → input.type.name ≠ "string"

instance (inputs : Dictionary Input) (key : Variant) : Decidable (IsMisusedKey inputs key) :=
  match key with
  | .literal _ => .isFalse (by intro ⟨_, h, _⟩; cases h)
  | .placeholder name =>
    decidable_of_iff (∀ input ∈ inputs.get? name, input.type.name ≠ "string")
      (by simp [IsMisusedKey])

def IsKnownOperator (s : String) : Prop :=
  s ∈ ["In", "NotIn", "Exists", "DoesNotExist", "Gt", "Lt"]

instance (s : String) : Decidable (IsKnownOperator s) := inferInstanceAs (Decidable (_ ∈ _))

def clauseReports (job : String) (inputs : Dictionary Input) (clause : Clause) (i : Nat) :
    List (String × Kind) :=
  let place := s!"workflow.{job}.condition.resultmatch[{i}]"
  (if IsMisusedKey inputs clause.key then [(place ++ ".key", .variantUsage)] else []) ++
    (match clause.operator with
      | .placeholder _ => [(place ++ ".operator", .variantUsage)]
      | .literal s => if IsKnownOperator s then [] else [(place ++ ".operator", .operator)]) ++
    (clause.values.zipIdx.filter (fun p => p.1.isPlaceholder)).map
      (fun p => (place ++ s!".value[{p.2}]", .variantUsage))

theorem text_append (job : String) (i : Nat) (tail : String) :
    baseOf job ++ (clauseText i ++ tail) =
      s!"workflow.{job}.condition.resultmatch[{i}]" ++ tail := by
  have hbase : baseOf job = "workflow." ++ job ++ ".condition" := rfl
  have hclause : clauseText i = ".resultmatch[" ++ toString i ++ "]" := rfl
  have hplace : s!"workflow.{job}.condition.resultmatch[{i}]" =
      "workflow." ++ job ++ (".condition" ++ ".resultmatch[") ++ toString i ++ "]" := rfl
  rw [hbase, hclause, hplace]
  simp only [String.append_assoc]

theorem isMisusedKey_iff {inputs : Dictionary Input} {key : Variant} :
    IsMisusedKey inputs key ↔ keyCause? inputs key ≠ none := by
  rw [Ne, keyCause?_eq_none_iff]
  simp only [IsMisusedKey, not_forall, not_exists, not_and, exists_prop]

theorem kind_keyCause? (inputs : Dictionary Input) (key : Variant) :
    (keyCause? inputs key).map Cause.kind =
      if IsMisusedKey inputs key then some .variantUsage else none := by
  cases h : keyCause? inputs key with
  | none => simp [isMisusedKey_iff, h]
  | some cause => simp [isMisusedKey_iff, h, kind_of_keyCause? h]

theorem kind_operatorCause? (op : Variant) :
    (operatorCause? op).map Cause.kind =
      match op with
      | .placeholder _ => some .variantUsage
      | .literal s => if IsKnownOperator s then none else some .operator := by
  cases op with
  | placeholder name => rfl
  | literal s =>
    have hs : s ∈ Operator.names ↔ IsKnownOperator s := Iff.rfl
    by_cases h : IsKnownOperator s
    · simp [operatorCause?, hs, h]
    · simp [operatorCause?, hs, h, Cause.kind]

def placeReport (job : String) (e : Place × Cause) : String × Kind :=
  ((Path.mk (baseOf job) e.1).text, e.2.kind)

theorem map_placeReport_toList (job : String) (p : Place) (o : Option Cause) :
    (o.map (p, ·)).toList.map (placeReport job) =
      ((o.map Cause.kind).map ((Path.mk (baseOf job) p).text, ·)).toList := by
  cases o <;> rfl

theorem valueReports (job : String) (i : Nat) (values : List (Variant × Nat)) :
    (values.filterMap (fun p => (valueCause? p.1).map (Place.value i p.2, ·))).map
        (placeReport job) =
      (values.filter (fun p => p.1.isPlaceholder)).map (fun p =>
        (s!"workflow.{job}.condition.resultmatch[{i}]" ++ s!".value[{p.2}]", .variantUsage)) := by
  induction values with
  | nil => rfl
  | cons p values ih =>
    obtain ⟨v, j⟩ := p
    cases v with
    | literal s => simpa [valueCause?, Variant.isPlaceholder] using ih
    | placeholder name =>
      have ht := text_append job i s!".value[{j}]"
      have hj : placeReport job (.value i j, .misplacedPlaceholder) =
          (s!"workflow.{job}.condition.resultmatch[{i}]" ++ s!".value[{j}]", .variantUsage) := by
        rw [← ht]
        rfl
      simpa [valueCause?, Variant.isPlaceholder, hj] using ih

theorem clauseCauses_reports (job : String) (inputs : Dictionary Input) (clause : Clause)
    (i : Nat) :
    (clauseCauses inputs clause i).map (placeReport job) = clauseReports job inputs clause i := by
  have hkey : (Path.mk (baseOf job) (.key i)).text =
      s!"workflow.{job}.condition.resultmatch[{i}]" ++ ".key" := text_append job i ".key"
  have hop : (Path.mk (baseOf job) (.operator i)).text =
      s!"workflow.{job}.condition.resultmatch[{i}]" ++ ".operator" := text_append job i ".operator"
  rw [clauseCauses, List.map_append, List.map_append, map_placeReport_toList,
    map_placeReport_toList, kind_keyCause?, kind_operatorCause?, valueReports, clauseReports,
    hkey, hop]
  congr 2
  · by_cases h : IsMisusedKey inputs clause.key <;> simp [h]
  · cases clause.operator with
    | placeholder name => rfl
    | literal s => by_cases h : IsKnownOperator s <;> simp [h]

variable {job : String} {c : Condition} {inputs : Dictionary Input} {w : Workflow}

theorem clauseErrors_reports (job : String) (inputs : Dictionary Input) (clauses : List Clause) :
    (clauseErrors (baseOf job) inputs clauses).map (fun e => (e.path.text, e.cause.kind)) =
      clauses.zipIdx.flatMap (fun p => clauseReports job inputs p.1 p.2) := by
  rw [clauseErrors, List.map_flatMap]
  congr 1
  funext p
  rw [← clauseCauses_reports, List.map_map]
  rfl

theorem job_and_place_of_text_eq {job' : String} {condition condition' : Option Condition}
    {e e' : Error} (he : e ∈ errors job condition inputs w)
    (he' : e' ∈ errors job' condition' inputs w) (ht : e.path.text = e'.path.text) :
    job = job' ∧ e.path.place = e'.path.place := by
  have hbase := base_of_mem_errors he
  have hbase' := base_of_mem_errors he'
  obtain ⟨⟨_, p⟩, _⟩ := e
  obtain ⟨⟨_, p'⟩, _⟩ := e'
  subst hbase hbase'
  exact text_inj ht

theorem nodup_errors_texts {condition : Option Condition} :
    ((errors job condition inputs w).map (fun e => e.path.text)).Nodup := by
  have hplaces : ((errors job condition inputs w).map (fun e => e.path.place)).Nodup := by
    cases condition with
    | none => simp [errors]
    | some c => exact nodup_errors_places
  rw [List.Nodup, List.pairwise_map] at hplaces ⊢
  refine hplaces.imp_of_mem ?_
  intro e e' he he' hne ht
  exact hne (job_and_place_of_text_eq he he' ht).2

/-- A clause without an error: its key may be used, and its operator and its values are literals. -/
def IsClean (inputs : Dictionary Input) (clause : Clause) : Prop :=
  ¬ IsMisusedKey inputs clause.key ∧ (∃ s, clause.operator = .literal s ∧ IsKnownOperator s) ∧
    ∀ v ∈ clause.values, ∃ s, v = .literal s

theorem isClean_iff {clause : Clause} {i : Nat} :
    IsClean inputs clause ↔ clauseCauses inputs clause i = [] := by
  have hkey : ¬ IsMisusedKey inputs clause.key ↔ keyCause? inputs clause.key = none := by
    rw [isMisusedKey_iff, not_not]
  have hop : (∃ s, clause.operator = .literal s ∧ IsKnownOperator s) ↔
      operatorCause? clause.operator = none := operatorCause?_eq_none_iff.symm
  have hvalues : (∀ v ∈ clause.values, ∃ s, v = .literal s) ↔
      ∀ p ∈ clause.values.zipIdx, valueCause? p.1 = none := by
    rw [Traversal.forall_mem_zipIdx (P := fun v => valueCause? v = none)]
    simp only [valueCause?_eq_none_iff]
  rw [IsClean, hkey, hop, hvalues]
  simp [clauseCauses, List.filterMap_eq_nil_iff]

theorem errors_eq_nil_iff :
    errors job (some c) inputs w = [] ↔
      (∀ clause ∈ c.clauses, IsClean inputs clause) ∧
        dependencyError? (baseOf job) job c.dependency w = none := by
  have hclauses : clauseErrors (baseOf job) inputs c.clauses = [] ↔
      ∀ clause ∈ c.clauses, IsClean inputs clause := by
    simp only [clauseErrors, List.flatMap_eq_nil_iff, List.map_eq_nil_iff, ← isClean_iff]
    exact Traversal.forall_mem_zipIdx
  rw [errors, List.append_eq_nil_iff, hclauses, Option.toList_eq_nil_iff]

/-- The errors of a condition are those that its clauses deserve, in their order, and then the one
of its dependency; none is told twice, and there are none if nothing is at fault. -/
theorem errors_are_the_reports (job : String) (c : Condition) (inputs : Dictionary Input)
    (w : Workflow) :
    (∃ es, errors job (some c) inputs w =
        es ++ (dependencyError? (baseOf job) job c.dependency w).toList ∧
      es.map (fun e => (e.path.text, e.cause.kind)) =
        c.clauses.zipIdx.flatMap (fun p => clauseReports job inputs p.1 p.2)) ∧
    (∀ e, dependencyError? (baseOf job) job c.dependency w = some e →
      e.path.text = s!"workflow.{job}.condition") ∧
    ((errors job (some c) inputs w).map (fun e => e.path.text)).Nodup ∧
    (errors job (some c) inputs w = [] ↔
      (∀ clause ∈ c.clauses, IsClean inputs clause) ∧
        dependencyError? (baseOf job) job c.dependency w = none) := by
  refine ⟨⟨clauseErrors (baseOf job) inputs c.clauses, rfl, clauseErrors_reports ..⟩, ?_,
    nodup_errors_texts, errors_eq_nil_iff⟩
  intro e he
  obtain ⟨_, -, rfl⟩ := Option.map_eq_some_iff.1 he
  exact String.append_empty

end JobGate.Condition

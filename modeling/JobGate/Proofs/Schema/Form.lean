import JobGate.Proofs.Schema.Valid
import JobGate.Proofs.Value.Writable
/-! The form of a workflow file, said of the values themselves. Main statement: a file of short
integers has no violations exactly if it is of the form (`violations_eq_nil_iff_workflowForm`),
with one lemma for each way to put readings together. -/
namespace JobGate

namespace Schema

/- Forms of values and of fields. -/

def IsText (v : Value) : Prop := ∃ s, v = .text s

def IsOneOf (choices : List String) (v : Value) : Prop := ∃ s ∈ choices, v = .text s

def IsNullOr (P : Value → Prop) (v : Value) : Prop := v = .null ∨ P v

def IsListOf (P : Value → Prop) (v : Value) : Prop :=
  ∃ items, v.unfold = .list items ∧ ∀ item ∈ items, P item

/-- All keys are texts. -/
def IsMapOf (P : Value → Prop) (v : Value) : Prop :=
  ∃ entries, v.unfold = .map entries ∧ ∀ e ∈ entries, (∃ s, e.1 = .text s) ∧ P e.2

def IsRecordOf (P : Fields → Prop) (v : Value) : Prop :=
  ∃ fields, v.unfold = .map fields ∧ P fields

def Has (name : String) (P : Value → Prop) (fields : Fields) : Prop :=
  ∃ v, Value.field? name fields = some v ∧ P v

def MayHave (name : String) (P : Value → Prop) (fields : Fields) : Prop :=
  ∀ v, Value.field? name fields = some v → P v

structure InputForm (fields : Fields) : Prop where
  type : MayHave "type" (IsOneOf ["string", "number", "bool", "array"]) fields
  description : MayHave "description" IsText fields

/-- The values of a clause may be anything. -/
structure ClauseForm (fields : Fields) : Prop where
  key : Has "key" IsText fields
  operator : MayHave "operator" (IsNullOr IsText) fields

structure ConditionForm (fields : Fields) : Prop where
  dependency : Has "depend_job" IsText fields
  clauses : MayHave "result_match" (IsListOf (IsRecordOf ClauseForm)) fields

structure IterationForm (fields : Fields) : Prop where
  command : MayHave "command" IsText fields
  rows : MayHave "vars" (IsListOf (IsListOf fun _ => True)) fields
  nestedRows : MayHave "vars_iter" (IsListOf (IsListOf fun _ => True)) fields

structure DependencyForm (fields : Fields) : Prop where
  target : Has "target" IsText fields
  extent : MayHave "type" (IsOneOf ["whole", "iterate"]) fields

structure JobForm (fields : Fields) : Prop where
  image : MayHave "image" (IsNullOr IsText) fields
  commands : MayHave "commands" (IsListOf IsText) fields
  iteration : MayHave "commands_iter" (IsNullOr (IsRecordOf IterationForm)) fields
  dependencies : MayHave "depends" (IsListOf fun v => IsText v ∨ IsRecordOf DependencyForm v) fields
  condition : MayHave "condition" (IsNullOr (IsRecordOf ConditionForm)) fields

structure WorkflowForm (fields : Fields) : Prop where
  version : MayHave "version" IsText fields
  inputs : MayHave "inputs" (IsMapOf (IsRecordOf InputForm)) fields
  jobs : Has "jobs" (fun v => IsMapOf (IsRecordOf JobForm) v ∧ v.unfold ≠ .map []) fields

/- What is within a value of short integers is one. -/

def ShortFields (fields : Fields) : Prop := ∀ f ∈ fields, f.2.HasShortIntegers

theorem ShortFields.of_unfold {v : Value} {fields : Fields} (h : v.HasShortIntegers)
    (hv : v.unfold = .map fields) : ShortFields fields := by
  intro f hf
  have hmap := h.unfold
  rw [hv] at hmap
  exact hmap.entry hf

theorem ShortFields.field? {fields : Fields} {name : String} {v : Value} (h : ShortFields fields)
    (hv : Value.field? name fields = some v) : v.HasShortIntegers := by
  obtain ⟨before, after, hfields, -⟩ := List.lookup_eq_some_iff.1 hv
  have hmem : (.text name, v) ∈ fields.reverse := by
    rw [hfields]
    exact List.mem_append_right _ List.mem_cons_self
  exact h _ (List.mem_reverse.1 hmem)

theorem shortItems_of_unfold {v : Value} {items : List Value} (h : v.HasShortIntegers)
    (hv : v.unfold = .list items) : ∀ item ∈ items, item.HasShortIntegers := by
  intro item hitem
  have hlist := h.unfold
  rw [hv] at hlist
  exact hlist.item hitem

/- Forms of parts that agree. -/

section
variable {P Q : Value → Prop} {v : Value} {fields : Fields} {name : String}

theorem mayHave_congr (h : ∀ v, Value.field? name fields = some v → (P v ↔ Q v)) :
    MayHave name P fields ↔ MayHave name Q fields :=
  forall₂_congr h

theorem isNullOr_congr (h : P v ↔ Q v) : IsNullOr P v ↔ IsNullOr Q v :=
  or_congr_right h

theorem isListOf_congr (h : ∀ items, v.unfold = .list items → ∀ item ∈ items, (P item ↔ Q item)) :
    IsListOf P v ↔ IsListOf Q v :=
  exists_congr fun items => and_congr_right fun hv => forall₂_congr (h items hv)

theorem isRecordOf_congr {P Q : Fields → Prop}
    (h : ∀ fields, v.unfold = .map fields → (P fields ↔ Q fields)) :
    IsRecordOf P v ↔ IsRecordOf Q v :=
  exists_congr fun fields => and_congr_right (h fields)

end

/- Readings without violations. -/

section
variable {read : Value → Checked α} {v : Value} {fields : Fields} {name : String}

theorem violations_eq_nil_iff_valid {c : Checked α} : c.violations = [] ↔ ∃ a, c = .valid a := by
  cases c <;> simp [Checked.violations]

theorem violations_fail {cause : Cause} :
    (Checked.fail cause : Checked α).violations = [⟨[], cause⟩] := rfl

theorem violations_readText_eq_nil_iff : (readText v).violations = [] ↔ IsText v := by
  unfold readText IsText
  split
  · simp [Checked.violations]
  · next h => simpa [violations_fail] using h

theorem violations_readChoice_eq_nil_iff {ofName? : String → Option α} {choices : List String}
    (hof : ∀ s, (ofName? s).isSome ↔ s ∈ choices) :
    (readChoice ofName? choices v).violations = [] ↔ IsOneOf choices v := by
  unfold readChoice IsOneOf
  split
  · next s =>
    rw [show (∃ t ∈ choices, Value.text s = .text t) ↔ s ∈ choices by simp, ← hof]
    cases ofName? s with
    | none => simp [violations_fail]
    | some a => simp [Checked.violations]
  · next h =>
    simp only [violations_fail, reduceCtorEq, false_iff]
    rintro ⟨s, -, hs⟩
    exact h s hs

theorem violations_readNullable_eq_nil_iff :
    (readNullable read v).violations = [] ↔ IsNullOr (fun v => (read v).violations = []) v := by
  unfold readNullable IsNullOr
  split
  · simp [Checked.violations]
  · next h => simp [show v ≠ .null from h]

theorem violations_readItems_eq_nil_iff {i : Nat} {items : List Value} :
    (readItems read i items).violations = [] ↔ ∀ item ∈ items, (read item).violations = [] := by
  induction items generalizing i with
  | nil => simp [readItems, Checked.violations]
  | cons item items ih => simp [readItems, ih]

theorem violations_readList_eq_nil_iff :
    (readList read v).violations = [] ↔ IsListOf (fun v => (read v).violations = []) v := by
  unfold readList IsListOf
  split
  · next items hv => simp [hv, violations_readItems_eq_nil_iff]
  · next h =>
    simp only [violations_fail, reduceCtorEq, false_iff]
    rintro ⟨items, hv, -⟩
    exact h items hv

theorem violations_readRecord_eq_nil_iff {r : Record} {read : Fields → Checked α} :
    (readRecord r read v).violations = [] ↔ IsRecordOf (fun fs => (read fs).violations = []) v := by
  unfold readRecord IsRecordOf
  split
  · next fields hv => simp [hv]
  · next h =>
    simp only [violations_fail, reduceCtorEq, false_iff]
    rintro ⟨fields, hv, -⟩
    exact h fields hv

theorem violations_readKey_eq_nil_iff {k : Scalar} :
    (readKey k).violations = [] ↔ ∃ s, k = .text s := by
  rw [violations_eq_nil_iff_valid]
  simp only [readKey_eq_valid_iff]

theorem violations_readEntries_eq_nil_iff {read : String → Value → Checked α} {P : Value → Prop}
    {entries : List (Scalar × Value)}
    (h : ∀ e ∈ entries, ∀ name, (read name e.2).violations = [] ↔ P e.2) :
    (readEntries read entries).violations = [] ↔
      ∀ e ∈ entries, (∃ s, e.1 = .text s) ∧ P e.2 := by
  induction entries with
  | nil => simp [readEntries, Checked.violations]
  | cons e entries ih =>
    obtain ⟨he, hrest⟩ := List.forall_mem_cons.1 h
    simp [readEntries, ih hrest, he, violations_readKey_eq_nil_iff, and_assoc]

theorem violations_readMap_eq_nil_iff {read : String → Value → Checked α} {P : Value → Prop}
    (h : ∀ entries, v.unfold = .map entries →
      ∀ e ∈ entries, ∀ name, (read name e.2).violations = [] ↔ P e.2) :
    (readMap read v).violations = [] ↔ IsMapOf P v := by
  unfold readMap IsMapOf
  split
  · next entries hv => simp [hv, violations_readEntries_eq_nil_iff (h entries hv)]
  · next hno =>
    simp only [violations_fail, reduceCtorEq, false_iff]
    rintro ⟨entries, hv, -⟩
    exact hno entries hv

theorem violations_required_eq_nil_iff :
    (fields.required name read).violations = [] ↔
      Has name (fun v => (read v).violations = []) fields := by
  unfold Fields.required Has
  split
  · next v hv => simp [hv]
  · next hv => simp [hv, violations_fail]

theorem violations_optional_eq_nil_iff {default : α} :
    (fields.optional name default read).violations = [] ↔
      MayHave name (fun v => (read v).violations = []) fields := by
  unfold Fields.optional MayHave
  split
  · next v hv => simp [hv]
  · next hv => simp [hv, Checked.violations]

end

/- The parts of a workflow file. -/

theorem ofName?_isSome_iff (s : String) :
    (InputType.ofName? s).isSome ↔ s ∈ InputType.declared.map InputType.name := by
  simp only [InputType.ofName?, List.find?_isSome, List.mem_map, decide_eq_true_eq]

section
variable {v : Value} {name : String}

theorem violations_readInput_eq_nil_iff :
    (readInput name v).violations = [] ↔ IsRecordOf InputForm v := by
  rw [readInput, violations_readRecord_eq_nil_iff]
  apply isRecordOf_congr
  intro fields _
  simp only [Checked.violations_and, List.append_eq_nil_iff, violations_optional_eq_nil_iff,
    violations_readText_eq_nil_iff, violations_readChoice_eq_nil_iff ofName?_isSome_iff]
  constructor
  · intro ⟨⟨htype, _⟩, hdescription⟩
    exact ⟨htype, hdescription⟩
  · intro h
    exact ⟨⟨h.type, fun _ _ => rfl⟩, h.description⟩

theorem violations_readValues (h : v.HasShortIntegers) : (readValues v).violations = [] := by
  unfold readValues
  dsimp only
  split
  · rfl
  · next f hf =>
    split at hf
    · exact absurd hf (Value.writtenAll_ne_error (by simp) f)
    · next items hv => exact absurd hf (Value.writtenAll_ne_error (shortItems_of_unfold h hv) f)
    · exact absurd hf (Value.writtenAll_ne_error (by simpa using h) f)

theorem violations_readClause_eq_nil_iff (h : v.HasShortIntegers) :
    (readClause v).violations = [] ↔ IsRecordOf ClauseForm v := by
  rw [readClause, violations_readRecord_eq_nil_iff]
  apply isRecordOf_congr
  intro fields hv
  have hvalues : MayHave "values" (fun v => (readValues v).violations = []) fields :=
    fun v hv' => violations_readValues ((ShortFields.of_unfold h hv).field? hv')
  simp only [Checked.violations_and, List.append_eq_nil_iff, violations_required_eq_nil_iff,
    violations_optional_eq_nil_iff, violations_readNullable_eq_nil_iff,
    violations_readText_eq_nil_iff]
  constructor
  · intro ⟨⟨hkey, hoperator⟩, _⟩
    exact ⟨hkey, hoperator⟩
  · intro hform
    exact ⟨⟨hform.key, hform.operator⟩, hvalues⟩

theorem violations_readCondition_eq_nil_iff (h : v.HasShortIntegers) :
    (readCondition v).violations = [] ↔ IsRecordOf ConditionForm v := by
  rw [readCondition, violations_readRecord_eq_nil_iff]
  apply isRecordOf_congr
  intro fields hv
  have hclauses : MayHave "result_match" (fun v => (readList readClause v).violations = []) fields ↔
      MayHave "result_match" (IsListOf (IsRecordOf ClauseForm)) fields := by
    apply mayHave_congr
    intro v' hv'
    have hshort := (ShortFields.of_unfold h hv).field? hv'
    rw [violations_readList_eq_nil_iff]
    apply isListOf_congr
    intro items hitems item hitem
    exact violations_readClause_eq_nil_iff (shortItems_of_unfold hshort hitems item hitem)
  simp only [Checked.violations_and, List.append_eq_nil_iff, violations_required_eq_nil_iff,
    violations_optional_eq_nil_iff, violations_readText_eq_nil_iff, hclauses]
  exact ⟨fun ⟨hdependency, hclauses⟩ => ⟨hdependency, hclauses⟩,
    fun hform => ⟨hform.dependency, hform.clauses⟩⟩

theorem violations_readIteration_eq_nil_iff :
    (readIteration v).violations = [] ↔ IsRecordOf IterationForm v := by
  have hany : ∀ v, (readAny v).violations = [] ↔ True := fun _ => iff_of_true rfl trivial
  rw [readIteration, violations_readRecord_eq_nil_iff]
  apply isRecordOf_congr
  intro fields _
  simp only [Checked.violations_and, List.append_eq_nil_iff, violations_optional_eq_nil_iff,
    violations_readText_eq_nil_iff, violations_readList_eq_nil_iff, hany]
  exact ⟨fun ⟨⟨hcommand, hrows⟩, hnested⟩ => ⟨hcommand, hrows, hnested⟩,
    fun hform => ⟨⟨hform.command, hform.rows⟩, hform.nestedRows⟩⟩

theorem extentOfName?_isSome_iff (s : String) :
    (Extent.ofName? s).isSome ↔ s ∈ Extent.declared.filterMap Extent.name? := by
  simp only [Extent.ofName?, List.find?_isSome, List.mem_filterMap, decide_eq_true_eq]

theorem violations_readDependencyRecord_eq_nil_iff :
    (readDependencyRecord v).violations = [] ↔ IsRecordOf DependencyForm v := by
  rw [readDependencyRecord, violations_readRecord_eq_nil_iff]
  apply isRecordOf_congr
  intro fields _
  simp only [Checked.violations_and, List.append_eq_nil_iff, violations_required_eq_nil_iff,
    violations_optional_eq_nil_iff, violations_readText_eq_nil_iff,
    violations_readChoice_eq_nil_iff extentOfName?_isSome_iff]
  exact ⟨fun ⟨htarget, hextent⟩ => ⟨htarget, hextent⟩, fun hform => ⟨hform.target, hform.extent⟩⟩

theorem violations_readDependency_eq_nil_iff :
    (readDependency v).violations = [] ↔ IsText v ∨ IsRecordOf DependencyForm v := by
  rw [← violations_readDependencyRecord_eq_nil_iff, ← violations_readText_eq_nil_iff]
  unfold readDependency
  split
  · exact iff_of_true rfl (.inl rfl)
  · next d hd => exact iff_of_true rfl (.inr (by rw [hd]; rfl))
  · next v _ _ htext hrecord =>
    have hnotText : ¬ (readText v).violations = [] := by
      rw [violations_readText_eq_nil_iff]
      exact fun ⟨s, hs⟩ => htext s hs
    have hnotRecord : ¬ (readDependencyRecord v).violations = [] := by
      rw [violations_eq_nil_iff_valid]
      exact fun ⟨d, hd⟩ => hrecord d hd
    simp [hnotText, hnotRecord]

theorem violations_readJob_eq_nil_iff (h : v.HasShortIntegers) :
    (readJob name v).violations = [] ↔ IsRecordOf JobForm v := by
  rw [readJob, violations_readRecord_eq_nil_iff]
  apply isRecordOf_congr
  intro fields hv
  have hcondition : MayHave "condition"
      (IsNullOr fun v => (readCondition v).violations = []) fields ↔
      MayHave "condition" (IsNullOr (IsRecordOf ConditionForm)) fields := by
    apply mayHave_congr
    intro v' hv'
    have hshort := (ShortFields.of_unfold h hv).field? hv'
    exact isNullOr_congr (violations_readCondition_eq_nil_iff hshort)
  simp only [Checked.violations_and, List.append_eq_nil_iff, violations_optional_eq_nil_iff,
    violations_readNullable_eq_nil_iff, violations_readText_eq_nil_iff,
    violations_readList_eq_nil_iff, violations_readIteration_eq_nil_iff,
    violations_readDependency_eq_nil_iff, hcondition]
  constructor
  · intro ⟨⟨⟨himage, hcommands⟩, hiteration, hdependencies⟩, hcondition⟩
    exact ⟨himage, hcommands, hiteration, hdependencies, hcondition⟩
  · intro hform
    exact ⟨⟨⟨hform.image, hform.commands⟩, hform.iteration, hform.dependencies⟩, hform.condition⟩

/- The whole file. -/

variable {fields : Fields}

theorem isEmpty_of_readMap {read : String → Value → Checked α} {d : Dictionary α}
    (h : readMap read v = .valid d) : d.isEmpty = false ↔ v.unfold ≠ .map [] := by
  unfold readMap at h
  split at h
  · next entries hv =>
    obtain ⟨l, hl, rfl⟩ := Checked.map_eq_valid_iff.1 h
    rw [hv, Dictionary.isEmpty_ofList]
    cases entries with
    | nil =>
      cases hl
      simp
    | cons e entries =>
      obtain ⟨_, _, -, -, rfl⟩ := Checked.and_eq_valid_iff.1 hl
      simp
  · cases h

theorem violations_readInputs_eq_nil_iff :
    (readMap readInput v).violations = [] ↔ IsMapOf (IsRecordOf InputForm) v :=
  violations_readMap_eq_nil_iff fun _ _ _ _ _ => violations_readInput_eq_nil_iff

theorem violations_readJobs_eq_nil_iff (h : v.HasShortIntegers) :
    (readMap readJob v).violations = [] ↔ IsMapOf (IsRecordOf JobForm) v :=
  violations_readMap_eq_nil_iff fun _ hv e he _ =>
    violations_readJob_eq_nil_iff (ShortFields.of_unfold h hv e he)

theorem exists_jobs_iff (h : ShortFields fields) :
    (∃ jobs, fields.optional "jobs" .empty (readMap readJob) = .valid jobs ∧ jobs.isEmpty = false) ↔
      Has "jobs" (fun v => IsMapOf (IsRecordOf JobForm) v ∧ v.unfold ≠ .map []) fields := by
  unfold Fields.optional Has
  split
  · next v hv =>
    have hshort := h.field? hv
    simp only [hv, Option.some.injEq, exists_eq_left', Checked.under_eq_valid_iff]
    rw [← violations_readJobs_eq_nil_iff hshort, violations_eq_nil_iff_valid]
    constructor
    · intro ⟨jobs, hjobs, hsome⟩
      exact ⟨⟨jobs, hjobs⟩, (isEmpty_of_readMap hjobs).1 hsome⟩
    · intro ⟨⟨jobs, hjobs⟩, hsome⟩
      exact ⟨jobs, hjobs, (isEmpty_of_readMap hjobs).2 hsome⟩
  · next hv =>
    rw [hv]
    constructor
    · intro ⟨jobs, hjobs, hsome⟩
      cases hjobs
      cases hsome
    · intro ⟨v, hv, _⟩
      cases hv

/-- Fields in which no integer has too many digits have no violations exactly if they are of the
form of a workflow file. -/
theorem violations_eq_nil_iff_workflowForm (h : ShortFields fields) :
    (readWorkflow fields).violations = [] ↔ WorkflowForm fields := by
  have hversion : (∃ version, fields.optional "version" "" readText = .valid version) ↔
      MayHave "version" IsText fields := by
    rw [← violations_eq_nil_iff_valid, violations_optional_eq_nil_iff]
    simp only [violations_readText_eq_nil_iff]
  have hinputs : (∃ inputs, fields.optional "inputs" .empty (readMap readInput) = .valid inputs) ↔
      MayHave "inputs" (IsMapOf (IsRecordOf InputForm)) fields := by
    rw [← violations_eq_nil_iff_valid, violations_optional_eq_nil_iff]
    simp only [violations_readInputs_eq_nil_iff]
  rw [violations_eq_nil_iff_valid, readWorkflow]
  simp only [Checked.ensure_eq_valid_iff, Checked.and_eq_valid_iff]
  constructor
  · rintro ⟨_, ⟨_, jobs, ⟨version, inputs, hv, hi, -⟩, hj, rfl⟩, hsome⟩
    have hnonempty : jobs.isEmpty = false := by simpa using hsome
    exact ⟨hversion.1 ⟨version, hv⟩, hinputs.1 ⟨inputs, hi⟩,
      (exists_jobs_iff h).1 ⟨jobs, hj, hnonempty⟩⟩
  · intro hform
    obtain ⟨version, hv⟩ := hversion.2 hform.version
    obtain ⟨inputs, hi⟩ := hinputs.2 hform.inputs
    obtain ⟨jobs, hj, hnonempty⟩ := (exists_jobs_iff h).2 hform.jobs
    have hfields : ∃ v is, fields.optional "version" "" readText = .valid v ∧
        fields.optional "inputs" .empty (readMap readInput) = .valid is ∧
        (version, inputs) = (v, is) :=
      ⟨version, inputs, hv, hi, rfl⟩
    exact ⟨⟨version, inputs, jobs⟩, ⟨(version, inputs), jobs, hfields, hj, rfl⟩,
      by simpa using hnonempty⟩

end

/- A file with a number among the values of a clause, whose operator is not given. -/

def numberedValue (commands : Value) : Fields :=
  let clause : Value := .map [(.text "key", .text "k"), (.text "operator", .null),
    (.text "values", .scalar (.int 3))]
  let condition : Value := .map [(.text "depend_job", .text "b"),
    (.text "result_match", .list [clause])]
  let job : Value := .map [(.text "commands", commands), (.text "condition", condition),
    (.text "depends", .list [.text "b", .map [(.text "target", .text "b")]])]
  [(.text "jobs", .map [(.text "a", job)])]

theorem shortFields_numberedValue {commands : Value} (h : ∀ n, ¬ commands.Holds (.int n)) :
    ShortFields (numberedValue commands) := by
  have hpow : ∀ k, 1 ≤ k → 3 < Nat.pow 10 k := fun k hk =>
    Nat.lt_of_lt_of_le (by decide : 3 < Nat.pow 10 1) (Nat.pow_le_pow_right (by decide) hk)
  intro f hf n hn
  obtain rfl := List.mem_singleton.1 hf
  have hthree : n = 3 := by simpa [h] using hn
  rw [hthree]
  exact hpow _ (by decide)

theorem violations_eq_nil_iff_workflowForm_numberedValue :
    ShortFields (numberedValue (.list [])) ∧ WorkflowForm (numberedValue (.list [])) ∧
      ¬ WorkflowForm (numberedValue .null) := by
  have hempty : ShortFields (numberedValue (.list [])) := shortFields_numberedValue (by simp)
  have hnull : ShortFields (numberedValue .null) := shortFields_numberedValue (by simp)
  have hnone : (readWorkflow (numberedValue (.list []))).violations = [] := by decide +kernel
  have hsome : (readWorkflow (numberedValue .null)).violations ≠ [] := by decide +kernel
  refine ⟨hempty, (violations_eq_nil_iff_workflowForm hempty).1 hnone, ?_⟩
  intro hform
  have hnone := (violations_eq_nil_iff_workflowForm hnull).2 hform
  exact hsome hnone

end Schema
end JobGate

import JobGate.Proofs.Schema.Form
import JobGate.Proofs.Schema.Location
/-! No violation hides another. What is told of a file is told of its fields, its entries and its
elements, each by itself (`toldByParts_readWorkflow`). Only that there is no job is told of the
file as a whole, if nothing else is told. -/
namespace JobGate.Schema

section
variable {v : Value} {name name' : String} {fields : Fields}

theorem violations_readInput (h : v.unfold = .map fields) :
    (readInput name v).violations =
      placedViolations "type"
        (readChoice InputType.ofName? (InputType.declared.map InputType.name)) fields ++
      placedViolations "description" readText fields := by
  have hdefault : placedViolations "default" readAny fields = [] := by
    unfold placedViolations fieldViolations
    split <;> rfl
  rw [readInput, readRecord_of_unfold h]
  simp only [Checked.violations_and, violations_optional, hdefault, List.append_nil]

theorem violations_readJob (h : v.unfold = .map fields) :
    (readJob name v).violations =
      placedViolations "image" (readNullable readText) fields ++
      placedViolations "commands" (readList readText) fields ++
      placedViolations "commands_iter" (readNullable readIteration) fields ++
      placedViolations "depends" (readList readDependency) fields ++
      placedViolations "condition" (readNullable readCondition) fields := by
  rw [readJob, readRecord_of_unfold h]
  simp only [Checked.violations_and, violations_optional, List.append_assoc]

/- The name under which something stands makes no difference to what is told of it. -/

theorem violations_readInput_name :
    (readInput name v).violations = (readInput name' v).violations := by
  cases h : v.unfold with
  | map fields => rw [violations_readInput h, violations_readInput h]
  | _ => simp only [readInput, readRecord, h, violations_fail]

theorem violations_readJob_name : (readJob name v).violations = (readJob name' v).violations := by
  cases h : v.unfold with
  | map fields => rw [violations_readJob h, violations_readJob h]
  | _ => simp only [readJob, readRecord, h, violations_fail]

end

/- Elements of a job. -/

/-- What is told of a job is what is told of its fields, and below each element of it what is told
of that element by itself. -/
structure ToldByElements (v : Value) (vs : List Violation) : Prop where
  whole : ∀ fields, v.unfold = .map fields → vs =
    placedViolations "image" (readNullable readText) fields ++
    placedViolations "commands" (readList readText) fields ++
    placedViolations "commands_iter" (readNullable readIteration) fields ++
    placedViolations "depends" (readList readDependency) fields ++
    placedViolations "condition" (readNullable readCondition) fields
  command : ∀ i : Nat, ToldAlone [.name "commands", .index i] readText v vs
  iteration : ToldAlone [.name "commands_iter"] (readNullable readIteration) v vs
  dependency : ∀ i : Nat, ToldAlone [.name "depends", .index i] readDependency v vs
  clause : ∀ i : Nat,
    ToldAlone [.name "condition", .name "result_match", .index i] readClause v vs

theorem toldAlone_readCondition {v : Value} (i : Nat) :
    ToldAlone [.name "result_match", .index i] readClause v (readCondition v).violations := by
  refine toldAlone_field ?_ (fun clauses => toldAlone_readList (fun _ => toldAlone_nil))
  intro fields hv
  rw [readCondition, readRecord_of_unfold hv]
  simp [within_required_of_ne, violations_optional, within_placedViolations]

theorem toldByElements_readJob (name : String) (v : Value) :
    ToldByElements v (readJob name v).violations := by
  refine ⟨fun fields hv => violations_readJob hv, ?_, ?_, ?_, ?_⟩
  · intro i
    refine toldAlone_field ?_ (fun commands => toldAlone_readList (fun _ => toldAlone_nil))
    intro fields hv
    simp [violations_readJob hv, within_placedViolations]
  · refine toldAlone_field ?_ (fun iteration => toldAlone_nil)
    intro fields hv
    simp [violations_readJob hv, within_placedViolations]
  · intro i
    refine toldAlone_field ?_ (fun dependencies => toldAlone_readList (fun _ => toldAlone_nil))
    intro fields hv
    simp [violations_readJob hv, within_placedViolations]
  · intro i
    refine toldAlone_field ?_ (fun condition => toldAlone_readNullable (toldAlone_readCondition i))
    intro fields hv
    simp [violations_readJob hv, within_placedViolations]

/- The file. -/

def partViolations (fields : Fields) : List Violation :=
  placedViolations "version" readText fields ++
  placedViolations "inputs" (readMap readInput) fields ++
  placedViolations "jobs" (readMap readJob) fields

def givesNoJobs (fields : Fields) : Bool :=
  match Value.field? "jobs" fields with
  | none => true
  | some v =>
    match v.unfold with
    | .map [] => true
    | _ => false

def noJobs : Violation := ⟨[], .noJobs⟩

/-- What is told of a file with these fields, part by part. -/
structure ToldByParts (fields : Fields) (vs : List Violation) : Prop where
  whole : vs = partViolations fields ++
    if partViolations fields = [] ∧ givesNoJobs fields then [noJobs] else []
  inputs : ∀ v entries, Value.field? "inputs" fields = some v → v.unfold = .map entries →
    ToldByEntries readInput entries (within (.name "inputs") vs)
  jobs : ∀ v entries, Value.field? "jobs" fields = some v → v.unfold = .map entries →
    ToldByEntries readJob entries (within (.name "jobs") vs)
  noJobs : noJobs ∈ vs ↔ (∀ e ∈ vs, e = noJobs) ∧ givesNoJobs fields

section
variable {fields : Fields} {name : String} {read : Value → Checked α}

theorem location_ne_nil_of_mem_placedViolations {e : Violation}
    (h : e ∈ placedViolations name read fields) : e.location ≠ [] := by
  obtain ⟨e', -, rfl⟩ := List.mem_map.1 h
  exact List.cons_ne_nil _ _

theorem noJobs_not_mem_partViolations : noJobs ∉ partViolations fields := by
  intro h
  obtain h | hjobs := List.mem_append.1 h
  · obtain hversion | hinputs := List.mem_append.1 h
    · exact location_ne_nil_of_mem_placedViolations hversion rfl
    · exact location_ne_nil_of_mem_placedViolations hinputs rfl
  · exact location_ne_nil_of_mem_placedViolations hjobs rfl

theorem isEmpty_of_optional_jobs {jobs : Dictionary Job}
    (h : fields.optional "jobs" .empty (readMap readJob) = .valid jobs) :
    jobs.isEmpty = givesNoJobs fields := by
  unfold Fields.optional at h
  unfold givesNoJobs
  split at h
  · next v hv =>
    have hiff := isEmpty_of_readMap (Checked.under_eq_valid_iff.1 h)
    rw [hv]
    dsimp only
    split
    · next hempty => simpa [hempty] using hiff
    · next hsome => exact hiff.2 hsome
  · next hv =>
    cases h
    rw [hv]
    rfl

theorem violations_readWorkflow (fields : Fields) :
    (readWorkflow fields).violations = partViolations fields ++
      if partViolations fields = [] ∧ givesNoJobs fields then [noJobs] else [] := by
  let parts := ((fields.optional "version" "" readText).and Prod.mk
    (fields.optional "inputs" .empty (readMap readInput))).and
      (fun p js => (⟨p.1, p.2, js⟩ : Workflow)) (fields.optional "jobs" .empty (readMap readJob))
  have hparts : partViolations fields = parts.violations := by
    simp only [partViolations, parts, Checked.violations_and, violations_optional]
  have hread : readWorkflow fields = parts.ensure (fun w => !w.jobs.isEmpty) .noJobs := rfl
  rw [hparts, hread]
  cases hw : parts with
  | valid w =>
    -- the parts tell nothing, so it is for the number of jobs to decide
    obtain ⟨_, jobs, -, hjobs, rfl⟩ := Checked.and_eq_valid_iff.1 hw
    have hempty := isEmpty_of_optional_jobs hjobs
    cases hnone : givesNoJobs fields with
    | true => simp [Checked.ensure, Checked.violations, hempty, hnone, Checked.fail, noJobs]
    | false => simp [Checked.ensure, Checked.violations, hempty, hnone]
  | invalid first rest => simp [Checked.ensure, Checked.violations]

theorem within_readWorkflow (segment : String) :
    within (.name segment) (readWorkflow fields).violations =
      within (.name segment) (partViolations fields) := by
  have hnone : within (.name segment) [noJobs] = [] := rfl
  rw [violations_readWorkflow, within_append]
  split <;> simp [hnone]

/-- A workflow file is told of by its parts, and so is each job by its elements. Keys are the
scalars of `Scalar`, so nothing is said of keys that are bytes. -/
theorem toldByParts_readWorkflow (fields : Fields) :
    ToldByParts fields (readWorkflow fields).violations ∧
      ∀ name v, ToldByElements v (readJob name v).violations := by
  refine ⟨⟨violations_readWorkflow fields, ?_, ?_, ?_⟩, toldByElements_readJob⟩
  · intro v entries hfield hv
    have hwithin : within (.name "inputs") (readWorkflow fields).violations =
        (readMap readInput v).violations := by
      rw [within_readWorkflow, ← fieldViolations_of_field? hfield]
      simp [partViolations, within_placedViolations]
    rw [hwithin]
    exact toldByEntries_readMap (fun _ _ => violations_readInput_name) hv
  · intro v entries hfield hv
    have hwithin : within (.name "jobs") (readWorkflow fields).violations =
        (readMap readJob v).violations := by
      rw [within_readWorkflow, ← fieldViolations_of_field? hfield]
      simp [partViolations, within_placedViolations]
    rw [hwithin]
    exact toldByEntries_readMap (fun _ _ => violations_readJob_name) hv
  · rw [violations_readWorkflow]
    constructor
    · intro hmem
      obtain hpart | hnone := List.mem_append.1 hmem
      · exact absurd hpart noJobs_not_mem_partViolations
      · split at hnone
        · next h =>
          rw [h.1]
          simp [h.2]
        · cases hnone
    · intro ⟨hall, hnone⟩
      -- what a part tells has a place, so it cannot be that there is no job
      have hparts : partViolations fields = [] := by
        rw [List.eq_nil_iff_forall_not_mem]
        intro e he
        have heq := hall e (List.mem_append_left _ he)
        exact noJobs_not_mem_partViolations (heq ▸ he)
      simp [hparts, hnone]

end

/- A key that is no text is told as one, so it may stand where a text stands. -/

def noneKeys : List (Scalar × Value) := [(.null, .map []), (.text "None", .map [])]

def noneKeyed : Fields := [(.text "version", .scalar (.int 1)), (.text "jobs", .map noneKeys)]

/-- What is told below the name of a job may be told of another entry. -/
theorem not_toldAlone_noneKeyed :
    ¬ ∀ (fields : Fields) (v : Value) (entries : List (Scalar × Value)),
      Value.field? "jobs" fields = some v → v.unfold = .map entries →
      (entries.map Prod.fst).Nodup → ∀ name d, (.text name, d) ∈ entries →
        below [.name "jobs", .name name] (readWorkflow fields).violations =
          (readJob name d).violations := by
  intro h
  have hmem : (Scalar.text "None", Value.map []) ∈ noneKeys :=
    List.mem_cons_of_mem _ List.mem_cons_self
  have hnone := h noneKeyed (.map noneKeys) noneKeys rfl rfl (by decide) "None" (.map []) hmem
  have hkey : below [.name "jobs", .name "None"] (readWorkflow noneKeyed).violations =
      [⟨[.name "[key]"], .notText⟩] := by
    decide +kernel
  rw [hkey] at hnone
  cases hnone

end JobGate.Schema

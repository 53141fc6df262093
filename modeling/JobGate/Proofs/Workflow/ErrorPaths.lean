import JobGate.Proofs.Condition.Reports
import JobGate.Proofs.Schema.Valid
/-! The errors of a whole workflow. In one that was read from a file no two errors have the same
path, and a path tells the job and the place (`conditionErrors_paths`). -/
namespace JobGate.Workflow
variable {w : Workflow}

theorem mem_jobNames_iff {name : String} : name ∈ w.jobNames ↔ (w.jobs.get? name).isSome := by
  rw [jobNames, List.mem_mergeSort, Dictionary.get?_isSome_iff]

theorem nodup_jobNames : w.jobNames.Nodup :=
  (List.mergeSort_perm w.jobs.names _).nodup_iff.2 w.jobs.nodup

theorem mem_conditionalJobs_iff {job : Job} :
    job ∈ w.conditionalJobs ↔
      ∃ name, w.jobs.get? name = some job ∧ job.condition.isSome := by
  simp only [conditionalJobs, List.mem_filter, List.mem_filterMap, mem_jobNames_iff]
  constructor
  · intro ⟨⟨name, _, hj⟩, hc⟩
    exact ⟨name, hj, hc⟩
  · intro ⟨name, hj, hc⟩
    exact ⟨⟨name, by rw [hj]; rfl, hj⟩, hc⟩

theorem mem_conditionErrors_iff {e : Condition.Error} :
    e ∈ w.conditionErrors ↔ ∃ name job c, w.jobs.get? name = some job ∧
      job.condition = some c ∧ e ∈ Condition.errors job.name (some c) w.inputs w := by
  simp only [conditionErrors, List.mem_flatMap, mem_conditionalJobs_iff]
  constructor
  · intro ⟨job, ⟨name, hj, hc⟩, he⟩
    obtain ⟨c, hc⟩ := Option.isSome_iff_exists.1 hc
    rw [hc] at he
    exact ⟨name, job, c, hj, hc, he⟩
  · intro ⟨name, job, c, hj, hc, he⟩
    rw [← hc] at he
    exact ⟨job, ⟨name, hj, by rw [hc]; rfl⟩, he⟩

theorem conditionalJobs_names_sublist (hw : w.WellNamed) :
    (w.conditionalJobs.map Job.name).Sublist w.jobNames := by
  rw [conditionalJobs]
  generalize w.jobNames = names
  induction names with
  | nil => simp
  | cons name names ih =>
    cases hj : w.jobs.get? name with
    | none =>
      rw [List.filterMap_cons_none hj]
      exact ih.cons name
    | some job =>
      rw [List.filterMap_cons_some hj, List.filter_cons]
      split
      · rw [List.map_cons, hw.jobs name job hj]
        exact ih.cons_cons name
      · exact ih.cons name

theorem nodup_conditionErrors_texts (hw : w.WellNamed) :
    (w.conditionErrors.map (fun e => e.path.text)).Nodup := by
  have hnames : (w.conditionalJobs.map Job.name).Nodup :=
    (conditionalJobs_names_sublist hw).nodup nodup_jobNames
  rw [conditionErrors, List.map_flatMap, List.nodup_flatMap]
  constructor
  · intro job _
    exact Condition.nodup_errors_texts
  · refine (List.pairwise_map.1 hnames).imp ?_
    intro job job' hne t ht ht'
    obtain ⟨e, he, rfl⟩ := List.mem_map.1 ht
    obtain ⟨e', he', ht⟩ := List.mem_map.1 ht'
    exact hne (Condition.job_and_place_of_text_eq he he' ht.symm).1

/-- No two errors of a workflow that was read from a file have the same path. Each comes from the
condition of one job, is the error of its dependency or of a key, an operator or a value of one of
its clauses, and no other job and no other place have the path. -/
theorem conditionErrors_paths {fields : Schema.Fields} {w : Workflow}
    (h : Schema.readWorkflow fields = .valid w) :
    (w.conditionErrors.map (fun e => e.path.text)).Nodup ∧
    ∀ e ∈ w.conditionErrors, ∃ name job c, w.jobs.get? name = some job ∧ job.condition = some c ∧
      e.path.base = Condition.baseOf name ∧
      (e.path.place = .whole ∧
          Condition.dependencyError? (Condition.baseOf name) name c.dependency w = some e ∨
        Condition.Violation w.inputs c.clauses e.path.place e.cause) ∧
      ∀ name' place', (Condition.Path.mk (Condition.baseOf name') place').text = e.path.text →
        name' = name ∧ place' = e.path.place := by
  have hw := Schema.wellNamed_of_readWorkflow h
  refine ⟨nodup_conditionErrors_texts hw, ?_⟩
  intro e he
  obtain ⟨name, job, c, hj, hc, he⟩ := mem_conditionErrors_iff.1 he
  rw [hw.jobs name job hj] at he
  obtain ⟨hbase, hplace⟩ := Condition.mem_errors_iff.1 he
  refine ⟨name, job, c, hj, hc, hbase, ?_, ?_⟩
  · obtain hv | ⟨hp, hd⟩ := hplace
    · exact .inr hv
    · refine .inl ⟨hp, ?_⟩
      obtain ⟨⟨base, place⟩, cause⟩ := e
      subst hbase hp
      rw [Condition.dependencyError?, hd]
      rfl
  · intro name' place' ht
    obtain ⟨⟨base, place⟩, cause⟩ := e
    subst hbase
    exact Condition.text_inj ht

/- A job is called as a place in the condition of another, and both have errors. -/

def innerName : String := "a.condition.resultmatch[0].value"

def nestedNames : Schema.Fields :=
  let clause : Value := .map [(.text "key", .text "$(k)"), (.text "values", .list [.text "$(v)"])]
  let job : Value := .map [(.text "condition", .map
    [(.text "depend_job", .text "b"), (.text "result_match", .list [clause])])]
  [(.text "jobs", .map [(.text "a", job), (.text innerName, job)])]

def openJob (name : String) : Job :=
  let clause : Clause := ⟨.placeholder "k", .literal "", [.placeholder "v"]⟩
  ⟨name, none, [], none, [], some ⟨"b", [clause]⟩⟩

def nestedJobs : Workflow :=
  ⟨"", .empty, .ofList [("a", openJob "a"), (innerName, openJob innerName)]⟩

theorem conditionErrors_paths_nestedNames :
    Schema.readWorkflow nestedNames = .valid nestedJobs ∧
    (nestedJobs.conditionErrors.map (fun e => e.path.text)).Nodup ∧
    ∃ e ∈ nestedJobs.conditionErrors, e.path.text = "workflow.a.condition.resultmatch[0].value[0]" ∧
      ∀ name' place', (Condition.Path.mk (Condition.baseOf name') place').text = e.path.text →
        name' = "a" ∧ place' = .value 0 0 := by
  have h : Schema.readWorkflow nestedNames = .valid nestedJobs := rfl
  have hmem : (⟨⟨Condition.baseOf "a", .value 0 0⟩, .misplacedPlaceholder⟩ : Condition.Error) ∈
      nestedJobs.conditionErrors :=
    mem_conditionErrors_iff.2 ⟨"a", openJob "a", _, rfl, rfl, by decide⟩
  obtain ⟨hnodup, hpath⟩ := conditionErrors_paths h
  obtain ⟨name, _, _, _, _, _, _, hunique⟩ := hpath _ hmem
  obtain ⟨rfl, -⟩ := hunique "a" (.value 0 0) rfl
  exact ⟨h, hnodup, _, hmem, by decide, hunique⟩

end JobGate.Workflow

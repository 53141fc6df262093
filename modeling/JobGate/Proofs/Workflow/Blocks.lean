import JobGate.Proofs.Requirement.Built
import JobGate.Proofs.Workflow.ErrorPaths
/-! The errors of a workflow, one block for each name of a job with a condition
(`conditionErrors_eq_flatMap`). Where jobs carry the names under which they stand, none is that the
job itself is missing (`message_ne_missingJob`). -/
namespace JobGate

namespace Workflow
variable {w : Workflow} {name : String}

/-- The names under which jobs with a condition stand, in ascending order. -/
def conditionalNames (w : Workflow) : List String :=
  w.jobNames.filter (fun name => (w.jobs.get? name).any (fun job => job.condition.isSome))

def errorsAt (w : Workflow) (name : String) : List Condition.Error :=
  match w.jobs.get? name with
  | none => []
  | some job => Condition.errors job.name job.condition w.inputs w

theorem mem_conditionalNames_iff :
    name ∈ w.conditionalNames ↔ ∃ job, w.jobs.get? name = some job ∧ job.condition.isSome := by
  rw [conditionalNames, List.mem_filter, mem_jobNames_iff]
  cases w.jobs.get? name <;> simp

theorem conditionalNames_sorted : w.conditionalNames.Pairwise (· < ·) := by
  have hle : w.jobNames.Pairwise (· ≤ ·) := Requirement.sorted_mergeSort w.jobs.names
  have hlt : w.jobNames.Pairwise (· < ·) := by
    refine (hle.and nodup_jobNames).imp ?_
    intro a b ⟨hab, hne⟩
    exact Std.lt_of_le_of_ne hab hne
  exact hlt.filter _

theorem errorsAt_eq_nil_of_not_mem (h : name ∉ w.conditionalNames) : w.errorsAt name = [] := by
  rw [mem_conditionalNames_iff] at h
  unfold errorsAt
  split
  · rfl
  · next job hjob =>
    have hnone : job.condition = none := by
      cases hc : job.condition with
      | none => rfl
      | some c => exact absurd ⟨job, hjob, by rw [hc]; rfl⟩ h
    rw [hnone]
    rfl

theorem conditionalJobs_eq_filterMap :
    w.conditionalJobs = w.conditionalNames.filterMap w.jobs.get? := by
  rw [conditionalJobs, conditionalNames, List.filter_filterMap, List.filterMap_filter]
  apply List.filterMap_congr
  intro name _
  cases w.jobs.get? name <;> rfl

theorem conditionErrors_eq_flatMap : w.conditionErrors = w.conditionalNames.flatMap w.errorsAt := by
  rw [conditionErrors, conditionalJobs_eq_filterMap, List.filterMap_eq_flatMap_toList,
    List.flatMap_assoc]
  apply List.flatMap_congr
  intro name _
  rw [errorsAt]
  cases w.jobs.get? name with
  | none => rfl
  | some job => exact List.flatMap_singleton _ job

theorem errorsAt_infix (name : String) : w.errorsAt name <:+: w.conditionErrors := by
  rw [conditionErrors_eq_flatMap]
  by_cases h : name ∈ w.conditionalNames
  · exact List.infix_of_mem_flatten (List.mem_map_of_mem h)
  · rw [errorsAt_eq_nil_of_not_mem h]
    exact List.nil_infix

theorem conditionErrors_eq_nil_iff : w.conditionErrors = [] ↔ ∀ name, w.errorsAt name = [] := by
  constructor
  · intro h name
    exact List.infix_nil.1 (h ▸ errorsAt_infix name)
  · intro h
    rw [conditionErrors_eq_flatMap, List.flatMap_eq_nil_iff]
    exact fun name _ => h name

end Workflow

/- The job that is missing. -/

namespace Condition
variable {inputs : Dictionary Input} {clauses : List Clause} {place : Place} {cause : Cause}
variable {w : Workflow} {job dependency : String}

theorem kind_ne_of_violation (h : Violation inputs clauses place cause) :
    cause.kind ≠ .missingDependency := by
  cases h with
  | key _ hk =>
    rw [kind_of_keyCause? hk]
    decide
  | @operator _ clause _ _ ho =>
    unfold operatorCause? at ho
    split at ho
    · cases ho
      decide
    · split at ho
      · cases ho
      · cases ho
        exact nofun
  | value _ _ hv =>
    unfold valueCause? at hv
    split at hv
    · cases hv
      decide
    · cases hv

theorem get?_of_missingJob {found : String}
    (h : dependencyCause? w job dependency = some (.missingJob found)) :
    w.jobs.get? job = none := by
  cases hjob : w.jobs.get? job with
  | none => rfl
  | some current =>
    unfold dependencyCause? at h
    rw [hjob] at h
    split at h
    · cases h
    · split at h
      · cases h
      · dsimp only at h
        split at h
        · split at h <;> cases h
        · cases h

def Cause.lastChar : Cause → Char
  | .missingJob _ => 'w'
  | .severalCommands _ => 'd'
  | .notOneDependency .. => ']'
  | .undeclared _ => 's'
  | .misplacedPlaceholder => 't'
  | .missingDependency .. | .wrongDependency .. | .wrongType .. | .unknownOperator _ => '\''

theorem getLast?_append {s t : String} {c : Char} (h : t.toList.getLast? = some c) :
    (s ++ t).toList.getLast? = some c := by
  rw [String.toList_append, List.getLast?_append, h]
  rfl

theorem Cause.getLast?_message (cause : Cause) :
    cause.message.toList.getLast? = some cause.lastChar := by
  cases cause with
  | missingDependency | wrongType | missingJob | severalCommands | wrongDependency | undeclared =>
    exact getLast?_append rfl
  | unknownOperator | notOneDependency => exact getLast?_append (getLast?_append rfl)
  | misplacedPlaceholder => rfl

theorem Cause.eq_missingJob_of_message (h : cause.message = (Cause.missingJob job).message) :
    ∃ found, cause = .missingJob found := by
  have hlast : some cause.lastChar = some 'w' := by
    rw [← cause.getLast?_message, h, getLast?_message]
    rfl
  cases cause with
  | missingJob found => exact ⟨found, rfl⟩
  | _ => exact absurd (Option.some.inj hlast) (by simp [lastChar])

end Condition

theorem Workflow.message_ne_missingJob {w : Workflow} (hw : w.WellNamed) {e : Condition.Error}
    (he : e ∈ w.conditionErrors) (job : String) :
    e.cause.message ≠ s!"job '{job}' is missing from the workflow" := by
  intro hmessage
  obtain ⟨found, hcause⟩ := Condition.Cause.eq_missingJob_of_message hmessage
  obtain ⟨name, current, c, hcurrent, -, he⟩ := mem_conditionErrors_iff.1 he
  rw [hw.jobs name current hcurrent] at he
  obtain ⟨-, hviolation | ⟨-, hdependency⟩⟩ := Condition.mem_errors_iff.1 he
  · exact Condition.kind_ne_of_violation hviolation (by rw [hcause]; rfl)
  · rw [hcause] at hdependency
    rw [Condition.get?_of_missingJob hdependency] at hcurrent
    cases hcurrent

end JobGate

import JobGate.Proofs.Condition.Locality
import JobGate.Proofs.Dictionary
import JobGate.Proofs.Workflow.Blocks
import Mathlib.Data.List.Sort
/-! The order of declarations. Jobs are gone through in the order of their names, and all else is
looked up by name, so another order of the same jobs and inputs gives the same errors: main
statement, `conditionErrors_of_perm`. -/
namespace JobGate.Workflow
variable {w w' : Workflow}

theorem forall₂_conditionalJobs :
    List.Forall₂ (fun name job => w.jobs.get? name = some job) w.conditionalNames
      w.conditionalJobs := by
  rw [conditionalJobs_eq_filterMap]
  apply Traversal.forall₂_filterMap
  intro name hname
  obtain ⟨job, hjob, -⟩ := mem_conditionalNames_iff.1 hname
  exact ⟨job, hjob⟩

section sameLookups
variable (hjobs : ∀ name, w.jobs.get? name = w'.jobs.get? name)
include hjobs

theorem conditionalNames_congr : w.conditionalNames = w'.conditionalNames := by
  apply conditionalNames_sorted.eq_of_mem_iff conditionalNames_sorted
  intro name
  rw [mem_conditionalNames_iff, mem_conditionalNames_iff, hjobs]

theorem conditionalJobs_congr : w.conditionalJobs = w'.conditionalJobs := by
  rw [conditionalJobs_eq_filterMap, conditionalJobs_eq_filterMap, conditionalNames_congr hjobs]
  apply List.filterMap_congr
  intro name _
  exact hjobs name

theorem errorsAt_congr (hinputs : ∀ name, w.inputs.get? name = w'.inputs.get? name)
    (name : String) : w.errorsAt name = w'.errorsAt name := by
  rw [errorsAt, errorsAt, hjobs]
  cases w'.jobs.get? name with
  | none => rfl
  | some job =>
    dsimp only
    cases job.condition with
    | none => rfl
    | some c =>
      apply Condition.errors_congr
      exact ⟨by rw [hjobs], by rw [hjobs], fun name _ => by rw [hinputs]⟩

theorem conditionErrors_congr (hinputs : ∀ name, w.inputs.get? name = w'.inputs.get? name) :
    w.conditionErrors = w'.conditionErrors := by
  rw [conditionErrors_eq_flatMap, conditionErrors_eq_flatMap, conditionalNames_congr hjobs]
  apply List.flatMap_congr
  intro name _
  exact errorsAt_congr hjobs hinputs name

end sameLookups

/-- Workflows with the same jobs and inputs, declared in whatever order, have the same conditional
jobs and the same errors. The conditional jobs are those that have a condition, each once, in the
ascending order of the names under which they stand. -/
theorem conditionErrors_of_perm (hjobs : w.jobs.entries.Perm w'.jobs.entries)
    (hinputs : w.inputs.entries.Perm w'.inputs.entries) :
    w.conditionalJobs = w'.conditionalJobs ∧ w.conditionErrors = w'.conditionErrors ∧
    ∃ names : List String, names.Pairwise (· < ·) ∧
      (∀ name, name ∈ names ↔ ∃ job, (name, job) ∈ w.jobs.entries ∧ job.condition.isSome) ∧
      List.Forall₂ (fun name job => (name, job) ∈ w.jobs.entries) names w.conditionalJobs := by
  have hjobs' : ∀ name, w.jobs.get? name = w'.jobs.get? name :=
    fun _ => Dictionary.get?_eq_of_perm hjobs
  have hinputs' : ∀ name, w.inputs.get? name = w'.inputs.get? name :=
    fun _ => Dictionary.get?_eq_of_perm hinputs
  refine ⟨conditionalJobs_congr hjobs', conditionErrors_congr hjobs' hinputs',
    w.conditionalNames, conditionalNames_sorted, ?_, ?_⟩
  · intro name
    simp only [mem_conditionalNames_iff, Dictionary.get?_eq_some_iff]
  · simpa only [Dictionary.get?_eq_some_iff] using w.forall₂_conditionalJobs

/- Two jobs with a condition, each under the name of the other, and one without. -/

def lostJob (name : String) : Job := ⟨name, none, [], none, [], some ⟨"gone", []⟩⟩

def crossed : List (String × Job) :=
  [("b", lostJob "a"), ("c", ⟨"c", none, [], none, [], none⟩), ("a", lostJob "b")]

def declared (jobs : List (String × Job)) : Workflow := ⟨"", .empty, .ofList jobs⟩

theorem conditionErrors_of_perm_crossed :
    (declared crossed).conditionErrors = (declared crossed.reverse).conditionErrors ∧
    (declared crossed).conditionalJobs = (declared crossed.reverse).conditionalJobs ∧
    (declared crossed.reverse).conditionalJobs.map Job.name = ["b", "a"] := by
  have hentries : (declared crossed).jobs.entries = crossed :=
    Dictionary.entries_ofList (by decide)
  have hentries' : (declared crossed.reverse).jobs.entries = crossed.reverse :=
    Dictionary.entries_ofList (by decide)
  have hperm : (declared crossed).jobs.entries.Perm (declared crossed.reverse).jobs.entries := by
    rw [hentries, hentries']
    exact (List.reverse_perm crossed).symm
  obtain ⟨hjobs, herrors, names, hsorted, hmem, hall⟩ :=
    conditionErrors_of_perm hperm (.refl _)
  refine ⟨herrors, hjobs, ?_⟩
  rw [hentries] at hmem hall
  have hnames : names = ["a", "b"] := by
    apply hsorted.eq_of_mem_iff (by decide)
    intro name
    simp [hmem, crossed, lostJob, or_and_right, exists_or, and_assoc, or_comm]
  rw [hnames] at hall
  rw [← hjobs]
  generalize (declared crossed).conditionalJobs = jobs at hall ⊢
  cases hall with
  | cons ha hrest =>
    cases hrest with
    | cons hb hnil =>
      cases hnil
      simp only [crossed, List.mem_cons, Prod.mk.injEq, String.reduceEq, false_and, true_and,
        List.not_mem_nil, or_false, false_or] at ha hb
      rw [ha, hb]
      rfl

end JobGate.Workflow

import JobGate.Proofs.Condition.Dependency
import JobGate.Proofs.Traversal
/-! The five checks around a condition. What is told is the first that fails, however many others
fail with it (`dependencyError?_first_failing`). A job passes them with one dependency at most. -/
namespace JobGate.Condition
open Traversal
variable {w : Workflow} {base job dependency : String}

inductive Check where
  | dependencyKnown | fewCommands | jobKnown | oneDependency | wholeDependency
  deriving DecidableEq, Repr

namespace Check

def order : List Check := [dependencyKnown, fewCommands, jobKnown, oneDependency, wholeDependency]

/-- What a check asks of a workflow. Of a job that is not there it asks nothing: that is for another
check. -/
def Passes (w : Workflow) (job dependency : String) : Check → Prop
  | dependencyKnown => ∃ target, w.jobs.get? dependency = some target
  | fewCommands => ∀ target, w.jobs.get? dependency = some target → ∀ n ∈ target.slots, n ≤ 1
  | jobKnown => ∃ current, w.jobs.get? job = some current
  | oneDependency => ∀ current, w.jobs.get? job = some current → current.dependencies.length = 1
  | wholeDependency => ∀ current, w.jobs.get? job = some current →
      ∀ d ∈ current.dependencies, d = ⟨dependency, .whole⟩

def kind : Check → Kind
  | dependencyKnown | jobKnown => .missingDependency
  | fewCommands | oneDependency | wholeDependency => .dependencyShape

/-- What is told of a check that fails. -/
def cause (w : Workflow) (job dependency : String) : Check → Cause
  | dependencyKnown => .missingDependency job dependency
  | fewCommands => .severalCommands dependency
  | jobKnown => .missingJob job
  | oneDependency => .notOneDependency job ((w.jobs.get? job).elim [] Job.dependencies)
  | wholeDependency => .wrongDependency job dependency

theorem kind_cause (check : Check) : (check.cause w job dependency).kind = check.kind := by
  cases check <;> rfl

theorem mem_order (check : Check) : check ∈ order := by
  cases check <;> decide

end Check

open Check

theorem passes_iff : (∀ check, Passes w job dependency check) ↔ ∃ target current,
    w.jobs.get? dependency = some target ∧ (∀ n ∈ target.slots, n ≤ 1) ∧
    w.jobs.get? job = some current ∧ current.dependencies = [⟨dependency, .whole⟩] := by
  constructor
  · intro h
    obtain ⟨target, ht⟩ := h dependencyKnown
    obtain ⟨current, hc⟩ := h jobKnown
    obtain ⟨d, hd⟩ := List.length_eq_one_iff.1 (h oneDependency current hc)
    have hwhole : d = ⟨dependency, .whole⟩ :=
      h wholeDependency current hc d (hd ▸ List.mem_singleton_self d)
    exact ⟨target, current, ht, h fewCommands target ht, hc, hwhole ▸ hd⟩
  · intro ⟨target, current, ht, hslots, hc, hd⟩ check
    cases check with
    | dependencyKnown => exact ⟨target, ht⟩
    | fewCommands =>
      intro target' ht'
      cases ht.symm.trans ht'
      exact hslots
    | jobKnown => exact ⟨current, hc⟩
    | oneDependency =>
      intro current' hc'
      cases hc.symm.trans hc'
      rw [hd]
      rfl
    | wholeDependency =>
      intro current' hc'
      cases hc.symm.trans hc'
      rw [hd]
      exact fun d => List.mem_singleton.1

theorem dependencyCause?_of_firstFailing {check : Check}
    (h : FirstFailing (Passes w job dependency) order check) :
    dependencyCause? w job dependency = some (check.cause w job dependency) := by
  unfold dependencyCause?
  -- each check is one branch of the search, and is come to only when those before it pass
  cases h with
  | here hnone =>
    have ht : w.jobs.get? dependency = none :=
      Option.eq_none_iff_forall_ne_some.2 fun target ht => hnone ⟨target, ht⟩
    rw [ht]
    rfl
  | later hknown h =>
    obtain ⟨target, ht⟩ := hknown
    rw [ht]
    dsimp only
    cases h with
    | here hmany =>
      have hslots : target.slots.any (1 < ·) := by simpa [Passes, ht] using hmany
      rw [if_pos hslots]
      rfl
    | later hfew h =>
      have hslots : ¬ target.slots.any (1 < ·) := by simpa [Passes, ht] using hfew
      rw [if_neg hslots]
      cases h with
      | here hnone =>
        have hc : w.jobs.get? job = none :=
          Option.eq_none_iff_forall_ne_some.2 fun current hc => hnone ⟨current, hc⟩
        rw [hc]
        rfl
      | later hknown h =>
        obtain ⟨current, hc⟩ := hknown
        rw [hc]
        dsimp only
        cases h with
        | here hcount =>
          have hlength : current.dependencies.length ≠ 1 := by
            simpa [Passes, hc] using hcount
          split
          · next d hd => exact absurd (by rw [hd]; rfl) hlength
          · simp [Check.cause, hc]
        | later hone h =>
          obtain ⟨d, hd⟩ := List.length_eq_one_iff.1 (hone current hc)
          rw [hd]
          cases h with
          | here hwrong =>
            have hd' : d ≠ ⟨dependency, .whole⟩ := by simpa [Passes, hc, hd] using hwrong
            exact if_neg hd'
          | later _ h => cases h

theorem dependencyCause?_eq_some_iff {cause : Cause} :
    dependencyCause? w job dependency = some cause ↔
      ∃ check, FirstFailing (Passes w job dependency) order check ∧
        cause = check.cause w job dependency := by
  constructor
  · intro h
    have hfails : ¬ ∀ check ∈ order, Passes w job dependency check := by
      intro hall
      have hpasses := passes_iff.1 fun check => hall check check.mem_order
      cases (dependencyCause?_eq_none_iff.2 hpasses).symm.trans h
    -- what is told is the cause of the first check that fails, and there is one cause only
    obtain ⟨check, hfirst⟩ := exists_firstFailing_iff.2 hfails
    exact ⟨check, hfirst, Option.some.inj (h.symm.trans (dependencyCause?_of_firstFailing hfirst))⟩
  · intro ⟨check, hfirst, hcause⟩
    rw [dependencyCause?_of_firstFailing hfirst, hcause]

/-- The checks around a condition all pass exactly if the job depended on is there and has no more
than one command of any sort, and the job itself is there and depends on that one alone, as a whole;
so there is one such dependency at most. Otherwise the first check that fails is told, at the place
of the condition: a missing dependency where it looks for a job, and the shape where it does not. -/
theorem dependencyError?_first_failing (w : Workflow) (base job : String) :
    (∀ dependency, dependencyError? base job dependency w = none ↔ ∃ target current,
      w.jobs.get? dependency = some target ∧ (∀ n ∈ target.slots, n ≤ 1) ∧
      w.jobs.get? job = some current ∧ current.dependencies = [⟨dependency, .whole⟩]) ∧
    (∀ dependency, dependencyError? base job dependency w = none ↔
      ∀ check, Passes w job dependency check) ∧
    (∀ dependency dependency', dependencyError? base job dependency w = none →
      dependencyError? base job dependency' w = none → dependency = dependency') ∧
    ∀ dependency r, (dependencyError? base job dependency w).map Error.report = some r ↔
      ∃ check, FirstFailing (Passes w job dependency) order check ∧
        r = ⟨base, check.kind, (check.cause w job dependency).message⟩ := by
  have hnone : ∀ dependency, dependencyError? base job dependency w = none ↔ ∃ target current,
      w.jobs.get? dependency = some target ∧ (∀ n ∈ target.slots, n ≤ 1) ∧
      w.jobs.get? job = some current ∧ current.dependencies = [⟨dependency, .whole⟩] := by
    intro dependency
    rw [dependencyError?, Option.map_eq_none_iff, dependencyCause?_eq_none_iff]
  refine ⟨hnone, ?_, ?_, ?_⟩
  · intro dependency
    rw [hnone, passes_iff]
  · intro dependency dependency' h h'
    obtain ⟨_, current, -, -, hc, hd⟩ := (hnone dependency).1 h
    obtain ⟨_, current', -, -, hc', hd'⟩ := (hnone dependency').1 h'
    cases hc.symm.trans hc'
    cases hd.symm.trans hd'
    rfl
  · intro dependency r
    have htext : (Path.mk base .whole).text = base := String.append_empty
    have hreport : ∀ check : Check,
        Error.report ⟨⟨base, .whole⟩, check.cause w job dependency⟩ =
          ⟨base, check.kind, (check.cause w job dependency).message⟩ := by
      intro check
      rw [Error.report, htext, kind_cause]
    simp only [dependencyError?, Option.map_map, Option.map_eq_some_iff,
      dependencyCause?_eq_some_iff]
    constructor
    · rintro ⟨_, ⟨check, hfirst, rfl⟩, rfl⟩
      exact ⟨check, hfirst, hreport check⟩
    · rintro ⟨check, hfirst, rfl⟩
      exact ⟨_, ⟨check, hfirst, rfl⟩, hreport check⟩

/- A dependency that fans out, and a job that is not there, which is looked for later. -/

def fannedOut : Job := { plainCommand with commands := ["index", "sort"] }

theorem dependencyError?_first_failing_fannedOut :
    dependencyError? "p" "report" "align" (waitingFor plainCommand) = none ∧
    dependencyError? "p" "report" "report" (waitingFor plainCommand) ≠ none ∧
    (dependencyError? "p" "ghost" "align" (waitingFor fannedOut)).map Error.report =
      some ⟨"p", .dependencyShape, "dependency job 'align' has more than one command"⟩ := by
  obtain ⟨hnone, -, hunique, -⟩ :=
    dependencyError?_first_failing (waitingFor plainCommand) "p" "report"
  obtain ⟨-, -, -, hfirst⟩ := dependencyError?_first_failing (waitingFor fannedOut) "p" "ghost"
  have haccepted : dependencyError? "p" "report" "align" (waitingFor plainCommand) = none :=
    (hnone "align").2 ⟨plainCommand, waiting, rfl, by decide, rfl, rfl⟩
  have hmany : ¬ Passes (waitingFor fannedOut) "ghost" "align" fewCommands := by
    intro hfew
    exact absurd (hfew fannedOut rfl) (by decide)
  refine ⟨haccepted, ?_, ?_⟩
  · intro hother
    exact absurd (hunique "align" "report" haccepted hother) (by decide)
  · exact (hfirst "align" _).2 ⟨fewCommands, .later ⟨fannedOut, rfl⟩ (.here hmany), rfl⟩

end JobGate.Condition

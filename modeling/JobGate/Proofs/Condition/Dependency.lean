import JobGate.Condition.Validation
/-! The job that a condition depends on. One that is accepted has no two commands of the same sort,
but it may have one of each: main statement, `commandCount_of_accepted`. -/
namespace JobGate

namespace Job
variable {job : Job}

/-- All commands that a job comes to: the plain ones, and one for each row of either kind. -/
def commandCount (job : Job) : Nat :=
  match job.iteration with
  | none => job.commands.length
  | some it => job.commands.length + it.rows.length + it.nestedRows.length

/-- How many sorts of commands a job has any of. -/
def sortCount (job : Job) : Nat := job.slots.countP (0 < ·)

theorem sortCount_le_three (job : Job) : job.sortCount ≤ 3 := by
  have hlength : job.slots.length = 3 := by
    rw [slots]
    split <;> rfl
  rw [← hlength]
  exact List.countP_le_length

theorem commandCount_eq_foldr (job : Job) : job.commandCount = job.slots.foldr (· + ·) 0 := by
  rw [commandCount, slots]
  cases job.iteration with
  | none => rfl
  | some it => simp [Nat.add_assoc]

end Job

theorem foldr_add_eq_countP {ns : List Nat} (h : ∀ n ∈ ns, n ≤ 1) :
    ns.foldr (· + ·) 0 = ns.countP (0 < ·) := by
  induction ns with
  | nil => rfl
  | cons n ns ih =>
    obtain ⟨hn, hrest⟩ := List.forall_mem_cons.1 h
    have hterm : n = if decide (0 < n) then 1 else 0 := by
      by_cases hpos : 0 < n
      · rw [if_pos (decide_eq_true hpos)]
        omega
      · rw [if_neg (by simpa using hpos)]
        omega
    rw [List.foldr_cons, List.countP_cons, ih hrest, ← hterm, Nat.add_comm]

namespace Condition
variable {w : Workflow} {base job dependency : String}

theorem dependencyCause?_eq_none_iff :
    dependencyCause? w job dependency = none ↔ ∃ target current,
      w.jobs.get? dependency = some target ∧ (∀ n ∈ target.slots, n ≤ 1) ∧
      w.jobs.get? job = some current ∧ current.dependencies = [⟨dependency, .whole⟩] := by
  constructor
  · intro h
    unfold dependencyCause? at h
    split at h
    · cases h
    · next target ht =>
      split at h
      · cases h
      · next hslots =>
        split at h
        · cases h
        · next current hc =>
          split at h
          · next d hd =>
            split at h
            · next hwhole => exact ⟨target, current, ht, by simpa using hslots, hc, hwhole ▸ hd⟩
            · cases h
          · cases h
  · intro ⟨target, current, ht, hslots, hc, hd⟩
    have hany : target.slots.any (1 < ·) = false := by simpa using hslots
    simp [dependencyCause?, ht, hany, hc, hd]

/-- A job that a condition may depend on has one command of each sort that it has any of, so it has
at most three. -/
theorem commandCount_of_accepted (h : dependencyError? base job dependency w = none) :
    ∃ target, w.jobs.get? dependency = some target ∧ target.commandCount = target.sortCount ∧
      target.commandCount ≤ 3 := by
  have hcause : dependencyCause? w job dependency = none := Option.map_eq_none_iff.1 h
  obtain ⟨target, -, ht, hslots, -⟩ := dependencyCause?_eq_none_iff.1 hcause
  have hcount : target.commandCount = target.sortCount := by
    rw [Job.commandCount_eq_foldr, foldr_add_eq_countP hslots]
    rfl
  refine ⟨target, ht, hcount, ?_⟩
  rw [hcount]
  exact target.sortCount_le_three

/- A job that waits for another, which has the commands given. -/

def plainCommand : Job := ⟨"align", none, ["index"], none, [], none⟩

def plainAndIterated : Job := { plainCommand with iteration := some ⟨"echo", [[.text "a"]], []⟩ }

def waiting : Job := ⟨"report", none, ["make"], none, [⟨"align", .whole⟩], none⟩

def waitingFor (job : Job) : Workflow :=
  { Workflow.empty with jobs := .ofList [("align", job), ("report", waiting)] }

theorem commandCount_of_accepted_plainCommand :
    dependencyError? "p" "report" "align" (waitingFor plainCommand) = none ∧
      ∃ target, (waitingFor plainCommand).jobs.get? "align" = some target ∧
        target.commandCount = 1 := by
  have haccepted : dependencyError? "p" "report" "align" (waitingFor plainCommand) = none := by
    decide
  refine ⟨haccepted, ?_⟩
  obtain ⟨target, ht, hcount, -⟩ := commandCount_of_accepted haccepted
  cases ht
  exact ⟨_, rfl, hcount⟩

/-- A condition is accepted on a job with two commands, a plain one and an iterated one. -/
theorem not_singleCommand_plainAndIterated :
    ¬ ∀ (w : Workflow) (base job dependency : String) (target : Job),
      dependencyError? base job dependency w = none → w.jobs.get? dependency = some target →
        target.commandCount ≤ 1 := by
  intro h
  have hcount : plainAndIterated.commandCount ≤ 1 :=
    h (waitingFor plainAndIterated) "p" "report" "align" _ (by decide) rfl
  exact absurd hcount (by decide)

end Condition
end JobGate

import JobGate.Condition.Validation
import JobGate.Proofs.Condition.Reads
import JobGate.Proofs.Dictionary
import JobGate.Workflow.Edit
import Mathlib.Data.List.Basic
import Mathlib.Logic.Relation
/-! What the validation of a condition looks at: the types of the inputs that its keys name, the
commands of the job that it depends on, the dependencies of its own job. Changes elsewhere make no
error come or go: main statement, `errors_local`. -/
namespace JobGate.Condition
variable {job : String} {c : Condition} {inputs inputs' : Dictionary Input} {w w' : Workflow}

/-- Two surroundings look the same from the condition of a job. -/
structure SeenAlike (job : String) (c : Condition) (inputs inputs' : Dictionary Input)
    (w w' : Workflow) : Prop where
  slots : (w.jobs.get? c.dependency).map Job.slots = (w'.jobs.get? c.dependency).map Job.slots
  dependencies : (w.jobs.get? job).map Job.dependencies = (w'.jobs.get? job).map Job.dependencies
  types : ∀ name, c.HasKeyName name →
    (inputs.get? name).map Input.type = (inputs'.get? name).map Input.type

namespace SeenAlike

theorem refl (job : String) (c : Condition) (inputs : Dictionary Input) (w : Workflow) :
    SeenAlike job c inputs inputs w w :=
  ⟨rfl, rfl, fun _ _ => rfl⟩

theorem trans {inputs'' : Dictionary Input} {w'' : Workflow}
    (h : SeenAlike job c inputs inputs' w w') (h' : SeenAlike job c inputs' inputs'' w' w'') :
    SeenAlike job c inputs inputs'' w w'' :=
  ⟨h.slots.trans h'.slots, h.dependencies.trans h'.dependencies,
    fun name hname => (h.types name hname).trans (h'.types name hname)⟩

end SeenAlike

/- The fields of a clause, and the jobs around the condition. -/

theorem inputCause?_eq (inputs : Dictionary Input) (allowed : List String) (name : String) :
    inputCause? inputs allowed name =
      ((inputs.get? name).map Input.type).elim (some (.undeclared (.placeholder name)))
        (fun type => if type.name ∈ allowed then none
          else some (.wrongType (.placeholder name) allowed type)) := by
  rw [inputCause?]
  cases inputs.get? name <;> rfl

theorem keyCause?_congr {key : Variant} (h : ∀ name, key = .placeholder name →
      (inputs.get? name).map Input.type = (inputs'.get? name).map Input.type) :
    keyCause? inputs key = keyCause? inputs' key := by
  cases key with
  | literal s => rfl
  | placeholder name => rw [keyCause?, keyCause?, inputCause?_eq, inputCause?_eq, h name rfl]

theorem clauseErrors_congr {base : String} {clauses : List Clause}
    (h : ∀ clause ∈ clauses, keyCause? inputs clause.key = keyCause? inputs' clause.key) :
    clauseErrors base inputs clauses = clauseErrors base inputs' clauses := by
  apply List.flatMap_congr
  intro p hp
  have hkey := Traversal.forall_mem_zipIdx.2 h p hp
  simp only [clauseCauses, hkey]

def waitingCause? (job dependency : String) : List Dependency → Option Cause
  | [d] => if d = ⟨dependency, .whole⟩ then none else some (.wrongDependency job dependency)
  | found => some (.notOneDependency job found)

theorem dependencyCause?_eq (w : Workflow) (job dependency : String) :
    dependencyCause? w job dependency =
      ((w.jobs.get? dependency).map Job.slots).elim (some (.missingDependency job dependency))
        (fun slots => if slots.any (1 < ·) then some (.severalCommands dependency)
          else ((w.jobs.get? job).map Job.dependencies).elim (some (.missingJob job))
            (waitingCause? job dependency)) := by
  rw [dependencyCause?]
  cases w.jobs.get? dependency with
  | none => rfl
  | some target => cases w.jobs.get? job <;> rfl

theorem dependencyCause?_congr {dependency : String}
    (hslots : (w.jobs.get? dependency).map Job.slots = (w'.jobs.get? dependency).map Job.slots)
    (hdependencies : (w.jobs.get? job).map Job.dependencies =
      (w'.jobs.get? job).map Job.dependencies) :
    dependencyCause? w job dependency = dependencyCause? w' job dependency := by
  rw [dependencyCause?_eq, dependencyCause?_eq, hslots, hdependencies]

theorem errors_congr (h : SeenAlike job c inputs inputs' w w') :
    errors job (some c) inputs w = errors job (some c) inputs' w' := by
  have hclauses : clauseErrors (baseOf job) inputs c.clauses =
      clauseErrors (baseOf job) inputs' c.clauses := by
    apply clauseErrors_congr
    intro clause hclause
    exact keyCause?_congr fun name hkey => h.types name ⟨clause, hclause, hkey⟩
  rw [errors, errors, hclauses, dependencyError?, dependencyError?,
    dependencyCause?_congr h.slots h.dependencies]

/- Changes. -/

/-- The jobs and the inputs that the condition of a job names are there. -/
structure Grounded (job : String) (c : Condition) (inputs : Dictionary Input) (w : Workflow) :
    Prop where
  dependency : (w.jobs.get? c.dependency).isSome
  job : (w.jobs.get? job).isSome
  inputs : ∀ name, c.HasKeyName name → (inputs.get? name).isSome

theorem Grounded.of_seenAlike (hg : Grounded job c inputs w)
    (h : SeenAlike job c inputs inputs' w w') : Grounded job c inputs' w' where
  dependency := by
    rw [← Option.isSome_map, ← h.slots, Option.isSome_map]
    exact hg.dependency
  job := by
    rw [← Option.isSome_map, ← h.dependencies, Option.isSome_map]
    exact hg.job
  inputs := by
    intro name hname
    rw [← Option.isSome_map, ← h.types name hname, Option.isSome_map]
    exact hg.inputs name hname

/-- One change that the condition of a job does not notice. A job or an input comes under a name
that was free, one goes that the condition does not name, or one is changed in something that is
not seen of it; and whatever a workflow has besides its jobs is not seen at all. -/
inductive Unnoticed (job : String) (c : Condition) :
    Dictionary Input × Workflow → Dictionary Input × Workflow → Prop where
  | addJob {inputs : Dictionary Input} {w : Workflow} {key : String} {new : Job}
      (hfree : w.jobs.get? key = none) : Unnoticed job c (inputs, w) (inputs, w.putJob key new)
  | changeJob {inputs : Dictionary Input} {w : Workflow} {key : String} {old new : Job}
      (hold : w.jobs.get? key = some old) (hslots : key = c.dependency → new.slots = old.slots)
      (hdependencies : key = job → new.dependencies = old.dependencies) :
      Unnoticed job c (inputs, w) (inputs, w.putJob key new)
  | removeJob {inputs : Dictionary Input} {w w' : Workflow} {key : String}
      (hdependency : key ≠ c.dependency) (hjob : key ≠ job) (hw : w.removeJob? key = some w') :
      Unnoticed job c (inputs, w) (inputs, w')
  | addInput {inputs : Dictionary Input} {w : Workflow} {name : String} {new : Input}
      (hfree : inputs.get? name = none) : Unnoticed job c (inputs, w) (inputs.insert name new, w)
  | changeInput {inputs : Dictionary Input} {w : Workflow} {name : String} {old new : Input}
      (hold : inputs.get? name = some old) (htype : c.HasKeyName name → new.type = old.type) :
      Unnoticed job c (inputs, w) (inputs.insert name new, w)
  | removeInput {inputs : Dictionary Input} {w : Workflow} {name : String}
      (hname : ¬ c.HasKeyName name) : Unnoticed job c (inputs, w) (inputs.erase name, w)
  | besideJobs {inputs : Dictionary Input} {w w' : Workflow} (hjobs : w'.jobs = w.jobs) :
      Unnoticed job c (inputs, w) (inputs, w')

theorem seenAlike_putJob {key : String} {new : Job}
    (hslots : c.dependency = key → (w.jobs.get? c.dependency).map Job.slots = some new.slots)
    (hdependencies : job = key →
      (w.jobs.get? job).map Job.dependencies = some new.dependencies) :
    SeenAlike job c inputs inputs w (w.putJob key new) where
  slots := (Dictionary.map_get?_insert hslots).symm
  dependencies := (Dictionary.map_get?_insert hdependencies).symm
  types := fun _ _ => rfl

theorem seenAlike_insertInput {name : String} {new : Input}
    (htype : c.HasKeyName name → (inputs.get? name).map Input.type = some new.type) :
    SeenAlike job c inputs (inputs.insert name new) w w where
  slots := rfl
  dependencies := rfl
  types := by
    intro x hx
    refine (Dictionary.map_get?_insert ?_).symm
    rintro rfl
    exact htype hx

theorem ne_of_free {α : Type u} {d : Dictionary α} {name x : String} (hx : (d.get? x).isSome)
    (hfree : d.get? name = none) : x ≠ name := by
  rintro rfl
  rw [hfree] at hx
  cases hx

theorem seenAlike_of_unnoticed {s s' : Dictionary Input × Workflow}
    (hg : Grounded job c s.1 s.2) (h : Unnoticed job c s s') :
    SeenAlike job c s.1 s'.1 s.2 s'.2 := by
  cases h with
  | addJob hfree =>
    apply seenAlike_putJob
    -- what the condition names is there already, so the new job is none of it
    · exact fun hkey => absurd hkey (ne_of_free hg.dependency hfree)
    · exact fun hkey => absurd hkey (ne_of_free hg.job hfree)
  | changeJob hold hslots hdependencies =>
    apply seenAlike_putJob
    · rintro rfl
      rw [hold, Option.map_some, hslots rfl]
    · rintro rfl
      rw [hold, Option.map_some, hdependencies rfl]
  | @removeJob inputs w w' key hdependency hjob hw =>
    have hjobs : w'.jobs = w.jobs.erase key := by
      rw [Workflow.removeJob?] at hw
      split at hw
      · cases hw
        rfl
      · cases hw
    refine ⟨?_, ?_, fun _ _ => rfl⟩
    · rw [hjobs, Dictionary.get?_erase_of_ne hdependency.symm]
    · rw [hjobs, Dictionary.get?_erase_of_ne hjob.symm]
  | addInput hfree =>
    apply seenAlike_insertInput
    exact fun hname => absurd rfl (ne_of_free (hg.inputs _ hname) hfree)
  | changeInput hold htype =>
    apply seenAlike_insertInput
    intro hname
    rw [hold, Option.map_some, htype hname]
  | @removeInput inputs w name hname =>
    refine ⟨rfl, rfl, ?_⟩
    intro x hx
    have hne : x ≠ name := by
      rintro rfl
      exact hname hx
    rw [Dictionary.get?_erase_of_ne hne]
  | besideJobs hjobs => exact ⟨by rw [hjobs], by rw [hjobs], fun _ _ => rfl⟩

/-- The invariant of a run of such changes is that all looks as it did before the first. -/
theorem seenAlike_of_changes {s s' : Dictionary Input × Workflow} (hg : Grounded job c s.1 s.2)
    (h : Relation.ReflTransGen (Unnoticed job c) s s') : SeenAlike job c s.1 s'.1 s.2 s'.2 := by
  induction h with
  | refl => exact .refl job c s.1 s.2
  | tail _ hchange ih => exact ih.trans (seenAlike_of_unnoticed (hg.of_seenAlike ih) hchange)

/-- Surroundings that look the same from the condition of a job have the same errors of it. Where
all is there that the condition names, no run of changes that it does not notice adds an error or
takes one away. -/
theorem errors_local (job : String) (c : Condition) (inputs inputs' : Dictionary Input)
    (w w' : Workflow) :
    (SeenAlike job c inputs inputs' w w' →
      errors job (some c) inputs w = errors job (some c) inputs' w') ∧
    (Grounded job c inputs w →
      Relation.ReflTransGen (Unnoticed job c) (inputs, w) (inputs', w') →
        errors job (some c) inputs w = errors job (some c) inputs' w') :=
  ⟨errors_congr, fun hg h => errors_congr (seenAlike_of_changes hg h)⟩

/- A condition with two errors: in another workflow that looks the same, and after two changes. -/

def stagedJob (commands : List String) (image : Option String) : Job :=
  ⟨"stage", image, commands, none, [], none⟩

def staged (image : Option String) : Workflow :=
  { Workflow.empty with
    jobs := .ofList [("build", stagedJob ["make", "pack"] image), ("test", stagedJob [] image)] }

def countInput (default : Value) : Input := ⟨"count", .number, "", default⟩

def countInputs : Dictionary Input := .ofList [("count", countInput .null)]

def onCount : Condition := ⟨"build", [⟨.placeholder "count", .literal "Exists", []⟩]⟩

theorem errors_local_staged : ∃ es, es.map Error.cause =
      [.wrongType (.placeholder "count") ["string"] .number, .severalCommands "build"] ∧
    errors "test" (some onCount) countInputs (staged none) = es ∧
    errors "test" (some onCount) countInputs (staged (some "alpine")) = es ∧
    errors "test" (some onCount) (countInputs.insert "count" (countInput (.text "7")))
      ((staged none).putJob "audit" (stagedJob ["scan"] none)) = es := by
  have hseen : SeenAlike "test" onCount countInputs countInputs (staged none)
      (staged (some "alpine")) := ⟨rfl, rfl, fun _ _ => rfl⟩
  have hgrounded : Grounded "test" onCount countInputs (staged none) := by
    refine ⟨rfl, rfl, ?_⟩
    intro name ⟨clause, hclause, hkey⟩
    obtain rfl := List.mem_singleton.1 hclause
    cases hkey
    rfl
  have hchanges : Relation.ReflTransGen (Unnoticed "test" onCount) (countInputs, staged none)
      (countInputs.insert "count" (countInput (.text "7")),
        (staged none).putJob "audit" (stagedJob ["scan"] none)) :=
    .tail (.single (.addJob rfl)) (.changeInput rfl (fun _ => rfl))
  exact ⟨_, by decide, rfl, ((errors_local ..).1 hseen).symm,
    ((errors_local ..).2 hgrounded hchanges).symm⟩

end JobGate.Condition

import JobGate.Condition.Error
/-! Validation before anything is bound. Every clause is looked at, field by field, and then the
shape of the workflow around the condition; all errors are told, in that order. -/
namespace JobGate.Condition

def inputCause? (inputs : Dictionary Input) (allowed : List String) (name : String) :
    Option Cause :=
  match inputs.get? name with
  | none => some (.undeclared (.placeholder name))
  | some input =>
    if input.type.name ∈ allowed then none
    else some (.wrongType (.placeholder name) allowed input.type)

/-- The types of the inputs that may stand for a key. -/
def keyTypes : List String := [InputType.string.name]

def keyCause? (inputs : Dictionary Input) : Variant → Option Cause
  | .literal _ => none
  | .placeholder name => inputCause? inputs keyTypes name

def operatorCause? : Variant → Option Cause
  | .placeholder _ => some .misplacedPlaceholder
  | .literal s => if s ∈ Operator.names then none else some (.unknownOperator s)

def valueCause? : Variant → Option Cause
  | .placeholder _ => some .misplacedPlaceholder
  | .literal _ => none

def clauseCauses (inputs : Dictionary Input) (clause : Clause) (i : Nat) : List (Place × Cause) :=
  ((keyCause? inputs clause.key).map (Place.key i, ·)).toList ++
    ((operatorCause? clause.operator).map (Place.operator i, ·)).toList ++
    clause.values.zipIdx.filterMap (fun (v, j) => (valueCause? v).map (Place.value i j, ·))

/-- The first thing that is wrong with the jobs around a condition: the job depended on is there and
has no more than one command of any sort, and the job itself is there and depends on that one alone,
as a whole. -/
def dependencyCause? (w : Workflow) (job dependency : String) : Option Cause :=
  match w.jobs.get? dependency with
  | none => some (.missingDependency job dependency)
  | some target =>
    if target.slots.any (1 < ·) then some (.severalCommands dependency)
    else
      match w.jobs.get? job with
      | none => some (.missingJob job)
      | some current =>
        match current.dependencies with
        | [d] =>
          if d = ⟨dependency, .whole⟩ then none else some (.wrongDependency job dependency)
        | found => some (.notOneDependency job found)

def dependencyError? (base job dependency : String) (w : Workflow) : Option Error :=
  (dependencyCause? w job dependency).map (⟨⟨base, .whole⟩, ·⟩)

def clauseErrors (base : String) (inputs : Dictionary Input) (clauses : List Clause) :
    List Error :=
  clauses.zipIdx.flatMap (fun (clause, i) =>
    (clauseCauses inputs clause i).map (fun (place, cause) => ⟨⟨base, place⟩, cause⟩))

/-- Every error of the condition of a job; a job without one has none. -/
def errors (job : String) (condition : Option Condition) (inputs : Dictionary Input)
    (w : Workflow) : List Error :=
  match condition with
  | none => []
  | some c =>
    clauseErrors (baseOf job) inputs c.clauses ++
      (dependencyError? (baseOf job) job c.dependency w).toList

end JobGate.Condition

namespace JobGate.Workflow

/-- The errors of all conditions, in the order of the names under which their jobs stand. -/
def conditionErrors (w : Workflow) : List Condition.Error :=
  w.conditionalJobs.flatMap (fun job => Condition.errors job.name job.condition w.inputs w)

end JobGate.Workflow

import JobGate.Condition.Error
import JobGate.Requirement.Evaluation
/-! Instantiation of a condition when its job is dispatched. Clauses are built one after the other;
the first one that cannot be built is the failure, and then there is no result. -/
namespace JobGate

/-- The requirements that a condition came to, all of which have to hold. -/
structure CompiledCondition where
  dependency : String
  requirements : List Requirement
  deriving DecidableEq, Repr

namespace CompiledCondition

/-- Requirements are looked at in order, up to the first that does not hold. -/
def holdsAll (labels : Labels) : List Requirement → Except Requirement.Fault Bool
  | [] => .ok true
  | r :: rest => do if ← r.holds labels then holdsAll labels rest else return false

def holds (c : CompiledCondition) (labels : Labels) : Except Requirement.Fault Bool :=
  holdsAll labels c.requirements

def selector (c : CompiledCondition) : String :=
  ",".intercalate (c.requirements.map Requirement.selector)

end CompiledCondition

namespace Condition

inductive Obstacle where
  | unbound (placeholder : Variant)
  | misplacedPlaceholder
  | requirement (problems : List Problem)
  deriving DecidableEq, Repr

def Obstacle.message : Obstacle → String
  | .unbound placeholder => "no value bound for variant " ++ placeholder.text
  | .misplacedPlaceholder => "should not be variant"
  | .requirement problems => Problem.messages problems

inductive Failure where
  | refused (path : Path) (obstacle : Obstacle)
  | numeral (f : Numeral.Fault)
  deriving DecidableEq, Repr

def Failure.ofResolve (path : Path) : Variant.ResolveFault → Failure
  | .unbound name => .refused path (.unbound (.placeholder name))
  | .numeral f => .numeral f

def Failure.ofRefusal (path : Path) : Requirement.Refusal → Failure
  | .problems ps => .refused path (.requirement ps)
  | .numeral f => .numeral f

def literal (path : Path) : Variant → Except Failure String
  | .literal s => .ok s
  | .placeholder _ => .error (.refused path .misplacedPlaceholder)

def literals (base : String) (i : Nat) (values : List (Variant × Nat)) :
    Except Failure (List String) :=
  values.mapM (fun (v, j) => literal ⟨base, .value i j⟩ v)

def compileClause (base : String) (data : Bindings) (clause : Clause) (i : Nat) :
    Except Failure Requirement := do
  let key ← (clause.key.resolve data).mapError (.ofResolve ⟨base, .key i⟩)
  let operator ← literal ⟨base, .operator i⟩ clause.operator
  let values ← literals base i clause.values.zipIdx
  (Requirement.build key operator values).mapError (.ofRefusal ⟨base, .clause i⟩)

def compileClauses (base : String) (data : Bindings) (clauses : List Clause) :
    Except Failure (List Requirement) :=
  clauses.zipIdx.mapM (fun (clause, i) => compileClause base data clause i)

def compile (base : String) (condition : Condition) (data : Bindings) :
    Except Failure CompiledCondition := do
  return ⟨condition.dependency, ← compileClauses base data condition.clauses⟩

def compile? (base : String) (condition : Option Condition) (data : Bindings) :
    Except Failure (Option CompiledCondition) :=
  match condition with
  | none => .ok none
  | some c => (c.compile base data).map some

end Condition
end JobGate

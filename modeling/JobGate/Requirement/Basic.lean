import JobGate.Requirement.Problem
/-! Requirements on the labels of a finished job: a key, an operator and values. `build` makes one
of a clause's texts, or tells every problem that it finds with them; a requirement that was built
has its values in ascending order. -/
namespace JobGate

structure Requirement where
  key : String
  operator : Operator
  values : List String
  deriving DecidableEq, Repr

namespace Requirement

inductive Refusal where
  | problems (ps : List Problem)
  | numeral (f : Numeral.Fault)
  deriving DecidableEq, Repr

def keyProblems (key : String) : List Problem :=
  (Label.keyFaults key.toList).map (Problem.badKey key)

def valueProblem? (value : String) : Option Problem :=
  (Label.valueFault? value.toList).map (Problem.badValue value)

def valueProblems (values : List String) : List Problem := values.filterMap valueProblem?

/-- How many values an operator wants. -/
def arityProblem? (op : Operator) (values : List String) : Option Problem :=
  match op with
  | .oneOf | .noneOf => if values = [] then some (.noValues op) else none
  | .present | .absent => if values = [] then none else some (.unexpectedValues op)
  | .greater | .less => if values.length = 1 then none else some (.notOneValue op)

/-- The values that are no integers, each time one comes. -/
def notIntegers (op : Operator) : List String → Except Numeral.Fault (List Problem)
  | [] => .ok []
  | value :: rest => do
    let n ← Numeral.readStrict value
    let ps ← notIntegers op rest
    return if n.isNone then .notInteger op value :: ps else ps

def integerProblems (op : Operator) (values : List String) : Except Numeral.Fault (List Problem) :=
  match op with
  | .greater | .less => notIntegers op values
  | _ => .ok []

/-- Every problem of a clause with a known operator, in the order in which they are told. -/
def problems (key : String) (op : Operator) (values : List String) :
    Except Numeral.Fault (List Problem) :=
  (integerProblems op values).map (fun integers =>
    keyProblems key ++ (arityProblem? op values).toList ++ integers ++ valueProblems values)

/-- With an operator that is not known the values are not looked at. -/
def build (key operator : String) (values : List String) : Except Refusal Requirement :=
  match Operator.ofName? operator with
  | none => .error (.problems (keyProblems key ++ [.unknownOperator operator]))
  | some op =>
    match problems key op values with
    | .error f => .error (.numeral f)
    | .ok [] => .ok ⟨key, op, values.mergeSort⟩
    | .ok (p :: ps) => .error (.problems (p :: ps))

end Requirement
end JobGate

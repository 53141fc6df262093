import JobGate.Dictionary
import JobGate.Variant.Basic
/-! Workflows: inputs and jobs under names. Jobs refer to each other by name only, so a name may
lead nowhere. A job may carry a condition on the result of another. -/
namespace JobGate

/-- The declared type of an input; a type that is not one of the four keeps its name. -/
inductive InputType where
  | string | number | bool | array
  | other (name : String)
  deriving DecidableEq, Repr

namespace InputType

def name : InputType → String
  | .string => "string"
  | .number => "number"
  | .bool => "bool"
  | .array => "array"
  | .other name => name

def declared : List InputType := [.string, .number, .bool, .array]

def ofName? (s : String) : Option InputType := declared.find? (fun t => t.name = s)

def ofName (s : String) : InputType := (ofName? s).getD (.other s)

end InputType

structure Input where
  name : String
  type : InputType
  description : String
  default : Value
  deriving Repr

inductive Extent where
  | whole | iterate
  | other (name : Option String)
  deriving DecidableEq, Repr

namespace Extent

def name? : Extent → Option String
  | .whole => some "whole"
  | .iterate => some "iterate"
  | .other name => name

def declared : List Extent := [.whole, .iterate]

def ofName? (s : String) : Option Extent := declared.find? (fun t => t.name? = some s)

def ofName (s : Option String) : Extent := (s.bind ofName?).getD (.other s)

end Extent

structure Dependency where
  target : String
  extent : Extent
  deriving DecidableEq, Repr

structure Iteration where
  command : String
  rows : List (List Value)
  nestedRows : List (List Value)
  deriving Repr

structure Clause where
  key : Variant
  operator : Variant
  values : List Variant
  deriving DecidableEq, Repr

/-- All clauses have to hold for the labels of the job that is depended on. -/
structure Condition where
  dependency : String
  clauses : List Clause
  deriving DecidableEq, Repr

structure Job where
  name : String
  image : Option String
  commands : List String
  iteration : Option Iteration
  dependencies : List Dependency
  condition : Option Condition
  deriving Repr

def Job.slots (job : Job) : List Nat :=
  match job.iteration with
  | none => [job.commands.length, 0, 0]
  | some it => [job.commands.length, it.rows.length, it.nestedRows.length]

structure Workflow where
  version : String
  inputs : Dictionary Input
  jobs : Dictionary Job

namespace Workflow

def empty : Workflow := ⟨"", .empty, .empty⟩

def jobNames (w : Workflow) : List String := w.jobs.names.mergeSort

/-- The jobs with a condition, in the order of the names under which they stand. -/
def conditionalJobs (w : Workflow) : List Job :=
  (w.jobNames.filterMap w.jobs.get?).filter (fun job => job.condition.isSome)

end Workflow
end JobGate

import JobGate.Condition.Instantiation
import JobGate.Condition.Validation
import JobGate.Workflow.Edit
/-! Sessions: a workflow that is changed step by step, and the conditions that were instantiated
from it, kept under names. What is kept does not change with the workflow. -/
namespace JobGate

structure Session where
  workflow : Workflow
  kept : Dictionary (Option CompiledCondition)

namespace Session

inductive Step where
  | putJob (key : String) (job : Job)
  | removeJob (key : String)
  | putInput (input : Input)
  | removeInput (name : String)
  | updateJob (key : String) (change : Job → Job)
  | validate
  | validateJob (key : String)
  | checkDependency (base job dependency : String)
  | instantiate (key label : String) (data : Bindings)
  | recall (label : String)
  | show (key : String)

inductive Fault where
  | missing (name : String)
  | condition (f : Condition.Failure)

inductive Reply where
  | changed (w : Workflow)
  | errors (es : List Condition.Error)
  | dependency (e : Option Condition.Error)
  | compiled (c : Option CompiledCondition)
  | recalled (c : Option CompiledCondition)
  | job (job : Job)

def start (w : Workflow) : Session := ⟨w, .empty⟩

def changeTo (s : Session) (name : String) : Option Workflow → Except Fault Reply × Session
  | some w => (.ok (.changed w), { s with workflow := w })
  | none => (.error (.missing name), s)

def withJob (s : Session) (key : String) (f : Job → Reply) : Except Fault Reply :=
  match s.workflow.jobs.get? key with
  | some job => .ok (f job)
  | none => .error (.missing key)

/-- What was kept under `label` is forgotten, also when there is nothing new to keep. -/
def instantiate (s : Session) (key label : String) (data : Bindings) :
    Except Fault Reply × Session :=
  let s := { s with kept := s.kept.erase label }
  match s.workflow.jobs.get? key with
  | none => (.error (.missing key), s)
  | some job =>
    match Condition.compile? (Condition.baseOf key) job.condition data with
    | .error f => (.error (.condition f), s)
    | .ok c => (.ok (.compiled c), { s with kept := s.kept.insert label c })

def step (s : Session) : Step → Except Fault Reply × Session
  | .putJob key job => s.changeTo key (some (s.workflow.putJob key job))
  | .removeJob key => s.changeTo key (s.workflow.removeJob? key)
  | .putInput input => s.changeTo input.name (some (s.workflow.putInput input))
  | .removeInput name => s.changeTo name (s.workflow.removeInput? name)
  | .updateJob key change => s.changeTo key (s.workflow.updateJob? key change)
  | .validate => (.ok (.errors s.workflow.conditionErrors), s)
  | .validateJob key =>
    (s.withJob key (fun job =>
      .errors (Condition.errors key job.condition s.workflow.inputs s.workflow)), s)
  | .checkDependency base job dependency =>
    (.ok (.dependency (Condition.dependencyError? base job dependency s.workflow)), s)
  | .instantiate key label data => s.instantiate key label data
  | .recall label =>
    (match s.kept.get? label with
      | some c => .ok (.recalled c)
      | none => .error (.missing label), s)
  | .show key => (s.withJob key .job, s)

def run (s : Session) (steps : List Step) : Session := steps.foldl (fun s a => (s.step a).2) s

end Session
end JobGate

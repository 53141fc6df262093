import JobGate.Workflow.Basic
/-! Changes to a workflow. A change to a job that is not there has no result. -/
namespace JobGate.Workflow

def putJob (w : Workflow) (key : String) (job : Job) : Workflow :=
  { w with jobs := w.jobs.insert key job }

def putInput (w : Workflow) (input : Input) : Workflow :=
  { w with inputs := w.inputs.insert input.name input }

def removeJob? (w : Workflow) (key : String) : Option Workflow :=
  if w.jobs.contains key then some { w with jobs := w.jobs.erase key } else none

def removeInput? (w : Workflow) (name : String) : Option Workflow :=
  if w.inputs.contains name then some { w with inputs := w.inputs.erase name } else none

def updateJob? (w : Workflow) (key : String) (f : Job → Job) : Option Workflow :=
  (w.jobs.get? key).map (fun job => w.putJob key (f job))

end JobGate.Workflow

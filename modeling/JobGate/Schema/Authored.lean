import JobGate.Schema.Workflow
/-! The authored form of a workflow: what a file says that describes it. Every field is given, also
where it is what is taken in its absence. -/
namespace JobGate
namespace Value

def record (fields : List (String × Value)) : Value := .map (fields.map (fun f => (.text f.1, f.2)))

def texts (ss : List String) : Value := .list (ss.map .text)

def orNull (write : α → Value) : Option α → Value
  | none => .null
  | some a => write a

end Value

open Value

def Dictionary.authored (write : α → Value) (d : Dictionary α) : Value :=
  record (d.entries.map (fun e => (e.1, write e.2)))

def Input.authored (input : Input) : Value :=
  record [("type", .text input.type.name), ("default", input.default),
    ("description", .text input.description)]

def Clause.authored (clause : Clause) : Value :=
  record [("key", .text clause.key.text), ("operator", .text clause.operator.text),
    ("values", texts (clause.values.map Variant.text))]

def Condition.authored (c : Condition) : Value :=
  record [("depend_job", .text c.dependency),
    ("result_match", .list (c.clauses.map Clause.authored))]

def Iteration.authored (it : Iteration) : Value :=
  record [("command", .text it.command), ("vars", .list (it.rows.map .list)),
    ("vars_iter", .list (it.nestedRows.map .list))]

def Dependency.authored (d : Dependency) : Value :=
  record [("target", .text d.target), ("type", orNull .text d.extent.name?)]

def Job.authored (job : Job) : Value :=
  record [("image", orNull .text job.image), ("commands", texts job.commands),
    ("commands_iter", orNull Iteration.authored job.iteration),
    ("depends", .list (job.dependencies.map Dependency.authored)),
    ("condition", orNull Condition.authored job.condition)]

def Workflow.authored (w : Workflow) : Schema.Fields :=
  [(.text "version", .text w.version), (.text "inputs", w.inputs.authored Input.authored),
    (.text "jobs", w.jobs.authored Job.authored)]

end JobGate

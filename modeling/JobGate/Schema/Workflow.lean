import JobGate.Schema.Reader
import JobGate.Workflow.Basic
/-! The form of a workflow file. Fields that are not mentioned here are ignored. A dependency may
be the bare name of a job. The values of a clause may be one value in place of a list, and each may
be of any sort: what counts is its text. -/
namespace JobGate.Schema

def readInput (name : String) : Value → Checked Input :=
  readRecord .input fun fields =>
    let type := fields.optional "type" .string
      (readChoice InputType.ofName? (InputType.declared.map InputType.name))
    let default := fields.optional "default" .null readAny
    let description := fields.optional "description" "" readText
    (type.and Prod.mk default).and (fun (t, v) d => ⟨name, t, d, v⟩) description

def readValues (v : Value) : Checked (List Variant) :=
  let items := match v.unfold with
    | .null => []
    | .list items => items
    | _ => [v]
  match Value.writtenAll items with
  | .ok texts => .valid (texts.map Variant.ofText)
  | .error f => .fail (.unwritable f)

/-- An operator that is not given is an empty one. -/
def readClause : Value → Checked Clause :=
  readRecord .clause fun fields =>
    let key := fields.required "key" readText
    let operator := fields.optional "operator" none (readNullable readText)
    let values := fields.optional "values" [] readValues
    (key.and Prod.mk operator).and
      (fun (k, op) vs => ⟨Variant.ofText k, Variant.ofText (op.getD ""), vs⟩) values

def readCondition : Value → Checked Condition :=
  readRecord .condition fun fields =>
    (fields.required "depend_job" readText).and Condition.mk
      (fields.optional "result_match" [] (readList readClause))

def readIteration : Value → Checked Iteration :=
  readRecord .iteration fun fields =>
    let command := fields.optional "command" "" readText
    let rows := fields.optional "vars" [] (readList (readList readAny))
    let nestedRows := fields.optional "vars_iter" [] (readList (readList readAny))
    (command.and Prod.mk rows).and (fun (c, rs) ns => ⟨c, rs, ns⟩) nestedRows

def readDependencyRecord : Value → Checked Dependency :=
  readRecord .dependency fun fields =>
    (fields.required "target" readText).and Dependency.mk
      (fields.optional "type" .whole
        (readChoice Extent.ofName? (Extent.declared.filterMap Extent.name?)))

/-- What is neither a name nor a dependency is told as both. -/
def readDependency (v : Value) : Checked Dependency :=
  match v, readDependencyRecord v with
  | .text s, _ => .valid ⟨s, .whole⟩
  | _, .valid d => .valid d
  | _, c =>
    let asText : Checked String := (readText v).under (.name "str")
    asText.and (fun _ d => d) (c.under (.name Record.dependency.name))

def readJob (name : String) : Value → Checked Job :=
  readRecord .job fun fields =>
    let image := fields.optional "image" none (readNullable readText)
    let commands := fields.optional "commands" [] (readList readText)
    let iteration := fields.optional "commands_iter" none (readNullable readIteration)
    let dependencies := fields.optional "depends" [] (readList readDependency)
    let condition := fields.optional "condition" none (readNullable readCondition)
    ((image.and Prod.mk commands).and Prod.mk (iteration.and Prod.mk dependencies)).and
      (fun ((i, cs), it, ds) c => ⟨name, i, cs, it, ds, c⟩) condition

/-- That there is a job at all is looked at last. -/
def readWorkflow (fields : Fields) : Checked Workflow :=
  let version := fields.optional "version" "" readText
  let inputs := fields.optional "inputs" .empty (readMap readInput)
  let jobs := fields.optional "jobs" .empty (readMap readJob)
  ((version.and Prod.mk inputs).and (fun (v, is) js => (⟨v, is, js⟩ : Workflow)) jobs).ensure
    (fun w => !w.jobs.isEmpty) .noJobs

end JobGate.Schema

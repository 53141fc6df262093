import JobGate.Files.FileTree
import JobGate.Schema.Workflow
import JobGate.Yaml.Document
/-! Loading a workflow from a file. Most faults are told as a load error, but not a file name that
is too long, a name at the top that is no text, or a scalar that cannot be read. -/
namespace JobGate

/-- Why a load fails, without the details that the readers of bytes and of YAML add. -/
inductive LoadError.Reason where
  | notFound
  | unreadable
  | notYaml
  | notMap
  | violations (vs : List Schema.Violation)

structure LoadError where
  path : FilePath
  reason : LoadError.Reason

namespace LoadError

def Reason.text : Reason → String
  | .notFound => "file not found"
  | .unreadable => "cannot read file"
  | .notYaml => "invalid YAML"
  | .notMap => "top level must be a mapping"
  | .violations vs =>
    s!"{vs.length} validation error" ++ (if vs.length = 1 then "" else "s") ++
      " for WorkflowDefinition"

def told (path : FilePath) (reason : String) : String :=
  "Failed to load workflow " ++ path.text ++ ": " ++ reason

def message (e : LoadError) : String := told e.path e.reason.text

end LoadError

inductive LoadFault where
  | refused (e : LoadError)
  | path (f : PathFault)
  | nonTextName
  | scalar (f : Yaml.ScalarFault)

def LoadFault.message : LoadFault → String
  | .refused e => e.message
  | .path f => f.message
  | .nonTextName => "keywords must be strings"
  | .scalar f => f.message

namespace Loading

def refuse (path : FilePath) (reason : LoadError.Reason) : Except LoadFault α :=
  .error (.refused ⟨path, reason⟩)

def isTextKey : Scalar → Bool
  | .text _ => true
  | _ => false

def ofFields (path : FilePath) (fields : Schema.Fields) : Except LoadFault Workflow :=
  if fields.all (fun f => isTextKey f.1) then
    match Schema.readWorkflow fields with
    | .valid w => .ok w
    | .invalid first rest => refuse path (.violations (first :: rest))
  else .error .nonTextName

/-- The workflow that a document describes; one that is blank counts as an empty map. -/
def ofValue (path : FilePath) (v : Value) : Except LoadFault Workflow :=
  if v.isBlank then ofFields path []
  else
    match v.unfold with
    | .map fields => ofFields path fields
    | _ => refuse path .notMap

def ofBytes (path : FilePath) (bytes : ByteArray) : Except LoadFault Workflow :=
  let e := Text.readable bytes
  match Yaml.read e.text (if e.complete then none else some .unreadable) with
  | .ok v => ofValue path v
  | .error .malformed => refuse path .notYaml
  | .error .unreadable => refuse path .unreadable
  | .error (.scalar f) => .error (.scalar f)

def ofEntry (path : FilePath) : Entry → Except LoadFault Workflow
  | .directory _ => refuse path .unreadable
  | .file bytes _ => ofBytes path bytes

/-- The entry at a path. Only that a name is too long is told for itself. -/
def entry (t : FileTree) (path : FilePath) : Except LoadFault Entry :=
  match t.find? path with
  | .ok (some e) => .ok e
  | .error (.nameTooLong path) => .error (.path (.nameTooLong path))
  | _ => refuse path .notFound

end Loading

/-- The workflow in the file at a path. That there is none is told of the path as it was given, all
else of where it leads. -/
def FileTree.load (t : FileTree) (path : FilePath) : Except LoadFault Workflow := do
  Loading.ofEntry path.resolve (← Loading.entry t path)

end JobGate

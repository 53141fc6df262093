import JobGate.CommandLine.Output
import JobGate.Condition.Instantiation
import JobGate.Condition.Validation
import JobGate.Files.FilePath
/-! The two commands on a loaded workflow. The outcome is computed first, and how it is told and
which exit code it has follows from it alone. -/
namespace JobGate.CommandLine

def exitOk : Nat := 0
def exitInvalid : Nat := 1
def exitUnusable : Nat := 2

structure Report where
  exit : Nat
  prints : List Print
  deriving DecidableEq, Repr

def errorRow (e : Condition.Error) : List String :=
  [e.report.path, e.report.kind.name, e.report.message]

def errorTable (es : List Condition.Error) : Print :=
  .table ⟨"Condition errors", ["Path", "Kind", "Message"], es.map errorRow⟩

def validation (w : Workflow) : Report :=
  match w.conditionErrors with
  | [] =>
    ⟨exitOk, [.styled .green s!"✓ {w.conditionalJobs.length} condition(s) valid"]⟩
  | es => ⟨exitInvalid, [errorTable es, .styled .red s!"✗ {es.length} error(s) found"]⟩

/- Instantiation. -/

def defaultTexts : List (String × Input) → Except Numeral.Fault (List (String × Value))
  | [] => .ok []
  | (name, input) :: rest =>
    match input.default with
    | .null => defaultTexts rest
    | v => do return (name, .text (← v.written)) :: (← defaultTexts rest)

/-- What names are bound to: what is given, and else the text of the default. -/
def bindingsOf (w : Workflow) (given : Dictionary String) : Except Numeral.Fault Bindings := do
  let defaults ← defaultTexts w.inputs.entries
  return .ofList (defaults ++ (given.map Value.text).entries)

inductive Instantiation where
  | missingJob
  | unconditional
  | invalid (errors : List Condition.Error)
  | refused (path : Condition.Path) (obstacle : Condition.Obstacle)
  | compiled (c : CompiledCondition)
  deriving DecidableEq, Repr

def instantiateJob (w : Workflow) (name : String) (data : Bindings) :
    Except Numeral.Fault Instantiation :=
  match w.jobs.get? name with
  | none => .ok .missingJob
  | some job =>
    match job.condition with
    | none => .ok .unconditional
    | some c =>
      match Condition.errors job.name (some c) w.inputs w with
      | [] =>
        match c.compile (Condition.baseOf name) data with
        | .ok c => .ok (.compiled c)
        | .error (.refused path obstacle) => .ok (.refused path obstacle)
        | .error (.numeral f) => .error f
      | es => .ok (.invalid es)

def instantiation (w : Workflow) (name : String) (given : Dictionary String) :
    Except Numeral.Fault Instantiation := do
  instantiateJob w name (← bindingsOf w given)

def requirementRow (r : Requirement) : List String :=
  [r.key, r.operator.name, ", ".intercalate r.values]

def Instantiation.report (file : FilePath) (name : String) : Instantiation → Report
  | .missingJob =>
    ⟨exitInvalid, [.styled .red s!"Error: job '{name}' not found in {file.text}"]⟩
  | .unconditional => ⟨exitOk, [.styled .dim s!"Job '{name}' has no condition"]⟩
  | .invalid es => ⟨exitInvalid, [errorTable es]⟩
  | .refused path obstacle =>
    ⟨exitInvalid, [.styled .red ("Error: " ++ Condition.located path.text obstacle.message)]⟩
  | .compiled c =>
    ⟨exitOk, [
      .table ⟨s!"Condition of '{name}' on '{c.dependency}'", ["Key", "Operator", "Values"],
        c.requirements.map requirementRow⟩,
      .line [⟨some .bold, "Selector:"⟩, ⟨none, " " ++ c.selector⟩]]⟩

end JobGate.CommandLine

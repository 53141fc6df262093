import JobGate.Operator
import JobGate.Workflow.Basic
/-! Errors in a condition. Each has a place in the condition, a cause and the kind and the message
that follow from the cause. -/
namespace JobGate.Condition

inductive Place where
  | whole
  | clause (i : Nat)
  | key (i : Nat)
  | operator (i : Nat)
  | value (i j : Nat)
  deriving DecidableEq, Repr

/-- A place in the condition that stands at `base`. -/
structure Path where
  base : String
  place : Place
  deriving DecidableEq, Repr

def clauseText (i : Nat) : String := s!".resultmatch[{i}]"

def Place.text : Place → String
  | .whole => ""
  | .clause i => clauseText i
  | .key i => clauseText i ++ ".key"
  | .operator i => clauseText i ++ ".operator"
  | .value i j => clauseText i ++ s!".value[{j}]"

def Path.text (p : Path) : String := p.base ++ p.place.text

def baseOf (job : String) : String := s!"workflow.{job}.condition"

inductive Kind where
  | missingDependency | dependencyShape | variantUsage | operator
  deriving DecidableEq, Repr

namespace Kind

def name : Kind → String
  | .missingDependency => "missing_dependency"
  | .dependencyShape => "dependency_shape"
  | .variantUsage => "variant_usage"
  | .operator => "operator"

def all : List Kind := [.missingDependency, .dependencyShape, .variantUsage, .operator]

def ofName? (s : String) : Option Kind := all.find? (fun k => k.name = s)

end Kind

inductive Cause where
  | missingDependency (job dependency : String)
  | severalCommands (dependency : String)
  | missingJob (job : String)
  | notOneDependency (job : String) (found : List Dependency)
  | wrongDependency (job dependency : String)
  | undeclared (placeholder : Variant)
  | wrongType (placeholder : Variant) (allowed : List String) (found : InputType)
  | misplacedPlaceholder
  | unknownOperator (name : String)
  deriving DecidableEq, Repr

namespace Cause

def kind : Cause → Kind
  | .missingDependency .. | .missingJob .. => .missingDependency
  | .severalCommands .. | .notOneDependency .. | .wrongDependency .. => .dependencyShape
  | .undeclared .. | .wrongType .. | .misplacedPlaceholder => .variantUsage
  | .unknownOperator .. => .operator

def dependencyText (d : Dependency) : String :=
  "(" ++ Text.quoted d.target ++ ", " ++ ((d.extent.name?.map Text.quoted).getD "None") ++ ")"

def message : Cause → String
  | .missingDependency job dependency => s!"job '{job}' depends on missing job '{dependency}'"
  | .severalCommands dependency => s!"dependency job '{dependency}' has more than one command"
  | .missingJob job => s!"job '{job}' is missing from the workflow"
  | .notOneDependency job found =>
    s!"job '{job}' must have exactly one dependency, got " ++
      Text.bracketed (found.map dependencyText)
  | .wrongDependency job dependency =>
    s!"dependency of job '{job}' on '{dependency}' has the wrong type, expected 'whole'"
  | .undeclared placeholder => "the variant " ++ placeholder.text ++ " is not defined in inputs"
  | .wrongType placeholder allowed found =>
    "the type of variant " ++ placeholder.text ++ " should be one of " ++
      Text.bracketed (allowed.map Text.quoted) ++ ", got '" ++ found.name ++ "'"
  | .misplacedPlaceholder => "should not be variant"
  | .unknownOperator name =>
    "should only be " ++ ",".intercalate Operator.names ++ s!", got '{name}'"

end Cause

structure Error where
  path : Path
  cause : Cause
  deriving DecidableEq, Repr

/-- An error as it is reported: all in texts, but for the kind. -/
structure Report where
  path : String
  kind : Kind
  message : String
  deriving DecidableEq, Repr

def Error.report (e : Error) : Report := ⟨e.path.text, e.cause.kind, e.cause.message⟩

def located (path message : String) : String := path ++ ": " ++ message

namespace Report

def text (r : Report) : String := located r.path r.message

def record (r : Report) : String :=
  "ConditionError(path=" ++ Text.quoted r.path ++ ", kind=" ++ Text.quoted r.kind.name ++
    ", message=" ++ Text.quoted r.message ++ ")"

end Report
end JobGate.Condition

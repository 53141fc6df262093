import JobGate.Value.Written
/-! Checked readings of authored values. Readings of parts are put together so that no violation of
one part hides one of another: those of the whole are those of the parts, one after the other. -/
namespace JobGate.Schema

inductive Segment where
  | name (s : String)
  | index (n : Int)
  deriving DecidableEq, Repr

def Segment.text : Segment → String
  | .name s => s
  | .index n => toString n

inductive Record where
  | input | job | iteration | condition | clause | dependency
  deriving DecidableEq, Repr

def Record.name : Record → String
  | .input => "InputDefinition"
  | .job => "JobDefinition"
  | .iteration => "CommandsIterDefinition"
  | .condition => "ConditionDefinition"
  | .clause => "ResultMatchDefinition"
  | .dependency => "DependDefinition"

inductive Cause where
  | notText
  | notList
  | notMap
  | notRecord (r : Record)
  | missing
  | notOneOf (choices : List String)
  | unwritable (f : Numeral.Fault)
  | noJobs
  deriving DecidableEq, Repr

namespace Cause

def code : Cause → String
  | .notText => "string_type"
  | .notList => "list_type"
  | .notMap => "dict_type"
  | .notRecord _ => "model_type"
  | .missing => "missing"
  | .notOneOf _ => "enum"
  | .unwritable _ | .noJobs => "value_error"

def alternatives : List String → String
  | [] => ""
  | [c] => "'" ++ c ++ "'"
  | [c, d] => "'" ++ c ++ "' or '" ++ d ++ "'"
  | c :: rest => "'" ++ c ++ "', " ++ alternatives rest

def message : Cause → String
  | .notText => "Input should be a valid string"
  | .notList => "Input should be a valid list"
  | .notMap => "Input should be a valid dictionary"
  | .notRecord r => "Input should be a valid dictionary or instance of " ++ r.name
  | .missing => "Field required"
  | .notOneOf choices => "Input should be " ++ alternatives choices
  | .unwritable f => "Value error, " ++ f.message
  | .noJobs => "Value error, Workflow must define at least one job"

end Cause

structure Violation where
  location : List Segment
  cause : Cause
  deriving DecidableEq, Repr

namespace Violation

def under (s : Segment) (v : Violation) : Violation := { v with location := s :: v.location }

/-- Violations are told in the order of their locations, as texts, and then of their codes. -/
def le (v w : Violation) : Bool :=
  let a := v.location.map Segment.text
  let b := w.location.map Segment.text
  a < b || (a = b && v.cause.code ≤ w.cause.code)

def sort (vs : List Violation) : List Violation := vs.mergeSort le

end Violation

inductive Checked (α : Type u) where
  | valid (a : α)
  | invalid (first : Violation) (rest : List Violation)

namespace Checked
variable {α : Type u} {β : Type v}

def violations : Checked α → List Violation
  | .valid _ => []
  | .invalid first rest => first :: rest

def get? : Checked α → Option α
  | .valid a => some a
  | .invalid .. => none

def fail (cause : Cause) : Checked α := .invalid ⟨[], cause⟩ []

def map (f : α → β) : Checked α → Checked β
  | .valid a => .valid (f a)
  | .invalid first rest => .invalid first rest

def under (s : Segment) : Checked α → Checked α
  | .valid a => .valid a
  | .invalid first rest => .invalid (first.under s) (rest.map (·.under s))

def and (f : α → β → γ) : Checked α → Checked β → Checked γ
  | .valid a, .valid b => .valid (f a b)
  | .valid _, .invalid first rest => .invalid first rest
  | .invalid first rest, c => .invalid first (rest ++ c.violations)

/-- A further demand on what was read, looked at only if all else is valid. -/
def ensure (p : α → Bool) (cause : Cause) : Checked α → Checked α
  | .valid a => if p a then .valid a else fail cause
  | c => c

@[simp] theorem violations_map (f : α → β) (c : Checked α) :
    (c.map f).violations = c.violations := by
  cases c <;> rfl

@[simp] theorem violations_under (s : Segment) (c : Checked α) :
    (c.under s).violations = c.violations.map (·.under s) := by
  cases c <;> rfl

@[simp] theorem violations_and {γ : Type w} (f : α → β → γ) (c : Checked α) (d : Checked β) :
    (c.and f d).violations = c.violations ++ d.violations := by
  cases c <;> cases d <;> simp [and, violations]

@[simp] theorem get?_map (f : α → β) (c : Checked α) : (c.map f).get? = c.get?.map f := by
  cases c <;> rfl

@[simp] theorem get?_under (s : Segment) (c : Checked α) : (c.under s).get? = c.get? := by
  cases c <;> rfl

theorem get?_isSome_iff (c : Checked α) : c.get?.isSome ↔ c.violations = [] := by
  cases c <;> simp [get?, violations]

end Checked
end JobGate.Schema

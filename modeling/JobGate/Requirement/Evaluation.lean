import JobGate.Dictionary
import JobGate.Requirement.Basic
import JobGate.Value.Written
/-! Evaluating a requirement against labels, and its selector text. The order operators compare
integers: the label is read strictly from the text of its value, the bound leniently. Other
operators look only at whether the key is there and at values that are texts. -/
namespace JobGate

/-- What a finished job tells about its result. -/
abbrev Labels := Dictionary Value

namespace Requirement

inductive Fault where
  | noBound
  | numeral (f : Numeral.Fault)
  deriving DecidableEq, Repr

def bound (r : Requirement) : Except Fault Int :=
  match r.values with
  | [] => .error .noBound
  | v :: _ => (Numeral.readLenient v).mapError .numeral

/-- Whether the label is one of the values; a label that is no text equals none of them. -/
def isOneOf (r : Requirement) (labels : Labels) : Bool :=
  match labels.get? r.key with
  | some (.text s) => r.values.contains s
  | _ => false

/-- A label that is missing or no integer compares with nothing; then the bound is not read. -/
def compares (r : Requirement) (holds : Int → Int → Bool) (labels : Labels) : Except Fault Bool :=
  match labels.get? r.key with
  | none => .ok false
  | some v =>
    match v.written.bind Numeral.readStrict with
    | .error f => .error (.numeral f)
    | .ok none => .ok false
    | .ok (some n) => r.bound.map (holds n)

def holds (r : Requirement) (labels : Labels) : Except Fault Bool :=
  match r.operator with
  | .oneOf => .ok (r.isOneOf labels)
  | .noneOf => .ok (!r.isOneOf labels)
  | .present => .ok (labels.contains r.key)
  | .absent => .ok (!labels.contains r.key)
  | .greater => r.compares (fun n b => b < n) labels
  | .less => r.compares (fun n b => n < b) labels

def selector (r : Requirement) : String :=
  match r.operator with
  | .oneOf => r.key ++ " in (" ++ ",".intercalate r.values ++ ")"
  | .noneOf => r.key ++ " notin (" ++ ",".intercalate r.values ++ ")"
  | .present => r.key
  | .absent => "!" ++ r.key
  | .greater => r.key ++ ">" ++ r.values.headD ""
  | .less => r.key ++ "<" ++ r.values.headD ""

/-- A requirement that was not built may lack the bound that its selector shows. -/
def selector? (r : Requirement) : Except Fault String :=
  match r.operator, r.values with
  | .greater, [] | .less, [] => .error .noBound
  | _, _ => .ok r.selector

end Requirement
end JobGate

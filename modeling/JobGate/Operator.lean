/-! The operators of a clause, by name. -/
namespace JobGate

inductive Operator where
  | oneOf | noneOf | present | absent | greater | less
  deriving DecidableEq, Repr

namespace Operator

def all : List Operator := [.oneOf, .noneOf, .present, .absent, .greater, .less]

def name : Operator → String
  | .oneOf => "In"
  | .noneOf => "NotIn"
  | .present => "Exists"
  | .absent => "DoesNotExist"
  | .greater => "Gt"
  | .less => "Lt"

def names : List String := all.map name

def ofName? (s : String) : Option Operator := all.find? (fun op => op.name = s)

@[simp] theorem ofName?_name (op : Operator) : ofName? op.name = some op := by
  cases op <;> decide

theorem ofName?_eq_some_iff {s : String} {op : Operator} : ofName? s = some op ↔ s = op.name := by
  constructor
  · intro h
    have h := List.find?_some h
    simp at h
    exact h.symm
  · rintro rfl
    exact ofName?_name op

theorem ofName?_eq_none_iff {s : String} : ofName? s = none ↔ s ∉ names := by
  simp [ofName?, names]

end Operator
end JobGate

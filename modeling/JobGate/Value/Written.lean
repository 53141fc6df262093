import JobGate.Value.Basic
/-! The text of an authored value. A scalar alone is written bare; inside a list or a map texts are
quoted and dates are expressions. A part that is the whole again is written as dots. Only an
integer past the limit of digits has no text. -/
namespace JobGate

open Numeral (Fault)

namespace Scalar

def written : Scalar → Except Fault String
  | .null => .ok "None"
  | .bool b => .ok (if b then "True" else "False")
  | .int n => Numeral.write n
  | .float x => .ok x.text
  | .text s => .ok s
  | .date d => .ok d.text
  | .moment m => .ok m.text

def inner : Scalar → Except Fault String
  | .text s => .ok (Text.quoted s)
  | .date d => .ok d.expression
  | .moment m => .ok m.expression
  | s => s.written

end Scalar

namespace Value

def dots : Value → String
  | .map _ => "\x7b...\x7d"
  | _ => "[...]"

mutual
/-- The text of a value inside of those whose labels are `around`, each with its dots. -/
def inner (around : List (Nat × String)) : Value → Except Fault String
  | .scalar s => s.inner
  | .list items => do return Text.bracketed (← innerItems around items)
  | .map entries => do
    return "\x7b" ++ ", ".intercalate (← innerEntries around entries) ++ "\x7d"
  | .knot label v =>
    match around.lookup label with
    | some dots => .ok dots
    | none => inner ((label, v.dots) :: around) v
  | .again label => .ok ((around.lookup label).getD "...")
def innerItems (around : List (Nat × String)) : List Value → Except Fault (List String)
  | [] => .ok []
  | v :: rest => do return (← inner around v) :: (← innerItems around rest)
def innerEntries (around : List (Nat × String)) :
    List (Scalar × Value) → Except Fault (List String)
  | [] => .ok []
  | (k, v) :: rest => do
    return ((← k.inner) ++ ": " ++ (← inner around v)) :: (← innerEntries around rest)
end

def written : Value → Except Fault String
  | .scalar s => s.written
  | v => v.inner []

@[simp] theorem written_text (s : String) : (Value.text s).written = .ok s := rfl

def writtenAll : List Value → Except Fault (List String)
  | [] => .ok []
  | v :: rest => do return (← v.written) :: (← writtenAll rest)

end Value
end JobGate

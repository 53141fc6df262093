import JobGate.Value.Written
import JobGate.Variant.Token
import JobGate.Dictionary
/-! Fields whose value may be left open until a job is dispatched. A text that is a placeholder
token as a whole stands for the value bound to its name; every other text stands for itself. -/
namespace JobGate

inductive Variant where
  | literal (text : String)
  | placeholder (name : String)
  deriving DecidableEq, Repr

abbrev Bindings := Dictionary Value

namespace Variant

def name? (s : String) : Option String :=
  match token? s.toList with
  | some (t, []) => some (String.ofList t.name)
  | _ => none

def ofText (s : String) : Variant :=
  match name? s with
  | some name => .placeholder name
  | none => .literal s

/-- A field that was not filled in is an empty literal. -/
def ofValue : Value → Except Numeral.Fault Variant
  | .null => .ok (.literal "")
  | v => do return ofText (← v.written)

/-- However it was authored, a placeholder is written with braces. -/
def text : Variant → String
  | .literal s => s
  | .placeholder name => "$\x7b" ++ name ++ "\x7d"

def isPlaceholder : Variant → Bool
  | .literal _ => false
  | .placeholder _ => true

inductive ResolveFault where
  | unbound (name : String)
  | numeral (f : Numeral.Fault)
  deriving DecidableEq, Repr

def resolve (data : Bindings) : Variant → Except ResolveFault String
  | .literal s => .ok s
  | .placeholder name =>
    match data.get? name with
    | none => .error (.unbound name)
    | some v => v.written.mapError .numeral

end Variant
end JobGate

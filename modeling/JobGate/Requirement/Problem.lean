import JobGate.Label
import JobGate.Numeral
import JobGate.Operator
/-! What can be wrong with a clause, and how it is told. -/
namespace JobGate

inductive Problem where
  | badKey (key : String) (fault : Label.KeyFault)
  | unknownOperator (name : String)
  | noValues (op : Operator)
  | unexpectedValues (op : Operator)
  | notOneValue (op : Operator)
  | notInteger (op : Operator) (value : String)
  | badValue (value : String) (fault : Label.NameFault)
  deriving DecidableEq, Repr

namespace Label

def charsMessage : String :=
  "must consist of alphanumeric characters, '-', '_' or '.', " ++
    "and must start and end with an alphanumeric character"

def NameFault.message : NameFault → String
  | .empty => "must be non-empty"
  | .tooLong => s!"must be no more than {nameLimit} characters"
  | .malformed => charsMessage

def DomainFault.message : DomainFault → String
  | .empty => "must be non-empty"
  | .tooLong => s!"must be no more than {domainLimit} characters"
  | .malformed => "must be a lowercase DNS-1123 subdomain"

def KeyFault.message : KeyFault → String
  | .domain fault => "prefix part " ++ fault.message
  | .name fault => "name part " ++ fault.message

end Label

namespace Problem

def message : Problem → String
  | .badKey key fault => s!"key '{key}': " ++ fault.message
  | .unknownOperator name =>
    s!"operator '{name}' is not recognized, expected one of " ++
      Text.bracketed (Operator.names.map Text.quoted)
  | .noValues op => "for '" ++ op.name ++ "' operator, values set can't be empty"
  | .unexpectedValues op => "values set must be empty for '" ++ op.name ++ "' operator"
  | .notOneValue op => "for '" ++ op.name ++ "' operator, exactly one value is required"
  | .notInteger op value =>
    "for '" ++ op.name ++ s!"' operator, the value must be an integer, got '{value}'"
  | .badValue value fault => s!"value '{value}': " ++ fault.message

def joined (messages : List String) : String := "; ".intercalate messages

def messages (ps : List Problem) : String := joined (ps.map message)

end Problem
end JobGate

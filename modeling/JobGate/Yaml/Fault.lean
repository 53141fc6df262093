import JobGate.Value.Calendar
import JobGate.Yaml.Number
/-! Why a text has no value. Most texts without one are malformed. Others are well formed, but they
hold something that cannot be read, or not all of them could be had. -/
namespace JobGate.Yaml

inductive ScalarFault where
  | number (f : NumberFault)
  /-- The number after an escape is that of no character. -/
  | notCharacter
  /-- Such a number does not even fit into a signed word. -/
  | notWord
  | unknownWord (word : String)
  | calendar (f : Value.CalendarFault)
  | notMoment
  | endless
  deriving DecidableEq, Repr

def ScalarFault.message : ScalarFault → String
  | .number f => f.message
  | .notCharacter => "chr() arg not in range(0x110000)"
  | .notWord => "Python int too large to convert to C int"
  | .unknownWord word => Text.quoted word
  | .calendar f => f.message
  | .notMoment => "'NoneType' object has no attribute 'groupdict'"
  | .endless => "maximum recursion depth exceeded"

inductive Fault where
  | malformed
  | unreadable
  | scalar (f : ScalarFault)
  deriving DecidableEq, Repr

def orMalformed : Option α → Except Fault α
  | some a => .ok a
  | none => .error .malformed

end JobGate.Yaml

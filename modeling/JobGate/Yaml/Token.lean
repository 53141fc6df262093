import JobGate.Yaml.Property
/-! The tokens of a YAML stream, whose end is the end of their list. -/
namespace JobGate.Yaml

structure ScalarText where
  text : String
  plain : Bool
  deriving DecidableEq

inductive Token where
  | directive (d : Directive)
  | documentStart
  | documentEnd
  | blockSequenceStart
  | blockMappingStart
  | blockEnd
  | flowSequenceStart
  | flowSequenceEnd
  | flowMappingStart
  | flowMappingEnd
  | blockEntry
  | flowEntry
  | key
  | value
  | alias (name : String)
  | anchor (name : String)
  | tag (t : TagProperty)
  | scalar (s : ScalarText)
  deriving DecidableEq

end JobGate.Yaml

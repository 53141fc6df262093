import JobGate.Value.Basic
import JobGate.Yaml.Fault
import JobGate.Yaml.Timestamp
/-! What a scalar means. A tag says so outright; without one a quoted scalar is a text, and a plain
one goes by its form. Two signs have a meaning as keys only. -/
namespace JobGate.Yaml

inductive Tag where
  | text
  | null
  | bool
  | int
  | float
  | moment
  | sequence
  | mapping
  /-- As a key it puts other mappings into this one. -/
  | merge
  /-- As a key it names the value that stands for the whole mapping. -/
  | default
  | unknown
  deriving DecidableEq, Repr

/-- The tags that are read. A file with `!!binary`, `!!set`, `!!omap` or `!!pairs` is taken as
malformed, as with a tag that is unknown. -/
def Tag.names : List (String × Tag) :=
  [("str", .text), ("null", .null), ("bool", .bool), ("int", .int), ("float", .float),
   ("timestamp", .moment), ("seq", .sequence), ("map", .mapping), ("merge", .merge),
   ("value", .default)]

def mergeSign : String := "<<"
def defaultSign : String := "="

def nullWords : List String := ["~", "null", "Null", "NULL"]
def trueWords : List String := ["yes", "true", "on"]
def falseWords : List String := ["no", "false", "off"]

def spellings (word : String) : List String := [word, word.capitalize, word.map Char.toUpper]

def isBoolWord (s : String) : Bool := ((trueWords ++ falseWords).flatMap spellings).contains s

def withoutLastBreak (cs : List Char) : List Char :=
  if cs.getLast? = some '\n' then cs.dropLast else cs

def Tag.ofForm (s : String) : Tag :=
  let cs := withoutLastBreak s.toList
  let form := String.ofList cs
  if s = "" || nullWords.contains form then .null
  else if isBoolWord form then .bool
  else if isFloat cs then .float
  else if isInteger cs then .int
  else if form = mergeSign then .merge
  else if form = defaultSign then .default
  else if ["!", "&", "*"].contains form then .unknown
  else if (date? cs).isSome || (moment? cs).isSome then .moment
  else .text

/- Readings. -/

def readBool (s : String) : Except Fault Bool :=
  let word := Text.lower s
  if trueWords.contains word then .ok true
  else if falseWords.contains word then .ok false
  else .error (.scalar (.unknownWord word))

def checked (a : α) : Option Value.CalendarFault → Except Fault α
  | none => .ok a
  | some f => .error (.scalar (.calendar f))

def readMoment (s : String) : Except Fault Scalar :=
  let cs := withoutLastBreak s.toList
  match looseDate? cs, moment? cs with
  | some d, _ => checked (.date d) d.fault?
  | none, some m => checked (.moment m) m.fault?
  | none, none => .error (.scalar .notMoment)

def readScalar (tag : Tag) (s : String) : Except Fault Scalar :=
  match tag with
  | .text => .ok (.text s)
  | .null => .ok .null
  | .bool => (readBool s).map .bool
  | .int => (readInteger s).map .int |>.mapError (.scalar ∘ .number)
  | .float => (readFloat s).map .float |>.mapError (.scalar ∘ .number)
  | .moment => readMoment s
  | .sequence | .mapping | .merge | .default | .unknown => .error .malformed

end JobGate.Yaml

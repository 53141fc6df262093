import JobGate.Text.Quoted
import JobGate.Text.Upper
/-! Levels of logging and their numbers. Two more names of logging have the same form and cannot be
set as levels; what is no name at all stands for the usual level. -/
namespace JobGate.LogLevel

def numbers : List (String × Nat) :=
  [("NOTSET", 0), ("DEBUG", 10), ("INFO", 20), ("WARNING", 30), ("WARN", 30), ("ERROR", 40),
   ("CRITICAL", 50), ("FATAL", 50)]

def unset : Nat := 30

def usual : Nat := 20

inductive Fault where
  | unknown (text : String)
  | notLevel (text : String)
  deriving DecidableEq, Repr

def Fault.message : Fault → String
  | .unknown text => "Unknown level: " ++ Text.quoted text
  | .notLevel text => "Level not an integer or a valid string: " ++ text

def messageFormat : String := "%(levelname)s:%(name)s:%(message)s"

def styleText (sign style format : String) : String :=
  Text.quoted sign ++ ": (<class 'logging." ++ style ++ "'>, " ++ Text.quoted format ++ ")"

def stylesText : String :=
  "\x7b" ++ ", ".intercalate
    [styleText "%" "PercentStyle" messageFormat,
     styleText "\x7b" "StrFormatStyle" "\x7blevelname\x7d:\x7bname\x7d:\x7bmessage\x7d",
     styleText "$" "StringTemplateStyle" "$\x7blevelname\x7d:$\x7bname\x7d:$\x7bmessage\x7d"] ++
  "\x7d"

/-- The names that stand for something else than a level. -/
def reserved : List (String × Fault) :=
  [("BASIC_FORMAT", .unknown messageFormat), ("_STYLES", .notLevel stylesText)]

def number (s : String) : Except Fault Nat :=
  let name := Text.upper s
  match reserved.lookup name with
  | some f => .error f
  | none => .ok ((numbers.lookup name).getD usual)

end JobGate.LogLevel

import JobGate.Dictionary
import JobGate.Files.FilePath
import JobGate.Settings.Reference
import JobGate.Text.Lower
import JobGate.Text.Upper
/-! Settings. Variables of the environment win over those of a file, and case makes no difference
to their names. The level is kept in upper case, and must be one of five. -/
namespace JobGate

structure Settings where
  logLevel : String
  workflowFile : FilePath
  deriving DecidableEq, Repr

inductive SettingsError where
  | undecodable (f : Text.DecodeFault)
  | logLevel (given : String)
  deriving DecidableEq, Repr

namespace Settings

def levels : List String := ["DEBUG", "INFO", "WARNING", "ERROR", "CRITICAL"]

def levelVariable : String := "genegate_log_level"
def fileVariable : String := "genegate_workflow_file"

/-- The value of a variable; of several whose names differ in case only the last counts. -/
def valueOf? (given : List (String × Option String)) (name : String) : Option String :=
  (given.reverse.find? (fun v => Text.lower v.1 = name)).bind Prod.snd

def readLevel (s : String) : Except SettingsError String :=
  let level := Text.upper s
  if levels.contains level then .ok level else .error (.logLevel s)

def fileValues (environment : List (String × String)) (bs : List EnvFile.Binding) :
    Dictionary (Option String) :=
  .ofList ((EnvFile.expand environment bs).map (fun b => (b.name, b.value)))

def read (environment : List (String × String)) (file : Option ByteArray) :
    Except SettingsError Settings := do
  let bs ← match file with
    | some bytes => (EnvFile.ofBytes bytes).mapError .undecodable
    | none => .ok []
  let given (name : String) : Option String :=
    (valueOf? (environment.map (fun v => (v.1, some v.2))) name).or
      (valueOf? (fileValues environment bs).entries name)
  let logLevel ← readLevel ((given levelVariable).getD "INFO")
  return ⟨logLevel, .ofText ((given fileVariable).getD "workflow.yaml")⟩

end Settings

namespace SettingsError

def field : String := "log_level"

def message : SettingsError → String
  | .undecodable f => f.message
  | .logLevel given =>
    "Value error, log_level must be one of " ++ ", ".intercalate Settings.levels ++
      ", got '" ++ given ++ "'"

end SettingsError
end JobGate

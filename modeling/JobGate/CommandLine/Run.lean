import JobGate.CommandLine.Arguments
import JobGate.CommandLine.Binding
import JobGate.CommandLine.Report
import JobGate.Files.Loading
import JobGate.Settings.Basic
import JobGate.Settings.LogLevel
/-! A run of the program. It is decided in this order: program options and command name, settings,
level of logging, arguments of the command, bindings; only then the file is loaded. -/
namespace JobGate.CommandLine

/-- The variables of the environment, and the file of variables beside it. -/
structure Surroundings where
  environment : List (String × String)
  file : Option ByteArray

structure Outcome where
  report : Report
  usage : Option UsageError
  level : Nat

def Outcome.ofUsage (level : Nat) (e : UsageError) : Outcome :=
  ⟨⟨exitUnusable, []⟩, some e, level⟩

inductive Fault where
  | settings (e : SettingsError)
  | logging (f : LogLevel.Fault)
  | path (f : PathFault)
  | load (f : LoadFault)
  | numeral (f : Numeral.Fault)

def Fault.message : Fault → String
  | .settings e => e.message
  | .logging f => f.message
  | .path f => f.message
  | .load f => f.message
  | .numeral f => f.message

inductive Task where
  | validate
  | instantiate (job : String) (given : Dictionary String)

inductive Plan where
  | stop (o : Outcome)
  | load (level : Nat) (file : FilePath) (task : Task)

def Plan.file? : Plan → Option FilePath
  | .stop _ => none
  | .load _ file _ => some file

def Plan.ofHalt (level : Nat) : Halt → Except Fault Plan
  | .usage e => .ok (.stop (.ofUsage level e))
  | .help => .ok (.stop ⟨⟨exitOk, []⟩, none, level⟩)
  | .path f => .error (.path f)

def readTask (settings : Settings) (name : CommandName) (args : List String) :
    Except Halt (FilePath × Task) := do
  match ← Command.read name args with
  | .validate file => return (file.getD settings.workflowFile, .validate)
  | .instantiate file job bindings =>
    return (file, .instantiate job (← Halt.ofUsage (readBindings bindings)))

def plan (s : Surroundings) (args : List String) : Except Fault Plan :=
  match Invocation.read args with
  | .error h => Plan.ofHalt LogLevel.unset h
  | .ok invocation => do
    let settings ← (Settings.read s.environment s.file).mapError .settings
    let level ← (LogLevel.number (invocation.logLevel.getD settings.logLevel)).mapError .logging
    match readTask settings invocation.command invocation.args with
    | .error h => Plan.ofHalt level h
    | .ok (file, task) => return .load level file task

def Task.report (file : FilePath) (w : Workflow) : Task → Except Numeral.Fault Report
  | .validate => .ok (validation w)
  | .instantiate job given => (instantiation w job given).map (Instantiation.report file job)

/-- Does what is planned, with the workflow that was loaded for it. A report is handed to the console
text by text as it is, also where a text has marks of the console's. -/
def Plan.finish (loaded : FilePath → Except LoadFault Workflow) : Plan → Except Fault Outcome
  | .stop o => .ok o
  | .load level file task =>
    match loaded file with
    | .error (.refused e) =>
      .ok ⟨⟨exitUnusable, [.styled .red ("Error: " ++ e.message)]⟩, none, level⟩
    | .error f => .error (.load f)
    | .ok w => do
      let report ← (task.report file w).mapError .numeral
      return ⟨report, none, level⟩

def run (s : Surroundings) (loaded : FilePath → Except LoadFault Workflow) (args : List String) :
    Except Fault Outcome := do
  (← plan s args).finish loaded

end JobGate.CommandLine

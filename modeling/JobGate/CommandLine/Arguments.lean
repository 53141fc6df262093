import JobGate.CommandLine.Usage
import JobGate.Files.FilePath
import JobGate.Text.Similarity
/-! Arguments and options. Those of the program stand before the name of the command, those of a
command anywhere after it; behind two dashes there are no options any more. -/
namespace JobGate.CommandLine

def isOption (arg : String) : Bool := arg.startsWith "-" && arg ≠ "-"

def splitOption (arg : String) : String × Option String :=
  let (name, rest) := arg.toList.span (· ≠ '=')
  (String.ofList name, rest.head?.map (fun _ => String.ofList rest.tail))

def helpOption : String := "--help"
def levelOption : String := "--log-level"
def bindingOption : String := "--set"

/-- After a single dash only one letter is told of an unknown option, and no other is suggested. -/
def unknownOption (known : List String) (arg : String) : UsageError :=
  if arg.startsWith "--" then
    let name := (splitOption arg).1
    .unknownOption name (Text.closeNames (helpOption :: known) name)
  else .unknownOption (String.ofList (arg.toList.take 2)) []

structure Scanned where
  options : List (String × String)
  help : Bool
  rest : List String

def Scanned.ofRest (rest : List String) : Scanned := ⟨[], false, rest⟩

def Scanned.withOption (name value : String) (s : Scanned) : Scanned :=
  { s with options := (name, value) :: s.options }

/-- Tells options from other arguments; `known` are those with a value, and `pending` is one that
waits for it. If options may not stand everywhere they end at the first argument that is none. -/
def scan (known : List String) (everywhere : Bool) (pending : Option String) :
    List String → Except UsageError Scanned
  | [] =>
    match pending with
    | some name => .error (.noValue name)
    | none => .ok (.ofRest [])
  | arg :: rest =>
    match pending with
    | some name => (scan known everywhere none rest).map (.withOption name arg)
    | none =>
      if arg = "--" then .ok (.ofRest rest)
      else if isOption arg then
        let (name, value) := splitOption arg
        if name = helpOption then
          match value with
          | some _ => .error (.unwantedValue name)
          | none => (scan known everywhere none rest).map (fun s => { s with help := true })
        else if !known.contains name then .error (unknownOption known arg)
        else
          match value with
          | some v => (scan known everywhere none rest).map (.withOption name v)
          | none => scan known everywhere (some name) rest
      else if everywhere then
        (scan known everywhere none rest).map (fun s => { s with rest := arg :: s.rest })
      else .ok (.ofRest (arg :: rest))

inductive Halt where
  | usage (e : UsageError)
  | help
  | path (f : PathFault)
  deriving DecidableEq, Repr

def Halt.ofUsage (r : Except UsageError α) : Except Halt α := r.mapError .usage

def scanned (known : List String) (everywhere : Bool) (args : List String) :
    Except Halt Scanned := do
  let s ← Halt.ofUsage (scan known everywhere none args)
  if s.help then .error .help else return s

inductive CommandName where
  | validate | instantiate
  deriving DecidableEq, Repr

namespace CommandName

def text : CommandName → String
  | .validate => "validate"
  | .instantiate => "instantiate"

def all : List CommandName := [.validate, .instantiate]

def ofText? (s : String) : Option CommandName := all.find? (fun c => c.text = s)

end CommandName

/-- The options of the program and the command with its own arguments still unread. -/
structure Invocation where
  logLevel : Option String
  command : CommandName
  args : List String

/-- The last level that is given; an empty one counts as none. -/
def givenLevel (s : Scanned) : Option String :=
  ((s.options.map Prod.snd).getLast?).filter (· ≠ "")

def scannedProgram (args : List String) : Except Halt Scanned := scanned [levelOption] false args

def Invocation.read (args : List String) : Except Halt Invocation := do
  let s ← scannedProgram args
  match s.rest with
  | [] => .error (.usage .missingCommand)
  | name :: rest =>
    match CommandName.ofText? name with
    | some command => return ⟨givenLevel s, command, rest⟩
    | none =>
      -- Behind two dashes an option may stand in the place of the command.
      if isOption name then let _ ← scannedProgram s.rest
      let close := Text.closeNames (CommandName.all.map CommandName.text) name
      .error (.usage (.unknownCommand name close))

inductive Command where
  | validate (file : Option FilePath)
  | instantiate (file : FilePath) (job : String) (bindings : List String)
  deriving DecidableEq, Repr

def readPath (s : String) : Except Halt FilePath :=
  let path := FilePath.ofText s
  if path.hasNull then .error (.path .nullCharacter) else .ok path

/-- The path is read before other arguments are found missing or too many. -/
def Command.read (name : CommandName) (args : List String) : Except Halt Command :=
  match name with
  | .validate => do
    let s ← scanned [] true args
    match s.rest with
    | [] => return .validate none
    | file :: extra =>
      let path ← readPath file
      if extra = [] then return .validate (some path)
      else .error (.usage (.extraArguments extra))
  | .instantiate => do
    let s ← scanned [bindingOption] true args
    match s.rest with
    | [] => .error (.usage (.missingArgument "WORKFLOW_FILE"))
    | file :: rest =>
      let path ← readPath file
      match rest with
      | [] => .error (.usage (.missingArgument "JOB_NAME"))
      | [job] => return .instantiate path job (s.options.map Prod.snd)
      | _ :: extra => .error (.usage (.extraArguments extra))

end JobGate.CommandLine

import JobGate.Text.Quoted
/-! What can be wrong with the arguments of a command line. A name that is not known is told with
the known ones that are close to it. -/
namespace JobGate.CommandLine

inductive UsageError where
  | missingCommand
  | unknownCommand (name : String) (close : List String)
  | unknownOption (name : String) (close : List String)
  | noValue (option : String)
  | unwantedValue (option : String)
  | missingArgument (name : String)
  | extraArguments (args : List String)
  | malformedBinding (text : String)
  deriving DecidableEq, Repr

def suggestion : List String → String
  | [] => ""
  | [name] => " Did you mean " ++ Text.quoted name ++ "?"
  | names => " (Did you mean one of: " ++ ", ".intercalate (names.map Text.quoted) ++ "?)"

def UsageError.message : UsageError → String
  | .missingCommand => "Missing command."
  | .unknownCommand name close =>
    "No such command " ++ Text.quoted name ++ "." ++ suggestion close
  | .unknownOption name close => "No such option " ++ Text.quoted name ++ "." ++ suggestion close
  | .noValue option => "Option " ++ Text.quoted option ++ " requires an argument."
  | .unwantedValue option => "Option " ++ Text.quoted option ++ " does not take a value."
  | .missingArgument name => "Missing argument '" ++ name ++ "'."
  | .extraArguments args =>
    "Got unexpected extra argument" ++ (if args.length = 1 then "" else "s") ++
      " (" ++ " ".intercalate args ++ ")"
  | .malformedBinding text => s!"Invalid value for --set: expected name=value, got '{text}'"

end JobGate.CommandLine

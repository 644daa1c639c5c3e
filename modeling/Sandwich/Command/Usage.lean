/-! Why a command line is not carried out. -/

namespace Sandwich.Command

/-- What is wrong with a command line, or what else it asks for. -/
inductive UsageError
  | help
  | version
  /-- Nothing is given where there has to be a command. -/
  | nothing
  | noCommand
  | unknownCommand (word : String)
  | unknownArgument (word : String)
  | superfluousValue (name : String)
  | noValue (name : String)
  | invalidValue (name value : String)
  /-- The two do not go together; an argument does not go together with itself. -/
  | conflict (name other : String)
  | missing (name : String)
deriving DecidableEq

namespace UsageError

def message : UsageError → String
  | help => "help is asked for"
  | version => "the version is asked for"
  | nothing => "a command is required"
  | noCommand => "a command is required"
  | unknownCommand word => "unknown command '" ++ word ++ "'"
  | unknownArgument word => "unexpected argument '" ++ word ++ "'"
  | superfluousValue name => "'" ++ name ++ "' takes no value"
  | noValue name => "'" ++ name ++ "' requires a value"
  | invalidValue name value => "invalid value '" ++ value ++ "' for '" ++ name ++ "'"
  | conflict name other =>
    if name = other then "'" ++ name ++ "' cannot be given twice"
    else "'" ++ name ++ "' cannot be given together with '" ++ other ++ "'"
  | missing name => "'" ++ name ++ "' is required"

/-- Asking for help or the version is no failure. -/
def exitCode : UsageError → Nat
  | help => 0
  | version => 0
  | _ => 2

end UsageError

end Sandwich.Command

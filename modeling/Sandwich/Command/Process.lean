import Sandwich.Command.Inspect
import Sandwich.Command.Line
import Sandwich.Command.Logging
import Sandwich.Command.Run

/-! The program as a whole: from the words on the command line, the variables
and the files to the exit code, the output and the log. -/

namespace Sandwich

/-- What the program finds where it is started. -/
structure Workplace extends Command.Environment where
  vars : Command.Variables
  /-- The files after one has been made, or emptied if it was there. -/
  createFile : (name : String) → Except AccessError Command.Files

/-- Where the log goes, and what goes into it. -/
structure Logging where
  filter : LogFilter
  /-- The file; without one, the log goes to the standard error. -/
  file : Option String := none
  /-- Whether the origin of an event is shown. -/
  showOrigin : Bool

/-- How the program ends. -/
structure Ending where
  exitCode : Nat
  output : String := ""
  /-- What is said about a command line that is not carried out. -/
  complaint : String := ""
  /-- The log, if the program got as far as setting it up. -/
  log : Option Logging := none

namespace Workplace

/-- The file of variables that is read if it is there. -/
def variablesFile : String := ".env"

/-- The variables, those of the file included; nothing if the file sets what cannot be set. -/
def allVariables? (w : Workplace) : Option Command.Variables :=
  match w.files.read variablesFile with
  | .ok file => w.vars.load file
  | .error _ => some w.vars

/-- The log of an invocation, if there can be one. The variable `RUST_LOG` goes before the
flags. -/
def logSettings? (vars : Command.Variables) (i : Invocation) : Option Logging := do
  let filter ← match vars "RUST_LOG" with
    | some text => LogFilter.parse? text.toList
    | none => some (.ofVerbosity i.verbosity)
  return {
    filter
    file := i.logFile
    showOrigin := 4 ≤ i.verbosity }

/-- The name of the program. -/
def name : String := "sando"

def version : String := "0.1.0"

/-- The commands that there are. -/
def help : String :=
  "Usage: " ++ name ++ " [OPTIONS] <COMMAND>\n\nCommands:\n" ++
    String.join (Command.Line.grammar.commandNames.map fun command => "  " ++ command ++ "\n")

/-- The end of a program whose command line is not carried out. -/
def refuse : Command.UsageError → Ending
  | .help => { exitCode := Command.UsageError.exitCode .help, output := help }
  | .version =>
    { exitCode := Command.UsageError.exitCode .version, output := name ++ " " ++ version ++ "\n" }
  | e => { exitCode := e.exitCode, complaint := "error: " ++ e.message ++ "\n" }

/-- The end of a program that cannot go on at all. -/
def abort : Ending := { exitCode := 1, output := "Custom backtrace: disabled backtrace\n" }

/-- The end of a program that fails. -/
def fail (log : Option Logging) (e : CommandError) : Ending :=
  { exitCode := 1, output := e.inspect ++ "\n", log }

/-- Runs the program. -/
def run (w : Workplace) (words : List String) : Program Command.Inquiry.Reply Ending :=
  match w.allVariables? with
  | none => .done abort
  | some vars =>
    match Invocation.parse vars words with
    | .error e => .done (refuse e)
    | .ok i =>
      match logSettings? vars i with
      | none => .done abort
      | some log =>
        match i.logFile.elim (.ok w.files) w.createFile with
        | .error e => .done (fail none (.file (.inaccessible e)))
        | .ok files =>
          (i.command.run { w.toEnvironment with files }).run.bind fun
            | .ok output => .done { exitCode := 0, output, log := some log }
            | .error e => .done (fail (some log) e)

end Workplace

end Sandwich

import Sandwich.Command.Process

/-! The program as it is started from a command line: what it finds there is
collected, handed over, and the result is written out. It reaches no node and
starts no compiler, so that whatever depends on them fails. -/

namespace Sandwich.Main

/-- The variables that mean something to the program. -/
def variableNames : List String := [
  "RPC_URL", "DEPLOY_KEY", "DEPLOY_SALT", "SANDWICH_CONTRACT", "FACTORY_ADDRESS", "WETH_ADDRESS",
  "CHAIN_ID", "RUST_LOG"]

/-- The file that a command reads. -/
def inputFile : Command → Option String
  | .decode _ file => file
  | .deploy options => options.bytecodeFile
  | _ => none

/-- Why a file cannot be used. -/
def accessError : IO.Error → AccessError
  | .permissionDenied .. => .denied
  | .inappropriateType _ code _ => if code = 21 then .isDirectory else .notDirectory
  | .invalidArgument _ code _ => if code = 36 then .nameTooLong else .zeroInName
  | _ => .notFound

def attempt {α : Type} (action : IO α) : IO (Except AccessError α) := do
  try return .ok (← action)
  catch e => return .error (accessError e)

def readFile (name : String) : IO (Except AccessError Bytes) :=
  attempt (ByteArray.toList <$> IO.FS.readBinFile name)

/-- The files that have been read, by their names. -/
def filesOf (table : List (String × Except AccessError Bytes)) (standardInput : Bytes) :
    Command.Files where
  read name := (table.lookup name).getD (.error .notFound)
  standardInput := standardInput

/-- Writes the log. -/
def writeLog (settings : Logging) (events : List Event) : IO Unit := do
  let origin := if settings.showOrigin then some Workplace.name else none
  let lines := (events.filter (settings.filter.admits Workplace.name)).map (Event.line origin)
  match settings.file with
  | some name => IO.FS.writeFile name (String.join lines)
  | none => (← IO.getStderr).putStr (String.join lines)

/-- Runs the program on the words of a command line. -/
def start (words : List String) : IO UInt32 := do
  let settings ← variableNames.mapM fun name => return (name, ← IO.getEnv name)
  let variablesFile ← readFile Workplace.variablesFile
  let table := [(Workplace.variablesFile, variablesFile)]
  let compiler (name : String) := Compiler.ofProgram name fun _ => .error .notFound
  let place : Workplace := {
    files := filesOf table []
    compiler
    vars := fun name => (settings.lookup name).join
    createFile := fun _ => .error .notFound }
  let invocation := place.allVariables?.bind fun vars => (Invocation.parse vars words).toOption
  let created ← match invocation.bind Invocation.logFile with
    | some name => attempt (IO.FS.writeFile name "")
    | none => pure (.ok ())
  let place ← match invocation.bind fun i => inputFile i.command with
    | none => pure place
    | some "-" =>
      let input ← (← IO.getStdin).readBinToEnd
      pure { place with files := filesOf table input.toList }
    | some name =>
      let file ← readFile name
      pure { place with files := filesOf ((name, file) :: table) [] }
  let place := { place with createFile := fun _ => created.map fun _ => place.files }
  let unreachable (inquiry : Command.Inquiry) (_ : Unit) : inquiry.Reply × Unit :=
    (.error (.transport inquiry.connection.silence), ())
  let outcome := (place.run words).run unreachable ()
  IO.print outcome.result.output
  IO.eprint outcome.result.complaint
  if let some log := outcome.result.log then writeLog log outcome.events
  return UInt32.ofNat outcome.result.exitCode

end Sandwich.Main

def main (words : List String) : IO UInt32 := Sandwich.Main.start words

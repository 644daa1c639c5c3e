import Sandwich.Event
import Sandwich.Failure
import Sandwich.Hex
import Sandwich.Text.Blank
import Sandwich.Text.Utf8

/-! Compilers of contracts, and the one that is a program of its own: it is
asked for its version to see whether it is there, and prints the bytecode of a
source as hexadecimal text. -/

namespace Sandwich

/-- What turns a source, given by its path, into bytecode. -/
structure Compiler where
  available : Except CompilerError Unit
  /-- The events on the way, and the bytecode. -/
  compile : (source : String) → List Event × Except Failure Bytes

/-- How a program ended, and what it wrote. -/
structure Exit where
  success : Bool
  output : Bytes
  errors : Bytes

namespace Compiler

/-- The compiler that is the program `name`; `run` starts it with arguments. -/
def ofProgram (name : String) (run : List String → Except AccessError Exit) : Compiler where
  available :=
    match run ["--version"] with
    | .ok exit => if exit.success then .ok () else .error (.absent name)
    | .error _ => .error (.absent name)
  compile source :=
    match run ["--bytecode", source] with
    | .error e => ([], .error (.compilerUnavailable (.notStarted name e)))
    | .ok exit =>
      if exit.success then
        match Hex.decode (Text.trim (Text.decodeUtf8Lossy exit.output)) with
        | .ok bytecode => ([.compilerFinished source bytecode.length], .ok bytecode)
        | .error e => ([], .error (.compile source (.invalidOutput e)))
      else
        let errors := String.ofList (Text.trim (Text.decodeUtf8Lossy exit.errors))
        ([], .error (.compile source (.failed errors)))

/-- The compiler that gives the same bytecode for every source. -/
def constant (bytecode : Bytes) : Compiler where
  available := .ok ()
  compile _ := ([], .ok bytecode)

/-- No compiler. -/
def disabled : Compiler where
  available := .error .disabled
  compile _ := ([], .error (.compilerUnavailable .disabled))

end Compiler

end Sandwich

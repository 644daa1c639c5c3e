import Sandwich.Command.Error
import Sandwich.Hex
import Sandwich.Text.Utf8

/-! What commands read: hexadecimal text from the command line, a file or the
standard input. -/

namespace Sandwich.Command

/-- The files that a command sees. -/
structure Files where
  read : (name : String) → Except AccessError Bytes
  standardInput : Bytes

/-- The text in a file; the name `-` stands for the standard input. -/
def Files.text (files : Files) (name : String) : Except FileError (List Char) := do
  let bytes ← if name = "-" then .ok files.standardInput
    else (files.read name).mapError .inaccessible
  match Text.decodeUtf8? bytes with
  | some text => return text
  | none => throw .notText

/-- The text without one mark `0x` or `0X` at its start. -/
def unmarked : List Char → List Char
  | '0' :: 'x' :: rest => rest
  | '0' :: 'X' :: rest => rest
  | text => text

/-- The bytes of a text with blanks around it. -/
def decodeHex (text : List Char) : Except CommandError Bytes :=
  let digits := unmarked (Text.trim text)
  let length := (Hex.utf8 digits).length
  if length % 2 = 1 then .error (.input (.oddHex length))
  else (Hex.decode digits).mapError .hex

/-- The bytes of the text given as an argument, or else of the one in a file. -/
def loadHex (files : Files) (argument file : Option String) :
    Except CommandError (Option Bytes) := do
  match argument, file with
  | some text, _ => return some (← decodeHex text.toList)
  | none, some name => return some (← decodeHex (← (files.text name).mapError .file))
  | none, none => return none

end Sandwich.Command

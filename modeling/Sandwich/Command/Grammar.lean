import Sandwich.Command.Usage
import Sandwich.Hex

/-! Grammars of command lines. At each level of a command there are options
with a value, flags without one, operands that go by their place, and the
commands of the next level. -/

namespace Sandwich.Command

/-! ### Values -/

/-- What the text of an argument stands for. -/
inductive Kind
  | text
  | path
  | address
  | word
  | byte
  | uint32
  | uint64
deriving DecidableEq

/-- What was given for an argument. -/
inductive Value
  | text (s : String)
  | address (a : Address)
  | word (w : Word)
  | number (n : Nat)
  /-- A flag was given. -/
  | raised
deriving DecidableEq

namespace Kind

/-- A numeral in decimal without a sign. -/
def digits? (cs : List Char) : Option Nat :=
  if cs.isEmpty || !cs.all Char.isDigit then none
  else some (cs.foldl (fun n c => 10 * n + (c.toNat - '0'.toNat)) 0)

/-- A numeral that may have a plus sign. -/
def natural? : List Char → Option Nat
  | '+' :: cs => digits? cs
  | cs => digits? cs

/-- A numeral that may have either sign, as long as it is not below zero. -/
def signed? : List Char → Option Nat
  | '-' :: cs => (digits? cs).filter (· = 0)
  | cs => natural? cs

/-- A number below the bound. -/
def below (bound : Nat) (n : Option Nat) : Option Value := (n.filter (· < bound)).map .number

/-- The value that a text stands for. A path is never empty. -/
def value? (kind : Kind) (s : String) : Option Value :=
  match kind with
  | text => some (.text s)
  | path => if s.isEmpty then none else some (.text s)
  | address => (Hex.decodeOctets 20 s.toList).toOption.map .address
  | word => (Hex.decodeOctets 32 s.toList).toOption.map .word
  | byte => below (bitBound 8) (signed? s.toList)
  | uint32 => below (bitBound 32) (signed? s.toList)
  | uint64 => below (bitBound 64) (natural? s.toList)

end Kind

/-! ### Arguments -/

/-- An option or an operand. -/
structure Argument where
  name : String
  kind : Kind
  /-- How an option is written, after two dashes. -/
  spellings : List String := [name]
  /-- The variable that holds the value if none is given. -/
  fallback : Option String := none
  required : Bool := false
  /-- The arguments in whose presence this one need not be given. -/
  standIns : List String := []
  /-- The arguments that this one does not go together with. -/
  conflicts : List String := []

/-- The value of a text. An empty path is as good as none. -/
def Argument.read (a : Argument) (s : String) : Except UsageError Value :=
  match a.kind.value? s with
  | some value => .ok value
  | none => .error (if a.kind = .path then .noValue a.name else .invalidValue a.name s)

/-- What a flag does. -/
inductive Effect
  | help
  | version
  | raise
  /-- The flag may be given any number of times. -/
  | count
deriving DecidableEq

structure Flag where
  name : String
  effect : Effect
  /-- How the flag is written, after two dashes. -/
  spellings : List String := [name]
  /-- How the flag is written, after one dash. -/
  letter : Option Char := none

/-- What may be given at one level. -/
structure Grammar where
  options : List Argument := []
  flags : List Flag := []
  operands : List Argument := []
  commands : List (String × Grammar) := []

namespace Grammar

def option? (g : Grammar) (spelling : String) : Option Argument :=
  g.options.find? fun a => spelling ∈ a.spellings

def flag? (g : Grammar) (spelling : String) : Option Flag :=
  g.flags.find? fun f => spelling ∈ f.spellings

def letter? (g : Grammar) (letter : Char) : Option Flag :=
  g.flags.find? fun f => f.letter = some letter

def arguments (g : Grammar) : List Argument := g.options ++ g.operands

/-- The name of the command that shows help, which stands beside any others. -/
def helpCommand : String := "help"

def commandNames (g : Grammar) : List String :=
  if g.commands.isEmpty then [] else g.commands.map (·.1) ++ [helpCommand]

/-- The command that a word names: by its whole name, or by a start that no other has. -/
def command? (g : Grammar) (word : String) : Option String :=
  match g.commandNames.filter fun name => word.toList.isPrefixOf name.toList with
  | [name] => some name
  | _ => if word ∈ g.commandNames then some word else none

end Grammar

end Sandwich.Command

import Sandwich.Command.Grammar
import Sandwich.Command.Variables

/-! Reading the words of a command line by a grammar. The value of an option
that is a word of its own is looked at when the next argument begins, so that an
error in that argument's name comes first. -/

namespace Sandwich.Command

/-- What has been given at one level so far. -/
structure Given where
  /-- The values by the names of their arguments, the last one first. -/
  values : List (String × Value) := []
  /-- An argument whose value is still to be looked at, or even to come. -/
  pending : Option (Argument × Option String) := none
  /-- The number of operands. -/
  operands : Nat := 0
  /-- Whether all words from here on are operands. -/
  literal : Bool := false

namespace Given

def has (g : Given) (name : String) : Bool := (g.values.lookup name).isSome

/-- Adds the value of an argument, which must not be there yet. -/
def add (g : Given) (a : Argument) (s : String) : Except UsageError Given := do
  if g.has a.name then throw (.conflict a.name a.name)
  return { g with values := (a.name, ← a.read s) :: g.values }

/-- Looks at the value that is pending. -/
def settle (g : Given) : Except UsageError Given :=
  match g.pending with
  | none => .ok g
  | some (a, none) => .error (.noValue a.name)
  | some (a, some s) => { g with pending := none }.add a s

/-- Whether the next word is the value of an option. -/
def awaits (g : Given) : Option Argument :=
  match g.pending with
  | some (a, none) => if g.literal then none else some a
  | _ => none

/-- Takes a flag. -/
def raise (g : Given) (f : Flag) : Except UsageError Given := do
  let g ← g.settle
  match f.effect with
  | .help => throw .help
  | .version => throw .version
  | .raise =>
    if g.has f.name then throw (.conflict f.name f.name)
    return { g with values := (f.name, .raised) :: g.values }
  | .count =>
    let count := match g.values.lookup f.name with
      | some (.number n) => n
      | _ => 0
    return { g with values := (f.name, .number (count + 1)) :: g.values }

/-- The value of the variable that an argument falls back on, if it is not given. -/
def fallBack (vars : Variables) (g : Given) (a : Argument) : Except UsageError Given :=
  match a.fallback.bind vars with
  | some s => if g.has a.name then .ok g else g.add a s
  | none => .ok g

end Given

namespace Grammar

/-! ### One word -/

/-- Takes a word with two dashes before it, the value of an option being joined to it or not. -/
def takeLong (g : Grammar) (given : Given) (cs : List Char) : Except UsageError Given := do
  let name := String.ofList (cs.takeWhile (· ≠ '='))
  match g.option? name, cs.dropWhile (· ≠ '=') with
  | some a, [] => return { ← given.settle with pending := some (a, none) }
  | some a, _ :: value => (← given.settle).add a (String.ofList value)
  | none, value =>
    match g.flag? name with
    | none => throw (.unknownArgument name)
    | some f => if value.isEmpty then given.raise f else throw (.superfluousValue name)

/-- Takes flags by their letters. -/
def takeLetters (g : Grammar) : (given : Given) → List Char → Except UsageError Given
  | given, [] => .ok given
  | given, c :: cs => do
    match g.letter? c with
    | none => throw (.unknownArgument c.toString)
    | some f => g.takeLetters (← given.raise f) cs

/-- Takes an operand. Where commands are expected, it is not one of them. -/
def takeOperand (g : Grammar) (given : Given) (word : String) : Except UsageError Given := do
  match g.operands[given.operands]? with
  | some a =>
    return { ← given.settle with pending := some (a, some word), operands := given.operands + 1 }
  | none =>
    if g.commands.isEmpty || (given.literal && (g.command? word).isSome) then
      throw (.unknownArgument word)
    else throw (.unknownCommand word)

/-- Takes a word that is not a command. -/
def take (g : Grammar) (given : Given) (word : String) : Except UsageError Given :=
  if given.literal then g.takeOperand given word
  else
    match word.toList with
    | ['-', '-'] => .ok { given with literal := true }
    | '-' :: '-' :: cs => g.takeLong given cs
    | '-' :: c :: cs => g.takeLetters given (c :: cs)
    | _ =>
      match given.awaits with
      | some a => .ok { given with pending := some (a, some word) }
      | none => g.takeOperand given word

/-! ### All words -/

/-- Whether help is asked for about a command that there is. -/
def findHelp (g : Grammar) : List String → UsageError
  | [] => .help
  | word :: words =>
    match g.commands.lookup word with
    | some below => below.findHelp words
    | none =>
      if word ∈ g.commandNames then (if words.isEmpty then .help else .unknownCommand word)
      else .unknownCommand word

/-- The values at the end of a level: what does not go together is found before what is missing. -/
def finish (g : Grammar) (vars : Variables) (given : Given) (hasCommand : Bool) :
    Except UsageError (List (String × Value)) := do
  let given ← g.options.foldlM (Given.fallBack vars) (← given.settle)
  if !hasCommand && !g.commands.isEmpty then
    throw (if given.values.isEmpty then .nothing else .noCommand)
  for a in g.arguments do
    if given.has a.name then
      if let some other := a.conflicts.find? given.has then throw (.conflict a.name other)
  for a in g.arguments do
    if a.required && !given.has a.name && !a.standIns.any given.has then
      throw (.missing a.name)
  return given.values

/-- The commands of a command line, and the values at all their levels. -/
structure Match where
  path : List String
  /-- The values, those of the deepest level first. -/
  values : List (String × Value)

/-- Reads the words of a level and of those below it. -/
def read (vars : Variables) : (g : Grammar) → (given : Given) → List String →
    Except UsageError Match
  | g, given, [] => return ⟨[], ← g.finish vars given false⟩
  | g, given, word :: words => do
    let command := if given.literal || given.awaits.isSome then none else g.command? word
    match command with
    | none => g.read vars (← g.take given word) words
    | some name =>
      match g.commands.lookup name with
      | none => throw (g.findHelp words)
      | some below =>
        let inner ← below.read vars {} words
        let values ← g.finish vars given true
        return ⟨name :: inner.path, inner.values ++ values⟩

end Grammar

namespace Grammar.Match

def has (m : Match) (name : String) : Bool := (m.values.lookup name).isSome

def text? (m : Match) (name : String) : Option String :=
  match m.values.lookup name with
  | some (.text s) => some s
  | _ => none

def address? (m : Match) (name : String) : Option Address :=
  match m.values.lookup name with
  | some (.address a) => some a
  | _ => none

def word? (m : Match) (name : String) : Option Word :=
  match m.values.lookup name with
  | some (.word w) => some w
  | _ => none

def number? (m : Match) (name : String) : Option Nat :=
  match m.values.lookup name with
  | some (.number n) => some n
  | _ => none

end Grammar.Match

end Sandwich.Command

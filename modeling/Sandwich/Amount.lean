import Sandwich.Bytes
import Sandwich.Text.Blank
import Sandwich.Text.Quoted

/-! Amounts as text: a decimal numeral and then the unit, which is a name or
the number of zeros after an underscore. What the numeral says below one wei is
cut off. -/

namespace Sandwich

/-- What is wrong with the text of an amount. -/
inductive AmountFault
  | unknownUnit (unit : String)
  /-- A second point is among the digits that count. -/
  | invalidDigit (c : Char)
  /-- The amount takes more than 256 bits. -/
  | tooLarge
deriving DecidableEq

/-- Why a text is not an amount. -/
inductive AmountError
  | malformed (text : String) (fault : AmountFault)
  /-- The amount is a fee and takes more than 128 bits. -/
  | feeTooLarge (text : String)
deriving DecidableEq

def AmountFault.message : AmountFault → String
  | unknownUnit unit => Text.quote unit ++ " is not a valid unit"
  | invalidDigit c => "invalid digit: " ++ c.toString
  | tooLarge => "number does not fit in the integer size"

def AmountError.message : AmountError → String
  | malformed text fault => "Invalid ether value '" ++ text ++ "': " ++ fault.message
  | feeTooLarge text => "Fee value '" ++ text ++ "' does not fit in 128 bits"

namespace Amount

/-- The names of the units and the zeros that each stands for. -/
def units : List (String × Nat) := [
  ("wei", 0),
  ("kwei", 3), ("babbage", 3), ("femto", 3), ("femtoether", 3),
  ("mwei", 6), ("lovelace", 6), ("pico", 6), ("picoether", 6),
  ("gwei", 9), ("shannon", 9), ("nano", 9), ("nanoether", 9),
  ("twei", 12), ("szabo", 12), ("micro", 12), ("microether", 12),
  ("pwei", 15), ("finney", 15), ("milli", 15), ("milliether", 15),
  ("eth", 18), ("ether", 18)]

/-- The largest number of zeros a unit may stand for. -/
def maxExponent : Nat := 77

/-- A number of zeros in decimal, after the number `n` read so far. Underscores are passed over. -/
def readExponent : (n : Nat) → List Char → Option Nat
  | n, [] => some n
  | n, c :: cs =>
    if c = '_' then readExponent n cs
    else if c.isDigit then readExponent (10 * n + (c.toNat - '0'.toNat)) cs
    else none

/-- The zeros that a unit stands for, the case of its letters being ignored. -/
def exponent? (unit : List Char) : Option Nat :=
  match readExponent 0 unit with
  | some n => if n ≤ maxExponent then some n else none
  | none => units.lookup (String.ofList (unit.map Char.toLower))

/-- How many digits are read before the size of the number is looked at. -/
def groupLength : Nat := 19

/-- The number written in decimal after `n`. It has to be below `2 ^ 256` after each group of
digits and at the end; `room` is the number of digits that the current group still takes. -/
def readDigits : (n room : Nat) → List Char → Except AmountFault Nat
  | n, _, [] => if n < bitBound 256 then .ok n else .error .tooLarge
  | n, room, c :: cs =>
    if c.isDigit then
      let n := 10 * n + (c.toNat - '0'.toNat)
      if 1 < room then readDigits n (room - 1) cs
      else if n < bitBound 256 then readDigits n groupLength cs
      else .error .tooLarge
    else .error (.invalidDigit c)

/-- The numeral times `10 ^ exponent`. Of the digits after the point `exponent` count. -/
def scale (numeral : List Char) (exponent : Nat) : Except AmountFault UInt256 := do
  let whole := numeral.takeWhile (· ≠ '.')
  let fraction := (numeral.dropWhile (· ≠ '.')).drop 1
  let n ← readDigits 0 groupLength (whole ++ fraction.take exponent)
  let scaled := n * Nat.pow 10 (exponent - fraction.length)
  if scaled < bitBound 256 then return BitVec.ofNat 256 scaled else throw .tooLarge

/-- Whether the character belongs to the numeral at the start of an amount. -/
def inNumeral (c : Char) : Bool := c.isDigit || c = '.'

/-- The amount in wei that a text stands for, blanks around it being ignored. -/
def parse (text : List Char) : Except AmountError UInt256 :=
  let text := Text.trim text
  let unit := text.dropWhile inNumeral
  let amount : Except AmountFault UInt256 :=
    match exponent? (if unit.isEmpty then ['w', 'e', 'i'] else unit) with
    | none => .error (.unknownUnit (String.ofList unit))
    | some exponent => scale (text.takeWhile inNumeral) exponent
  amount.mapError (.malformed (String.ofList text))

/-- As `parse`, for amounts paid for each unit of gas. -/
def parseFee (text : List Char) : Except AmountError UInt128 := do
  let amount ← parse text
  if amount.toNat < bitBound 128 then return BitVec.ofNat 128 amount.toNat
  else throw (.feeTooLarge (String.ofList text))

end Amount

end Sandwich

import Sandwich.Bytes

/-! Text beyond ASCII in ASCII letters, digits and hyphens. The ASCII characters
of the text come first, and behind the last hyphen numbers tell which other
characters go where. -/

namespace Sandwich.Domain.Punycode

/-- The value of a digit in base thirty-six, letters first. -/
def digit? (c : Char) : Option Nat :=
  if 'a' ≤ c && c ≤ 'z' then some (c.toNat - 'a'.toNat)
  else if 'A' ≤ c && c ≤ 'Z' then some (c.toNat - 'A'.toNat)
  else if c.isDigit then some (26 + (c.toNat - '0'.toNat))
  else none

/-- The digit at a place that does not end a number is at least this. -/
def threshold (bias place : Nat) : Nat := if place ≤ bias then 1 else min (place - bias) 26

/-- The sum of `index` and a number, whose last digit is the first one below its threshold,
and the text behind it. Neither the sum nor the weight of a digit exceeds a word. -/
def add? (bias : Nat) : (place weight index : Nat) → List Char → Option (Nat × List Char)
  | _, _, _, [] => none
  | place, weight, index, c :: cs =>
    match digit? c with
    | none => none
    | some digit =>
      let index := index + digit * weight
      let next := weight * (36 - threshold bias place)
      if bitBound 32 ≤ index then none
      else if digit < threshold bias place then some (index, cs)
      else if bitBound 32 ≤ next then none
      else add? bias (place + 36) next index cs

/-- The bias after a number of the size `delta` that makes `count` characters. -/
def adapt (delta count : Nat) (isFirst : Bool) : Nat :=
  let rec slide : (fuel delta k : Nat) → Nat
    | 0, _, k => k
    | fuel + 1, delta, k =>
      if 455 < delta then slide fuel (delta / 35) (k + 36) else k + 36 * delta / (delta + 38)
  let delta := if isFirst then delta / 700 else delta / 2
  slide 8 (delta + delta / count) 0

/-- The text with the characters put in that the digits tell of. Each number counts the
steps over the places of the text, and from one code to the next when they are through. -/
def insert? : (bound : Nat) → (text : List Char) → (code index bias : Nat) → List Char →
    Option (List Char)
  | _, text, _, _, _, [] => some text
  | 0, _, _, _, _, _ => none
  | bound + 1, text, code, index, bias, digits => do
    let (sum, digits) ← add? bias 36 1 index digits
    let count := text.length + 1
    let code := code + sum / count
    if code.isValidChar then
      insert? bound (text.insertIdx (sum % count) (Char.ofNat code)) code (sum % count + 1)
        (adapt (sum - index) count (index = 0)) digits
    else none

/-- The text that a label stands for. -/
def decode? (label : List Char) : Option (List Char) :=
  let digits := (label.reverse.takeWhile (· ≠ '-')).reverse
  let basic := label.take (label.length - digits.length - 1)
  let digits := if basic.isEmpty then label else digits
  insert? digits.length (basic.map Char.toLower) 128 0 72 digits

end Sandwich.Domain.Punycode

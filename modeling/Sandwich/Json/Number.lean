import Sandwich.Bytes

/-! How whole numbers are written. A number beyond a word of 64 bits is kept as the
nearest double, and written with the fewest digits that tell it from all others. -/

namespace Sandwich.Number

/-- Whether a number fits into a word, with a sign or without one. -/
def isWord (n : Int) : Bool := -(bitBound 63 : Int) ≤ n && n < bitBound 64

/-- The double nearest to a number of at least 53 bits, as a significand and the exponent of
two; of two doubles that are equally near, the one with the even significand. -/
def nearestDouble (n : Nat) : Nat × Nat :=
  let exponent := n.log2 - 52
  let unit := bitBound exponent
  let rest := n % unit
  let significand :=
    if unit < 2 * rest || (unit = 2 * rest && n / unit % 2 = 1) then n / unit + 1 else n / unit
  if significand = bitBound 53 then (bitBound 52, exponent + 1) else (significand, exponent)

/-- Whether no double is nearer to `4 * m` than the one given. -/
def readsBack (significand exponent m : Nat) : Bool :=
  let unit := bitBound exponent
  let value := 4 * significand * unit
  let low := value - (if significand = bitBound 52 then unit else 2 * unit)
  let high := value + 2 * unit
  (low < 4 * m && 4 * m < high) || (significand % 2 = 0 && (low = 4 * m || 4 * m = high))

/-- The number with the fewest digits before its zeros that reads back as a double, and of
those the nearest one. -/
def shortest (significand exponent : Nat) : Nat :=
  let value := significand * bitBound exponent
  let length := (Nat.toDigits 10 value).length
  let candidate (digits : Nat) : Option Nat :=
    let place := Nat.pow 10 (length - digits)
    let below := value / place * place
    let above := below + place
    match readsBack significand exponent below, readsBack significand exponent above with
    | true, true => some (if value - below ≤ above - value then below else above)
    | true, false => some below
    | false, true => some above
    | false, false => none
  ((List.range' 1 17).findSome? candidate).getD value

/-- The digits of a number with a point behind the first, and the power of ten. -/
def scientific (n : Nat) : String :=
  let digits := Nat.toDigits 10 n
  let counting := (digits.reverse.dropWhile (· = '0')).reverse
  let fraction := if counting.length ≤ 1 then [] else '.' :: counting.tail
  String.ofList (counting.take 1 ++ fraction) ++ "e" ++ toString (digits.length - 1)

/-- The text of a whole number. -/
def render (n : Int) : String :=
  if isWord n then toString n
  else
    let (significand, exponent) := nearestDouble n.natAbs
    (if n < 0 then "-" else "") ++ scientific (shortest significand exponent)

end Sandwich.Number

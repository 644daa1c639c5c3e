import Sandwich.Operation

/-! How the fees of a transaction are chosen. What the caller leaves open is
read from the node just before the transaction is made. -/

namespace Sandwich

/-- The fees as far as the caller gives them. -/
inductive FeePolicy
  | legacy (gasPrice : Option UInt128)
  | dynamic (tip cap : Option UInt128)
deriving DecidableEq

namespace FeePolicy

/-- Fees of type 2 that the node is asked for. -/
def standard : FeePolicy := dynamic none none

/-- The largest number of 128 bits, at which sums of fees stay. -/
def ceiling : Nat := bitBound 128 - 1

/-- The cap that leaves room for the gas price to double, on top of the tip. -/
def defaultCap (gasPrice tip : UInt128) : UInt128 :=
  BitVec.ofNat 128 (min (min (2 * gasPrice.toNat) ceiling + tip.toNat) ceiling)

/-- The fees with the open parts filled in: first the tip, then the cap. -/
def resolve : FeePolicy → Operation Fees
  | legacy (some gasPrice) => return .legacy gasPrice
  | legacy none => return .legacy (← Operation.read .gasPrice .gasPrice)
  | dynamic tip cap => do
    let tip ← match tip with
      | some tip => pure tip
      | none => Operation.read .priorityFee .maxPriorityFee
    match cap with
    | some cap =>
      if cap.toNat < tip.toNat then throw (.invalidFees cap tip) else return .dynamic tip cap
    | none =>
      let gasPrice ← Operation.read .gasPrice .gasPrice
      return .dynamic tip (defaultCap gasPrice tip)

end FeePolicy

end Sandwich

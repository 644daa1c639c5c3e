import Sandwich.Command.Error
import Sandwich.Fees

/-! The options that set the fees of a transaction. -/

namespace Sandwich.Command

/-- The options for fees, the amounts still being text. -/
structure FeeOptions where
  legacy : Bool := false
  gasPrice : Option String := none
  priorityFee : Option String := none
  maxFee : Option String := none
  gasLimit : Option UInt64 := none
deriving DecidableEq

namespace FeeOptions

/-- No option may be for the other type of transaction. -/
def validate (o : FeeOptions) : Except CommandError Unit :=
  if !o.legacy && o.gasPrice.isSome then .error (.input .gasPriceWithoutLegacy)
  else if o.legacy && (o.priorityFee.isSome || o.maxFee.isSome) then
    .error (.input .tipWithLegacy)
  else .ok ()

/-- An amount that may be left out. -/
def amount : Option String → Except CommandError (Option UInt128)
  | none => .ok none
  | some text => ((Amount.parseFee text.toList).map some).mapError (.input ∘ .amount)

/-- The policy that the options describe. -/
def policy (o : FeeOptions) : Except CommandError FeePolicy := do
  o.validate
  if o.legacy then return .legacy (← amount o.gasPrice)
  else
    let tip ← amount o.priorityFee
    let cap ← amount o.maxFee
    return .dynamic tip cap

def gasLimitOr (o : FeeOptions) (default : UInt64) : UInt64 := o.gasLimit.getD default

end FeeOptions

end Sandwich.Command

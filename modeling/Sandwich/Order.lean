import Sandwich.Layout.Table

/-! Orders to the contract, and the granularity of the amounts that travel as
the value of a call. -/

namespace Sandwich

/-- The arguments of a front-run: a pool, and two sub-operations with a
parameter each. -/
structure Frontrun where
  target : Address
  subOp : UInt8
  param1 : UInt32
  subOp2 : UInt8
  param2 : UInt32
deriving DecidableEq

def Frontrun.encode (f : Frontrun) (opcode : UInt8) : Except PayloadError Bytes :=
  Layout.frontrun.encode opcode
    [.ofAddress f.target, .ofUInt8 f.subOp, .ofUInt32 f.param1, .ofUInt8 f.subOp2,
      .ofUInt32 f.param2]

/-- The order to hand `amount` of the wrapped asset back to the owner. -/
def encodeRecover (opcode : UInt8) (amount : UInt256) : Except PayloadError Bytes :=
  Layout.recover.encode opcode [.ofUInt256 amount]

/-- The order to self-destruct. -/
def encodeDestroy (opcode : UInt8) : Except PayloadError Bytes :=
  Layout.destroy.encode opcode []

namespace CallValue

/-- The contract multiplies the value of a call by this to get an amount of the wrapped asset. -/
def wrappedUnit : UInt256 := 100000

/-- The same for amounts of a token that is passed on within a swap. -/
def intermediaryUnit : UInt256 := 10000000000000

/-- The amount of the wrapped asset that is left when it travels as the value of a call. -/
def quantizeWrapped (amount : UInt256) : UInt256 := amount / wrappedUnit * wrappedUnit

/-- The same for a token that is passed on. -/
def quantizeIntermediary (amount : UInt256) : UInt256 :=
  amount / intermediaryUnit * intermediaryUnit

/-- The value of the call that stands for `amount` of the wrapped asset. -/
def ofWrapped (amount : UInt256) : UInt256 := amount / wrappedUnit

end CallValue

end Sandwich

import Sandwich.Layout.Table

/-! Swaps through the multi-call path. A pool orders its two tokens by
address, so that which parameter takes an amount, and which opcode applies,
depends on how the wrapped asset sorts against the other token. -/

namespace Sandwich

/-- The hash that tells pools apart: of the two tokens and the fee, each as a word. -/
def poolKey (hash : Bytes → Word) (first second : Address) (fee : UInt32) : Word :=
  hash (first.toWord.toBytes ++ second.toWord.toBytes ++ Bytes.ofNat 32 fee.toNat)

/-- The parameter of a swap in a pool of the third version that takes the amount. -/
def v3AmountParameter : UInt8 := 2

/-- The wrapped asset in, a token out. -/
structure V2Frontrun where
  pool : Address
  amountIn : CompactAmount
  amountOut : CompactAmount

namespace V2Frontrun

def build (pool wrapped token : Address) (amountIn amountOut : UInt256) :
    Except PayloadError V2Frontrun := do
  return {
    pool
    amountIn := ← CompactAmount.encode amountIn 0
    amountOut := ← CompactAmount.encode amountOut (if wrapped < token then 1 else 0) }

def encode (s : V2Frontrun) : Except PayloadError Bytes :=
  Layout.v2Frontrun.encode Layout.v2Frontrun.opcode
    [.ofAddress s.pool, .compact s.amountIn, .compact s.amountOut]

end V2Frontrun

/-- A token in, the wrapped asset out. -/
structure V2Backrun where
  pool : Address
  inputToken : Address
  amountIn : CompactAmount
  amountOut : CompactAmount

namespace V2Backrun

def build (pool wrapped token : Address) (amountIn amountOut : UInt256) :
    Except PayloadError V2Backrun := do
  return {
    pool
    inputToken := token
    amountIn := ← CompactAmount.encode amountIn 1
    amountOut := ← CompactAmount.encode amountOut (if wrapped < token then 0 else 1) }

def encode (s : V2Backrun) : Except PayloadError Bytes :=
  Layout.v2Backrun.encode Layout.v2Backrun.opcode
    [.ofAddress s.pool, .ofAddress s.inputToken, .compact s.amountIn, .compact s.amountOut]

end V2Backrun

/-- The wrapped asset in, a token out, in a pool of the third version. -/
structure V3Frontrun where
  pool : Address
  poolKey : Word
  amountIn : CompactAmount
  wrappedIsFirst : Bool

namespace V3Frontrun

def build (pool : Address) (poolKey : Word) (wrapped token : Address) (amountIn : UInt256) :
    Except PayloadError V3Frontrun := do
  return {
    pool
    poolKey
    amountIn := ← CompactAmount.encode amountIn v3AmountParameter
    wrappedIsFirst := decide (wrapped < token) }

def encode (s : V3Frontrun) : Except PayloadError Bytes :=
  let layout := Layout.v3Frontrun s.wrappedIsFirst
  layout.encode layout.opcode [.ofAddress s.pool, .word s.poolKey, .compact s.amountIn]

end V3Frontrun

/-- A token in, the wrapped asset out, in a pool of the third version. -/
structure V3Backrun where
  pool : Address
  poolKey : Word
  amountIn : CompactAmount
  inputToken : Address
  wrappedIsFirst : Bool

namespace V3Backrun

def build (pool : Address) (poolKey : Word) (wrapped token : Address) (amountIn : UInt256) :
    Except PayloadError V3Backrun := do
  return {
    pool
    poolKey
    amountIn := ← CompactAmount.encode amountIn v3AmountParameter
    inputToken := token
    wrappedIsFirst := decide (wrapped < token) }

def encode (s : V3Backrun) : Except PayloadError Bytes :=
  let layout := Layout.v3Backrun s.wrappedIsFirst
  layout.encode layout.opcode
    [.ofAddress s.pool, .word s.poolKey, .compact s.amountIn, .ofAddress s.inputToken]

end V3Backrun

end Sandwich

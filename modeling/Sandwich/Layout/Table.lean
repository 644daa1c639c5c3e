import Sandwich.Layout.Basic

/-! The layouts that the contract understands. The swaps through its
multi-call path are dispatched by a jump table: the opcode is the place in the
code to jump to, and there is an entry every five bytes. -/

namespace Sandwich

/-! ### Opcodes -/

/-- The entry points in the order of the jump table. -/
def entryPoints : List String := [
  "v2_backrun0", "v2_frontrun0", "v2_backrun1", "v2_frontrun1",
  "v3_backrun0", "v3_frontrun0", "v3_backrun1", "v3_frontrun1",
  "seppuku", "recoverEth", "recoverWeth",
  "v2_backrun_multi", "v2_frontrun_multi",
  "v3_backrun0_multi", "v3_frontrun0_multi", "v3_backrun1_multi", "v3_frontrun1_multi",
  "check_block_number"]

/-- The opcode that jumps to an entry point, if the table has it. -/
def jumpDestination? (entryPoint : String) : Option UInt8 :=
  (entryPoints.idxOf? entryPoint).map fun i => 5 + 5 * UInt8.ofNat i

namespace Opcode

def frontrun : UInt8 := 11

def recover : UInt8 := 66

def destroy : UInt8 := 42

end Opcode

namespace Layout

/-! ### The nine layouts -/

def frontrun : Layout where
  name := "frontrun"
  opcode := Opcode.frontrun
  fields := [⟨"target", .address⟩, ⟨"sub_op", .uint8⟩, ⟨"param1", .uint32⟩, ⟨"sub_op2", .uint8⟩,
    ⟨"param2", .uint32⟩]

def recover : Layout where
  name := "recover"
  opcode := Opcode.recover
  fields := [⟨"amount", .uint256⟩]

def destroy : Layout where
  name := "destroy"
  opcode := Opcode.destroy
  fields := []

def v2Frontrun : Layout where
  name := "v2_frontrun_multi"
  opcode := 65
  fields := [⟨"pool", .address⟩, ⟨"amount_in", .compact⟩, ⟨"amount_out", .compact⟩]

def v2Backrun : Layout where
  name := "v2_backrun_multi"
  opcode := 60
  fields := [⟨"pool", .address⟩, ⟨"input_token", .address⟩, ⟨"amount_in", .compact⟩,
    ⟨"amount_out", .compact⟩]

/-- The front-run of a pool whose first or second token is the wrapped asset. -/
def v3Frontrun (wrappedIsFirst : Bool) : Layout where
  name := if wrappedIsFirst then "v3_frontrun0_multi" else "v3_frontrun1_multi"
  opcode := if wrappedIsFirst then 75 else 85
  fields := [⟨"pool", .address⟩, ⟨"pool_key", .bytes32⟩, ⟨"amount_in", .compact⟩]

/-- The back-run of a pool whose first or second token is the wrapped asset. -/
def v3Backrun (wrappedIsFirst : Bool) : Layout where
  name := if wrappedIsFirst then "v3_backrun0_multi" else "v3_backrun1_multi"
  opcode := if wrappedIsFirst then 70 else 80
  fields := [⟨"pool", .address⟩, ⟨"pool_key", .bytes32⟩, ⟨"amount_in", .compact⟩,
    ⟨"input_token", .address⟩]

/-- All the layouts. No two share an opcode. -/
def all : List Layout := [frontrun, recover, destroy, v2Frontrun, v2Backrun, v3Frontrun true,
  v3Frontrun false, v3Backrun true, v3Backrun false]

def ofOpcode? (opcode : UInt8) : Option Layout := all.find? (·.opcode == opcode)

def ofName? (name : String) : Option Layout := all.find? (·.name == name)

end Layout

namespace Payload

/-- The payload taken apart by the layout that its first byte selects. -/
def decode (data : Bytes) : Except PayloadError Payload :=
  match data with
  | [] => .error (.lengthMismatch "any" 1 0)
  | opcode :: _ =>
    match Layout.ofOpcode? opcode with
    | none => .error (.unknownOpcode opcode)
    | some l => l.decode data

end Payload

end Sandwich

import Sandwich.Order
import Sandwich.Proofs.Layout.RoundTrip

/-! What orders to the contract look like. Every field of an order has room for what
goes into it, so that there is an order for all arguments, whatever its opcode. -/

namespace Sandwich

/-- The bytes of a front-run: the opcode and the arguments, each in its width. -/
def Frontrun.payload (f : Frontrun) (opcode : UInt8) : Bytes :=
  opcode :: (f.target.toBytes ++ [f.subOp] ++ Bytes.ofNat 4 f.param1.toNat ++ [f.subOp2] ++
    Bytes.ofNat 4 f.param2.toNat)

namespace Field

/-- A numeral of the width of the field is written as it is. -/
theorem writeUint_of_length {f : Field} {digits : Bytes} (h : digits.length = f.kind.width) :
    f.writeUint digits = .ok digits := by
  rw [writeUint_eq, ← h, if_pos (Bytes.toNat_lt digits), Bytes.ofNat_toNat]

theorem write_address (name : String) (a : Address) :
    (Field.mk name .address).write (.ofAddress a) = .ok a.toBytes :=
  if_pos a.length_toBytes

theorem write_uint8 (name : String) (x : UInt8) :
    (Field.mk name .uint8).write (.ofUInt8 x) = .ok [x] :=
  writeUint_of_length (f := ⟨name, .uint8⟩) rfl

theorem write_uint32 (name : String) (x : UInt32) :
    (Field.mk name .uint32).write (.ofUInt32 x) = .ok (Bytes.ofNat 4 x.toNat) :=
  writeUint_of_length (f := ⟨name, .uint32⟩) (Bytes.length_ofNat 4 x.toNat)

theorem write_uint256 (name : String) (x : UInt256) :
    (Field.mk name .uint256).write (.ofUInt256 x) = .ok (Bytes.ofNat 32 x.toNat) := by
  -- behind a name, the digits are not computed when lengths are compared
  rw [Value.ofUInt256]
  generalize hdigits : Bytes.ofNat 32 x.toNat = digits
  exact writeUint_of_length (f := ⟨name, .uint256⟩) (hdigits ▸ Bytes.length_ofNat 32 x.toNat)

end Field

theorem encodeDestroy_eq (opcode : UInt8) : encodeDestroy opcode = .ok [opcode] := rfl

theorem encodeRecover_eq (opcode : UInt8) (amount : UInt256) :
    encodeRecover opcode amount = .ok (opcode :: Bytes.ofNat 32 amount.toNat) := by
  refine Layout.encode_eq_ok_iff.mpr ⟨rfl, _, ?_, rfl⟩
  refine Layout.writeFields_cons.mpr ⟨_, [], Field.write_uint256 _ _, rfl, ?_⟩
  rw [List.append_nil]

theorem Frontrun.encode_eq (f : Frontrun) (opcode : UInt8) :
    f.encode opcode = .ok (f.payload opcode) := by
  refine Layout.encode_eq_ok_iff.mpr ⟨rfl, _, ?_, rfl⟩
  refine Layout.writeFields_cons.mpr ⟨_, _, Field.write_address _ _, ?_, by
    rw [List.append_assoc, List.append_assoc, List.append_assoc]⟩
  refine Layout.writeFields_cons.mpr ⟨_, _, Field.write_uint8 _ _, ?_, rfl⟩
  refine Layout.writeFields_cons.mpr ⟨_, _, Field.write_uint32 _ _, ?_, rfl⟩
  refine Layout.writeFields_cons.mpr ⟨_, _, Field.write_uint8 _ _, ?_, rfl⟩
  refine Layout.writeFields_cons.mpr ⟨_, [], Field.write_uint32 _ _, rfl, ?_⟩
  rw [List.append_nil]

theorem Frontrun.length_payload (f : Frontrun) (opcode : UInt8) :
    (f.payload opcode).length = 31 := by
  simp [payload]

end Sandwich

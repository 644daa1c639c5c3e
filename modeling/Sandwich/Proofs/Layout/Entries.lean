import Sandwich.Proofs.Order

/-! Payloads put together field by field. Each kind of field has values that always
fit and that come back as they are; a row of such fields can be packed, and what is
taken apart is the row again. -/

namespace Sandwich

namespace Field

/-- The field has room for `v`, and `content` is what it is then read as. -/
def Holds (f : Field) (v : Value) (content : Content) : Prop :=
  ∃ bytes, f.write v = .ok bytes ∧ bytes.length = f.kind.width ∧ f.read bytes = .ok content

theorem holds_address (name : String) (a : Address) :
    Holds ⟨name, .address⟩ (.ofAddress a) (.address a) := by
  refine ⟨a.toBytes, write_address name a, a.length_toBytes, ?_⟩
  rw [read, Octets.leading_toBytes]

theorem holds_uint8 (name : String) (x : UInt8) :
    Holds ⟨name, .uint8⟩ (.ofUInt8 x) (.uint (BitVec.ofNat 256 x.toNat)) := by
  refine ⟨[x], write_uint8 name x, rfl, ?_⟩
  simp [read, Bytes.toNat_cons]

theorem holds_uint32 (name : String) (x : UInt32) :
    Holds ⟨name, .uint32⟩ (.ofUInt32 x) (.uint (BitVec.ofNat 256 x.toNat)) := by
  refine ⟨_, write_uint32 name x, Bytes.length_ofNat 4 x.toNat, ?_⟩
  have hx : x.toNat < 256 ^ 4 := x.toNat_lt
  simp only [read, Bytes.toNat_ofNat, Nat.mod_eq_of_lt hx]

theorem holds_uint256 (name : String) (x : UInt256) :
    Holds ⟨name, .uint256⟩ (.ofUInt256 x) (.uint x) := by
  refine ⟨_, write_uint256 name x, Bytes.length_ofNat 32 x.toNat, ?_⟩
  have hx : x.toNat < 256 ^ 32 := x.isLt.trans_eq (by norm_num)
  simp only [read, Bytes.toNat_ofNat, Nat.mod_eq_of_lt hx, BitVec.ofNat_toNat, BitVec.setWidth_eq]

theorem holds_word (name : String) (w : Word) :
    Holds ⟨name, .bytes32⟩ (.word w) (.word w) := by
  refine ⟨w.toBytes, rfl, w.length_toBytes, ?_⟩
  rw [read, Octets.leading_toBytes]

theorem holds_compact (name : String) {c : CompactAmount} (h : c.Obtainable) :
    Holds ⟨name, .compact⟩ (.compact c) (.compact c) := by
  have hlength := CompactAmount.length_toBytes c
  refine ⟨c.toBytes, rfl, hlength, ?_⟩
  rw [read, CompactAmount.ofOctets_toBytes h.inWord (Octets.toBytes_leading hlength)]
  rfl

end Field

namespace Layout

def entries (fields : List Field) (contents : List Content) : List (String × Content) :=
  (fields.map (·.name)).zip contents

/-- The fields hold the values in order, each as its content. -/
inductive Row : List Field → List Value → List Content → Prop
  | nil : Row [] [] []
  | cons {f : Field} {v : Value} {content : Content} {fields : List Field} {values : List Value}
      {contents : List Content} (h : f.Holds v content) (hrest : Row fields values contents) :
      Row (f :: fields) (v :: values) (content :: contents)

theorem Row.length_eq {fields : List Field} {values : List Value} {contents : List Content}
    (h : Row fields values contents) : values.length = fields.length := by
  induction h with
  | nil => rfl
  | cons _ _ ih => rw [List.length_cons, List.length_cons, ih]

theorem Row.exists_bytes {fields : List Field} {values : List Value} {contents : List Content}
    (h : Row fields values contents) :
    ∃ bytes, writeFields fields values = .ok bytes ∧
      bytes.length = (fields.map (·.kind.width)).sum ∧
      readFields fields bytes = .ok (entries fields contents) := by
  induction h with
  | nil => exact ⟨[], rfl, rfl, rfl⟩
  | @cons f v content fields values contents h _ ih =>
    obtain ⟨chunk, hwrite, hwidth, hread⟩ := h
    obtain ⟨rest, hrestWrite, hrestLength, hrestRead⟩ := ih
    refine ⟨chunk ++ rest, writeFields_cons.mpr ⟨chunk, rest, hwrite, hrestWrite, rfl⟩, ?_, ?_⟩
    · simp [hwidth, hrestLength]
    · refine readFields_cons.mpr ⟨content, entries fields contents, ?_, ?_, rfl⟩
      · rwa [← hwidth, List.take_left]
      · rwa [← hwidth, List.drop_left]

/-- A row of values that fit is packed, and the payload is taken apart into the row. -/
theorem exists_payload {l : Layout} (hl : l ∈ all) {values : List Value} {contents : List Content}
    (h : Row l.fields values contents) :
    ∃ data, l.encode l.opcode values = .ok data ∧
      Payload.decode data = .ok ⟨l.name, l.opcode, entries l.fields contents⟩ := by
  obtain ⟨bytes, hwrite, hlength, hread⟩ := h.exists_bytes
  refine ⟨l.opcode :: bytes, encode_eq_ok_iff.mpr ⟨h.length_eq, bytes, hwrite, rfl⟩, ?_⟩
  have hsize : (l.opcode :: bytes).length = l.size := by
    rw [size_eq, List.length_cons, hlength, Nat.add_comm]
  rw [Payload.decode, ofOpcode?_opcode hl]
  exact decode_eq_ok_iff.mpr ⟨hsize, _, hread, rfl⟩

end Layout

end Sandwich

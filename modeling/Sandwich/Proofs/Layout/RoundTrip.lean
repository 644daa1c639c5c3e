import Mathlib.Data.List.Forall2
import Sandwich.Layout.Table
import Sandwich.Proofs.Except
import Sandwich.Proofs.Layout.Field

/-! Packing and then unpacking. Whatever a layout packs has the length of the
layout and is taken apart, field by field, into the values that went in; for the
layouts of the contract the opcode alone finds the layout again. -/

namespace Sandwich.Layout

theorem size_eq (l : Layout) : l.size = 1 + (l.fields.map (·.kind.width)).sum := by
  rw [size, List.sum_eq_foldr, List.foldr_map]

/-! ### Fields in a row -/

theorem writeFields_cons {f : Field} {fields : List Field} {v : Value} {values : List Value}
    {bytes : Bytes} :
    writeFields (f :: fields) (v :: values) = .ok bytes ↔
      ∃ chunk rest, f.write v = .ok chunk ∧ writeFields fields values = .ok rest ∧
        bytes = chunk ++ rest := by
  rw [writeFields]
  simp only [Except.bind_eq_ok_iff]
  constructor
  · rintro ⟨chunk, hchunk, rest, hrest, h⟩
    cases h
    exact ⟨chunk, rest, hchunk, hrest, rfl⟩
  · rintro ⟨chunk, rest, hchunk, hrest, rfl⟩
    exact ⟨chunk, hchunk, rest, hrest, rfl⟩

theorem readFields_cons {f : Field} {fields : List Field} {bytes : Bytes}
    {read : List (String × Content)} :
    readFields (f :: fields) bytes = .ok read ↔
      ∃ content rest, f.read (bytes.take f.kind.width) = .ok content ∧
        readFields fields (bytes.drop f.kind.width) = .ok rest ∧
        read = (f.name, content) :: rest := by
  rw [readFields]
  simp only [Except.bind_eq_ok_iff]
  constructor
  · rintro ⟨content, hcontent, rest, hrest, h⟩
    cases h
    exact ⟨content, rest, hcontent, hrest, rfl⟩
  · rintro ⟨content, rest, hcontent, hrest, rfl⟩
    exact ⟨content, hcontent, rest, hrest, rfl⟩

/-- Fields take up their widths one after the other and read back as what was written. -/
theorem readFields_writeFields {fields : List Field} {values : List Value} {bytes : Bytes}
    (hlen : values.length = fields.length)
    (hc : ∀ c, Value.compact c ∈ values → c.Obtainable)
    (h : writeFields fields values = .ok bytes) :
    bytes.length = (fields.map (·.kind.width)).sum ∧
      ∃ read, readFields fields bytes = .ok read ∧ read.map (·.1) = fields.map (·.name) ∧
        List.Forall₂ Value.Denotes values (read.map (·.2)) := by
  induction fields generalizing values bytes with
  | nil =>
    obtain rfl : values = [] := List.eq_nil_of_length_eq_zero hlen
    cases h
    exact ⟨rfl, [], rfl, rfl, .nil⟩
  | cons f fields ih =>
    obtain _ | ⟨v, values⟩ := values
    · cases hlen
    obtain ⟨chunk, rest, hchunk, hrest, rfl⟩ := writeFields_cons.mp h
    obtain ⟨hwidth, content, hcontent, hv⟩ :=
      Field.read_write hchunk fun c hvc => hc c (by rw [hvc]; exact List.mem_cons_self)
    obtain ⟨hsum, read, hread, hnames, hvs⟩ :=
      ih (Nat.succ.inj hlen) (fun c hmem => hc c (List.mem_cons_of_mem _ hmem)) hrest
    refine ⟨by simp [hwidth, hsum], (f.name, content) :: read, ?_, by simp [hnames], .cons hv hvs⟩
    rw [readFields_cons]
    refine ⟨content, read, ?_, ?_, rfl⟩
    · rwa [← hwidth, List.take_left]
    · rwa [← hwidth, List.drop_left]

/-! ### Whole payloads -/

theorem encode_eq_ok_iff {l : Layout} {opcode : UInt8} {values : List Value} {data : Bytes} :
    l.encode opcode values = .ok data ↔
      values.length = l.fields.length ∧
        ∃ bytes, writeFields l.fields values = .ok bytes ∧ data = opcode :: bytes := by
  rw [encode]
  split
  · next h => simp [h]
  · next h =>
    simp only [not_not.mp h, true_and, Except.map_eq_ok_iff]
    exact exists_congr fun _ => and_congr_right fun _ => eq_comm

theorem decode_eq_ok_iff {l : Layout} {data : Bytes} {p : Payload} :
    l.decode data = .ok p ↔
      data.length = l.size ∧
        ∃ read, readFields l.fields data.tail = .ok read ∧ p = ⟨l.name, data.headD 0, read⟩ := by
  rw [decode]
  split
  · next h => simp [h]
  · next h =>
    rw [Except.bind_eq_ok_iff]
    simp only [not_not.mp h, true_and]
    refine exists_congr fun read => and_congr_right fun _ => ?_
    exact ⟨fun h => by cases h; rfl, fun h => by rw [h]; rfl⟩

theorem ofOpcode?_opcode {l : Layout} (h : l ∈ all) : ofOpcode? l.opcode = some l := by
  revert l
  decide

/-- What was packed has the length of the layout and is taken apart into the layout's name, the
opcode, and the values under the names of their fields. The layouts of the contract are found
by the opcode. -/
theorem decode_of_encode (l : Layout) (opcode : UInt8) (values : List Value) (data : Bytes)
    (hc : ∀ c, Value.compact c ∈ values → c.Obtainable)
    (h : l.encode opcode values = .ok data) :
    data.length = l.size ∧ l.size = 1 + (l.fields.map (·.kind.width)).sum ∧
      ∃ p, l.decode data = .ok p ∧ p.layout = l.name ∧ p.opcode = opcode ∧
        p.fields.map (·.1) = l.fields.map (·.name) ∧
        List.Forall₂ Value.Denotes values (p.fields.map (·.2)) ∧
        (l ∈ all → opcode = l.opcode → Payload.decode data = .ok p) := by
  obtain ⟨hlen, bytes, hbytes, rfl⟩ := encode_eq_ok_iff.mp h
  obtain ⟨hsum, read, hread, hnames, hvalues⟩ := readFields_writeFields hlen hc hbytes
  have hsize : (opcode :: bytes).length = l.size := by
    rw [size_eq, List.length_cons, hsum, Nat.add_comm]
  have hdecode : l.decode (opcode :: bytes) = .ok ⟨l.name, opcode, read⟩ :=
    decode_eq_ok_iff.mpr ⟨hsize, read, hread, rfl⟩
  refine ⟨hsize, size_eq l, ⟨l.name, opcode, read⟩, hdecode, rfl, rfl, hnames, hvalues, ?_⟩
  rintro hl rfl
  rw [Payload.decode, ofOpcode?_opcode hl]
  exact hdecode

/-- A front-run whose first amount was read off the wire and whose second one has a unit less. -/
theorem decode_of_encode_v2Frontrun :
    let values : List Value := [.address (List.replicate 20 17), .compact ⟨32, 8⟩,
      .compact (CompactAmount.decrement ⟨91, 256⟩)]
    let data : Bytes := 65 :: List.replicate 20 17 ++ [32, 0, 0, 0, 8, 91, 0, 0, 0, 255]
    (∀ c, Value.compact c ∈ values → c.Obtainable) ∧ v2Frontrun.encode 65 values = .ok data ∧
      data.length = v2Frontrun.size ∧
      ∃ p, Payload.decode data = .ok p ∧ p.layout = "v2_frontrun_multi" ∧
        p.fields.map (·.1) = ["pool", "amount_in", "amount_out"] ∧
        List.Forall₂ Value.Denotes values (p.fields.map (·.2)) := by
  intro values data
  have hc : ∀ c, Value.compact c ∈ values → c.Obtainable := by
    intro c hmem
    simp only [values, List.mem_cons, List.not_mem_nil, or_false, reduceCtorEq, false_or,
      Value.compact.injEq] at hmem
    obtain rfl | rfl := hmem
    · exact .read (show CompactAmount.ofOctets ⟨[32, 0, 0, 0, 8], rfl⟩ = .ok _ by decide)
    · have h : CompactAmount.ofOctets ⟨[91, 0, 0, 1, 0], rfl⟩ = .ok ⟨91, 256⟩ := by decide
      exact .decremented (.read h)
  have h : v2Frontrun.encode 65 values = .ok data := by decide
  obtain ⟨hlen, -, p, -, hlayout, -, hnames, hvalues, hp⟩ :=
    decode_of_encode v2Frontrun 65 values data hc h
  exact ⟨hc, h, hlen, p, hp (by decide) rfl, hlayout, hnames, hvalues⟩

end Sandwich.Layout

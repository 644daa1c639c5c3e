import Sandwich.Proofs.Layout.WireFormat

/-! What can be packed, and where it goes. Values are packed just if there is one for
every field and each fits its field; the first that does not is the reason why not.
Every value then lies behind those before it, in the bytes of its own field, and of a
number only its size matters, never the zeros in front of it. -/

namespace Sandwich

namespace Value

/-- The same value, but perhaps for zeros in front of a number. -/
inductive Alike : Value → Value → Prop
  | refl (v : Value) : Alike v v
  | uint {digits digits' : Bytes} (h : Bytes.toNat digits = Bytes.toNat digits') :
      Alike (.uint digits) (.uint digits')

theorem alike_leading_zeros (zeros : ℕ) (digits : Bytes) :
    Alike (.uint digits) (.uint (List.replicate zeros 0 ++ digits)) := by
  apply Alike.uint
  rw [Bytes.toNat_append, Bytes.toNat_replicate_zero, Nat.zero_mul, Nat.zero_add]

end Value

namespace Field

variable {f : Field} {v : Value}

theorem write_congr {v' : Value} (h : v.Alike v') : f.write v = f.write v' := by
  cases h with
  | refl => rfl
  | @uint digits digits' hn =>
    by_cases hsuits : (Value.uint digits).Suits f.kind
    · have hsuits' : (Value.uint digits').Suits f.kind := hsuits
      rw [write_uint hsuits, write_uint hsuits', writeUint_eq, writeUint_eq, hn]
    · have hsuits' : ¬ (Value.uint digits').Suits f.kind := hsuits
      rw [write_of_not_suits hsuits, write_of_not_suits hsuits']
      rfl

end Field

namespace Layout

/-! ### Fields in a row -/

def MisfitAt (fields : List Field) (values : List Value) (k : ℕ) (e : PayloadError) : Prop :=
  ∃ f v, fields[k]? = some f ∧ values[k]? = some v ∧ f.Misfit v e

def FirstMisfit (fields : List Field) (values : List Value) (k : ℕ) (e : PayloadError) : Prop :=
  MisfitAt fields values k e ∧ ∀ j < k, ∀ e', ¬ MisfitAt fields values j e'

/-- Every value lies in the bytes of its field, behind the `offset` and the fields before. -/
def InPlace (fields : List Field) (values : List Value) (offset : ℕ) (bytes : Bytes) : Prop :=
  ∀ (k : ℕ) (f : Field) (v : Value), fields[k]? = some f → values[k]? = some v →
    f.Fills v ((bytes.drop (offset + place fields k)).take f.kind.width)

variable {f : Field} {fields : List Field} {v : Value} {values : List Value} {bytes : Bytes}
  {e : PayloadError}

theorem misfitAt_zero : MisfitAt (f :: fields) (v :: values) 0 e ↔ f.Misfit v e := by
  simp [MisfitAt]

theorem misfitAt_succ {k : ℕ} :
    MisfitAt (f :: fields) (v :: values) (k + 1) e ↔ MisfitAt fields values k e := by
  simp only [MisfitAt, List.getElem?_cons_succ]

theorem firstMisfit_succ {k : ℕ} :
    FirstMisfit (f :: fields) (v :: values) (k + 1) e ↔
      (∀ e', ¬ f.Misfit v e') ∧ FirstMisfit fields values k e := by
  simp only [FirstMisfit, Nat.forall_lt_succ_left, misfitAt_succ, misfitAt_zero]
  exact and_left_comm

theorem drop_place_succ (k : ℕ) :
    bytes.drop (0 + place (f :: fields) (k + 1)) =
      (bytes.drop f.kind.width).drop (0 + place fields k) := by
  rw [place_succ, List.drop_drop, Nat.zero_add, Nat.zero_add]

theorem inPlace_cons :
    InPlace (f :: fields) (v :: values) 0 bytes ↔
      f.Fills v (bytes.take f.kind.width) ∧ InPlace fields values 0 (bytes.drop f.kind.width) := by
  constructor
  · intro h
    refine ⟨h 0 f v rfl rfl, fun k g w hg hw => ?_⟩
    have hk := h (k + 1) g w hg hw
    rwa [drop_place_succ] at hk
  · rintro ⟨hfirst, hrest⟩ k g w hg hw
    cases k with
    | zero =>
      cases hg
      cases hw
      exact hfirst
    | succ k =>
      rw [drop_place_succ]
      exact hrest k g w hg hw

theorem writeFields_eq_ok_iff (hlen : values.length = fields.length) :
    writeFields fields values = .ok bytes ↔
      bytes.length = (fields.map (·.kind.width)).sum ∧ InPlace fields values 0 bytes := by
  induction fields generalizing values bytes with
  | nil =>
    obtain rfl : values = [] := List.eq_nil_of_length_eq_zero hlen
    simp [writeFields, InPlace, eq_comm]
  | cons f fields ih =>
    obtain _ | ⟨v, values⟩ := values
    · cases hlen
    rw [inPlace_cons, writeFields_cons, List.map_cons, List.sum_cons]
    constructor
    · rintro ⟨chunk, rest, hchunk, hrest, rfl⟩
      have hfills := Field.write_eq_ok_iff.mp hchunk
      have hwidth := hfills.length_eq
      obtain ⟨hsum, hplaces⟩ := (ih (Nat.succ.inj hlen)).mp hrest
      rw [← hwidth, List.take_left, List.drop_left, List.length_append, hsum]
      exact ⟨rfl, hfills, hplaces⟩
    · rintro ⟨hlength, hfills, hplaces⟩
      refine ⟨_, _, Field.write_eq_ok_iff.mpr hfills, (ih (Nat.succ.inj hlen)).mpr ⟨?_, hplaces⟩, ?_⟩
      · rw [List.length_drop, hlength, Nat.add_sub_cancel_left]
      · rw [List.take_append_drop]

theorem writeFields_cons_eq_error_iff :
    writeFields (f :: fields) (v :: values) = .error e ↔
      f.write v = .error e ∨ ∃ chunk, f.write v = .ok chunk ∧
        writeFields fields values = .error e := by
  rw [writeFields]
  simp only [Except.bind_eq_error_iff]
  refine or_congr_right (exists_congr fun chunk => and_congr_right fun _ => or_iff_left ?_)
  rintro ⟨rest, -, h⟩
  cases h

theorem writeFields_eq_error_iff (hlen : values.length = fields.length) :
    writeFields fields values = .error e ↔ ∃ k, FirstMisfit fields values k e := by
  induction fields generalizing values with
  | nil =>
    obtain rfl : values = [] := List.eq_nil_of_length_eq_zero hlen
    simp [writeFields, FirstMisfit, MisfitAt]
  | cons f fields ih =>
    obtain _ | ⟨v, values⟩ := values
    · cases hlen
    rw [writeFields_cons_eq_error_iff, ih (Nat.succ.inj hlen)]
    simp only [Field.write_eq_error_iff, Field.write_eq_ok_iff]
    constructor
    · rintro (hmisfit | ⟨chunk, hfills, k, hk⟩)
      · exact ⟨0, misfitAt_zero.mpr hmisfit, fun j hj => absurd hj j.not_lt_zero⟩
      · exact ⟨k + 1, firstMisfit_succ.mpr ⟨fun e' => hfills.not_misfit, hk⟩⟩
    · rintro ⟨k, hk⟩
      cases k with
      | zero => exact .inl (misfitAt_zero.mp hk.1)
      | succ k =>
        obtain ⟨hfirst, hk⟩ := firstMisfit_succ.mp hk
        obtain ⟨chunk, hfills⟩ | ⟨e', hmisfit⟩ := Field.fills_or_misfit f v
        · exact .inr ⟨chunk, hfills, k, hk⟩
        · exact absurd hmisfit (hfirst e')

theorem writeFields_congr {values' : List Value} (h : List.Forall₂ Value.Alike values values') :
    writeFields fields values = writeFields fields values' := by
  induction h generalizing fields with
  | nil => rfl
  | cons hv _ ih =>
    cases fields with
    | nil => rfl
    | cons f fields => rw [writeFields, writeFields, Field.write_congr hv, ih]

/-! ### Whole payloads -/

/-- The payload is the opcode and then every value in its place, with nothing behind. -/
structure Packed (l : Layout) (opcode : UInt8) (values : List Value) (data : Bytes) : Prop where
  opcode : data.head? = some opcode
  length : data.length = l.size
  inPlace : InPlace l.fields values 1 data

theorem inPlace_opcode {opcode : UInt8} :
    InPlace fields values 1 (opcode :: bytes) ↔ InPlace fields values 0 bytes := by
  simp only [InPlace, Nat.zero_add, Nat.add_comm 1, List.drop_succ_cons]

variable {l : Layout} {opcode : UInt8} {data : Bytes}

theorem encode_eq_ok_iff_packed (hlen : values.length = l.fields.length) :
    l.encode opcode values = .ok data ↔ l.Packed opcode values data := by
  rw [encode_eq_ok_iff]
  constructor
  · rintro ⟨-, bytes, hbytes, rfl⟩
    obtain ⟨hsum, hplaces⟩ := (writeFields_eq_ok_iff hlen).mp hbytes
    refine ⟨rfl, ?_, inPlace_opcode.mpr hplaces⟩
    rw [size_eq, List.length_cons, hsum, Nat.add_comm]
  · rintro ⟨hopcode, hlength, hplaces⟩
    obtain ⟨bytes, rfl⟩ := List.head?_eq_some_iff.mp hopcode
    refine ⟨hlen, bytes, (writeFields_eq_ok_iff hlen).mpr ⟨?_, inPlace_opcode.mp hplaces⟩, rfl⟩
    exact length_tail hlength

/-- A word of a payload is all the bytes of its field. -/
theorem Packed.word {k : ℕ} {w : Word} (h : l.Packed opcode values data)
    (hf : l.fields[k]? = some f) (hw : values[k]? = some (.word w)) :
    (data.drop (1 + place l.fields k)).take f.kind.width = w.toBytes := by
  have hfills := h.inPlace k f _ hf hw
  generalize (data.drop (1 + place l.fields k)).take f.kind.width = chunk at hfills ⊢
  cases hfills with
  | word => rfl

/-- What is taken apart under the name of a layout is packed in that layout. -/
theorem packed_of_decode {p : Payload} (hl : l ∈ all) (h : Payload.decode data = .ok p)
    (hname : p.layout = l.name) :
    l.Packed p.opcode (p.fields.map fun f => f.2.toValue) data := by
  obtain ⟨m, hm, -, hname', -, hencode⟩ := Payload.encode_of_decode h
  obtain rfl := name_inj m hm l hl (hname'.symm.trans hname)
  exact (encode_eq_ok_iff_packed (encode_eq_ok_iff.mp hencode).1).mp hencode

theorem encode_eq_error_iff (hlen : values.length = l.fields.length) :
    l.encode opcode values = .error e ↔ ∃ k, FirstMisfit l.fields values k e := by
  rw [encode, if_neg (not_not.mpr hlen), Except.map_eq_error_iff, writeFields_eq_error_iff hlen]

theorem exists_encode_iff :
    (∃ data, l.encode opcode values = .ok data) ↔
      values.length = l.fields.length ∧ ∀ k e, ¬ MisfitAt l.fields values k e := by
  constructor
  · rintro ⟨data, h⟩
    obtain ⟨hlen, -⟩ := encode_eq_ok_iff.mp h
    refine ⟨hlen, ?_⟩
    rintro k e ⟨f, v, hf, hv, hmisfit⟩
    have hpacked := (encode_eq_ok_iff_packed hlen).mp h
    exact (hpacked.inPlace k f v hf hv).not_misfit hmisfit
  · rintro ⟨hlen, hnone⟩
    cases h : l.encode opcode values with
    | ok data => exact ⟨data, rfl⟩
    | error e =>
      obtain ⟨k, hk, -⟩ := (encode_eq_error_iff hlen).mp h
      exact absurd hk (hnone k e)

theorem encode_congr {values' : List Value} (h : List.Forall₂ Value.Alike values values') :
    l.encode opcode values' = l.encode opcode values := by
  rw [encode, encode, h.length_eq, writeFields_congr h]

/-- Values of another number than the fields are refused as such. Otherwise they are refused for the
first that does not fit its field, and for nothing else; and what is packed is the opcode and then
every value in its place: a number as a big-endian one of the width of the field, and an address, a
word or a compact amount as its bytes. Zeros in front of numbers make no difference. -/
theorem packing_exact (l : Layout) (opcode : UInt8) (values : List Value) :
    (values.length ≠ l.fields.length → l.encode opcode values =
      .error (.arityMismatch l.name l.fields.length values.length)) ∧
    (values.length = l.fields.length →
      (∀ e, l.encode opcode values = .error e ↔ ∃ k, FirstMisfit l.fields values k e) ∧
      ∀ data, l.encode opcode values = .ok data ↔ l.Packed opcode values data) ∧
    ((∃ data, l.encode opcode values = .ok data) ↔
      values.length = l.fields.length ∧ ∀ k e, ¬ MisfitAt l.fields values k e) ∧
    (∀ values', List.Forall₂ Value.Alike values values' →
      l.encode opcode values' = l.encode opcode values) ∧
    ∀ zeros digits, Value.Alike (.uint digits) (.uint (List.replicate zeros 0 ++ digits)) := by
  refine ⟨fun hne => if_pos hne, fun hlen => ⟨?_, ?_⟩, exists_encode_iff, ?_,
    Value.alike_leading_zeros⟩
  · exact fun e => encode_eq_error_iff hlen
  · exact fun data => encode_eq_ok_iff_packed hlen
  · exact fun values' h => encode_congr h

/-- A sub-operation of two bytes comes before a parameter that is no number. -/
theorem packing_exact_frontrun :
    let values : List Value := [.address (List.replicate 20 17), .uint [0, 1, 0], .address [],
      .ofUInt8 3, .ofUInt32 4]
    let e : PayloadError := .valueOutOfRange "sub_op" 1
    values.length = frontrun.fields.length ∧ frontrun.encode 11 values = .error e ∧
      ∃ k, FirstMisfit frontrun.fields values k e := by
  intro values e
  have hlen : values.length = frontrun.fields.length := rfl
  have h : frontrun.encode 11 values = .error e := by decide
  obtain ⟨herror, -⟩ := (packing_exact frontrun 11 values).2.1 hlen
  exact ⟨hlen, h, (herror e).mp h⟩

end Layout

end Sandwich

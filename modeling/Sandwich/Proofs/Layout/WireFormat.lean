import Sandwich.Proofs.Layout.RoundTrip

/-! The byte strings that are payloads. A payload starts with the opcode of a
layout, has that layout's length, and each of its compact amounts lies within
the word of a parameter. Nothing else is taken apart, nothing is lost when it is,
and what is refused is refused for the first of these conditions that it fails. -/

namespace Sandwich

namespace Layout

/-! ### Compact amounts out of place -/

def place (fields : List Field) (k : ℕ) : ℕ := ((fields.take k).map (·.kind.width)).sum

/-- Field `k` is a compact amount that would not lie within the word of a parameter. -/
def Misplaced (fields : List Field) (bytes : Bytes) (k : ℕ) : Prop :=
  ∃ f, fields[k]? = some f ∧ f.kind = .compact ∧
    ¬ CompactAmount.InWord (bytes.getD (place fields k) 0)

def FirstMisplaced (fields : List Field) (bytes : Bytes) (k : ℕ) : Prop :=
  Misplaced fields bytes k ∧ ∀ j < k, ¬ Misplaced fields bytes j

theorem place_succ (f : Field) (fields : List Field) (k : ℕ) :
    place (f :: fields) (k + 1) = f.kind.width + place fields k := by
  simp [place]

theorem misplaced_zero {f : Field} {fields : List Field} {bytes : Bytes} :
    Misplaced (f :: fields) bytes 0 ↔
      f.kind = .compact ∧ ¬ CompactAmount.InWord (bytes.getD 0 0) := by
  simp [Misplaced, place]

theorem getD_place_succ (f : Field) (fields : List Field) (bytes : Bytes) (k : ℕ) :
    bytes.getD (place (f :: fields) (k + 1)) 0 =
      (bytes.drop f.kind.width).getD (place fields k) 0 := by
  rw [place_succ, List.getD_eq_getElem?_getD, List.getD_eq_getElem?_getD, List.getElem?_drop]

theorem misplaced_succ {f : Field} {fields : List Field} {bytes : Bytes} {k : ℕ} :
    Misplaced (f :: fields) bytes (k + 1) ↔ Misplaced fields (bytes.drop f.kind.width) k := by
  simp only [Misplaced, List.getElem?_cons_succ, getD_place_succ]

theorem firstMisplaced_succ {f : Field} {fields : List Field} {bytes : Bytes} {k : ℕ} :
    FirstMisplaced (f :: fields) bytes (k + 1) ↔
      ¬ Misplaced (f :: fields) bytes 0 ∧
        FirstMisplaced fields (bytes.drop f.kind.width) k := by
  simp only [FirstMisplaced, Nat.forall_lt_succ_left, misplaced_succ]
  exact and_left_comm

theorem exists_firstMisplaced_iff {fields : List Field} {bytes : Bytes} :
    (∃ k, FirstMisplaced fields bytes k) ↔ ∃ k, Misplaced fields bytes k := by
  classical
  constructor
  · rintro ⟨k, hk, -⟩
    exact ⟨k, hk⟩
  · intro h
    exact ⟨Nat.find h, Nat.find_spec h, fun j hj => Nat.find_min h hj⟩

/-! ### Fields in a row -/

theorem read_eq_error_iff_misplaced {f : Field} {fields : List Field} {bytes : Bytes}
    {e : PayloadError} (hlen : f.kind.width ≤ bytes.length) :
    f.read (bytes.take f.kind.width) = .error e ↔
      Misplaced (f :: fields) bytes 0 ∧ e = .invalidCompactOffset (bytes.getD 0 0) := by
  have hpos : 0 < f.kind.width := by cases f.kind <;> decide
  have hhead : (bytes.take f.kind.width).headD 0 = bytes.getD 0 0 := by
    cases bytes with
    | nil => simp
    | cons b bytes =>
      obtain ⟨w, hw⟩ := Nat.exists_eq_succ_of_ne_zero hpos.ne'
      simp [hw]
  rw [Field.read_eq_error_iff (List.length_take_of_le hlen), hhead, misplaced_zero, and_assoc]

/-- Fields are refused for the offset of the first compact amount out of place. -/
theorem readFields_eq_error_iff {fields : List Field} {bytes : Bytes} {e : PayloadError}
    (hlen : bytes.length = (fields.map (·.kind.width)).sum) :
    readFields fields bytes = .error e ↔
      ∃ k, FirstMisplaced fields bytes k ∧
        e = .invalidCompactOffset (bytes.getD (place fields k) 0) := by
  induction fields generalizing bytes with
  | nil => simp [readFields, FirstMisplaced, Misplaced]
  | cons f fields ih =>
    rw [List.map_cons, List.sum_cons] at hlen
    have hfirst (e : PayloadError) : f.read (bytes.take f.kind.width) = .error e ↔
        Misplaced (f :: fields) bytes 0 ∧ e = .invalidCompactOffset (bytes.getD 0 0) :=
      read_eq_error_iff_misplaced (by omega)
    have hdrop : (bytes.drop f.kind.width).length = (fields.map (·.kind.width)).sum := by
      rw [List.length_drop]
      omega
    have hrest := ih hdrop
    rw [readFields, Except.bind_eq_error_iff]
    constructor
    · rintro (h | ⟨content, hok, h⟩)
      · obtain ⟨h0, rfl⟩ := (hfirst e).mp h
        exact ⟨0, ⟨h0, by simp⟩, rfl⟩
      · obtain h | ⟨read, -, h⟩ := Except.bind_eq_error_iff.mp h
        · obtain ⟨k, hk, rfl⟩ := hrest.mp h
          have h0 : ¬ Misplaced (f :: fields) bytes 0 := fun h0 => by
            cases hok.symm.trans ((hfirst _).mpr ⟨h0, rfl⟩)
          exact ⟨k + 1, firstMisplaced_succ.mpr ⟨h0, hk⟩, by rw [getD_place_succ]⟩
        · cases h
    · rintro ⟨k, hk, rfl⟩
      cases k with
      | zero => exact .inl ((hfirst _).mpr ⟨hk.1, rfl⟩)
      | succ k =>
        obtain ⟨h0, hk⟩ := firstMisplaced_succ.mp hk
        cases hread : f.read (bytes.take f.kind.width) with
        | error e => exact absurd ((hfirst e).mp hread).1 h0
        | ok content =>
          refine .inr ⟨content, rfl, Except.bind_eq_error_iff.mpr (.inl ?_)⟩
          exact hrest.mpr ⟨k, hk, by rw [getD_place_succ]⟩

theorem writeFields_readFields {fields : List Field} {bytes : Bytes}
    {read : List (String × Content)} (hlen : bytes.length = (fields.map (·.kind.width)).sum)
    (h : readFields fields bytes = .ok read) :
    read.length = fields.length ∧
      writeFields fields (read.map fun f => f.2.toValue) = .ok bytes := by
  induction fields generalizing bytes read with
  | nil =>
    cases h
    obtain rfl : bytes = [] := List.eq_nil_of_length_eq_zero hlen
    exact ⟨rfl, rfl⟩
  | cons f fields ih =>
    rw [List.map_cons, List.sum_cons] at hlen
    obtain ⟨content, rest, hcontent, hrest, rfl⟩ := readFields_cons.mp h
    obtain ⟨hcount, hwrite⟩ := ih (by rw [List.length_drop]; omega) hrest
    refine ⟨by simp [hcount], ?_⟩
    rw [List.map_cons, writeFields_cons]
    refine ⟨_, _, Field.write_read (List.length_take_of_le (by omega)) hcontent, hwrite, ?_⟩
    rw [List.take_append_drop]

/-! ### Payloads of a layout -/

structure WellFormed (l : Layout) (data : Bytes) : Prop where
  opcode : data.head? = some l.opcode
  length : data.length = l.size
  inWord : ∀ k f, l.fields[k]? = some f → f.kind = .compact →
    CompactAmount.InWord (data.tail.getD (place l.fields k) 0)

theorem wellFormed_iff {l : Layout} {data : Bytes} :
    l.WellFormed data ↔ data.head? = some l.opcode ∧ data.length = l.size ∧
      ¬ ∃ k, FirstMisplaced l.fields data.tail k := by
  rw [exists_firstMisplaced_iff]
  constructor
  · rintro ⟨hop, hlen, hin⟩
    exact ⟨hop, hlen, fun ⟨k, f, hf, hkind, hout⟩ => hout (hin k f hf hkind)⟩
  · rintro ⟨hop, hlen, hnone⟩
    exact ⟨hop, hlen, fun k f hf hkind => by_contra fun hout => hnone ⟨k, f, hf, hkind, hout⟩⟩

theorem length_tail {l : Layout} {data : Bytes} (hlen : data.length = l.size) :
    data.tail.length = (l.fields.map (·.kind.width)).sum := by
  rw [size_eq] at hlen
  rw [List.length_tail]
  omega

theorem decode_eq_error_iff {l : Layout} {data : Bytes} {e : PayloadError} :
    l.decode data = .error e ↔
      (data.length ≠ l.size ∧ e = .lengthMismatch l.name l.size data.length) ∨
        data.length = l.size ∧ ∃ k, FirstMisplaced l.fields data.tail k ∧
          e = .invalidCompactOffset (data.tail.getD (place l.fields k) 0) := by
  rw [decode]
  split
  · next h => simp [h, eq_comm]
  · next h =>
    have hlen := not_not.mp h
    rw [← readFields_eq_error_iff (length_tail hlen), Except.bind_eq_error_iff]
    simp only [hlen, ne_eq, not_true, false_and, true_and, false_or]
    refine or_iff_left ?_
    rintro ⟨_, _, h⟩
    cases h

theorem exists_decode_iff {l : Layout} {data : Bytes} (hop : data.head? = some l.opcode) :
    (∃ p, l.decode data = .ok p) ↔ l.WellFormed data := by
  rw [wellFormed_iff]
  constructor
  · rintro ⟨p, h⟩
    refine ⟨hop, (decode_eq_ok_iff.mp h).1, fun ⟨k, hk⟩ => ?_⟩
    have herror := decode_eq_error_iff.mpr (.inr ⟨(decode_eq_ok_iff.mp h).1, k, hk, rfl⟩)
    cases h.symm.trans herror
  · rintro ⟨-, hlen, hnone⟩
    cases h : l.decode data with
    | ok p => exact ⟨p, rfl⟩
    | error e =>
      obtain ⟨hne, -⟩ | ⟨-, k, hk, -⟩ := decode_eq_error_iff.mp h
      · exact absurd hlen hne
      · exact absurd ⟨k, hk⟩ hnone

/-- A payload of the layout, taken apart, packs into the same bytes again. -/
theorem encode_decode {l : Layout} {data : Bytes} {p : Payload} (h : l.decode data = .ok p) :
    l.encode p.opcode (p.fields.map fun f => f.2.toValue) = .ok data := by
  obtain ⟨hlen, read, hread, rfl⟩ := decode_eq_ok_iff.mp h
  obtain ⟨hcount, hwrite⟩ := writeFields_readFields (length_tail hlen) hread
  refine encode_eq_ok_iff.mpr ⟨by simp [hcount], data.tail, hwrite, ?_⟩
  obtain _ | ⟨opcode, rest⟩ := data
  · rw [size_eq, List.length_nil] at hlen
    omega
  · rfl

/-! ### The layouts of the contract -/

theorem name_inj : ∀ l ∈ all, ∀ m ∈ all, l.name = m.name → l = m := by
  decide

end Layout

/-- Why a byte string is no payload. -/
inductive Refusal : Bytes → PayloadError → Prop
  | empty : Refusal [] (.lengthMismatch "any" 1 0)
  | unknownOpcode {opcode : UInt8} {rest : Bytes} (h : ∀ l ∈ Layout.all, l.opcode ≠ opcode) :
      Refusal (opcode :: rest) (.unknownOpcode opcode)
  | wrongLength {l : Layout} {data : Bytes} (hl : l ∈ Layout.all)
      (hop : data.head? = some l.opcode) (hlen : data.length ≠ l.size) :
      Refusal data (.lengthMismatch l.name l.size data.length)
  | misplaced {l : Layout} {data : Bytes} {k : ℕ} (hl : l ∈ Layout.all)
      (hop : data.head? = some l.opcode) (hlen : data.length = l.size)
      (hk : Layout.FirstMisplaced l.fields data.tail k) :
      Refusal data (.invalidCompactOffset (data.tail.getD (Layout.place l.fields k) 0))

namespace Payload

open Layout

theorem decode_of_head? {l : Layout} {data : Bytes} (hl : l ∈ all)
    (hop : data.head? = some l.opcode) : decode data = l.decode data := by
  obtain _ | ⟨opcode, rest⟩ := data
  · cases hop
  · cases hop
    rw [decode, ofOpcode?_opcode hl]

theorem decode_of_unknown {opcode : UInt8} {rest : Bytes} (h : ∀ l ∈ all, l.opcode ≠ opcode) :
    decode (opcode :: rest) = .error (.unknownOpcode opcode) := by
  have hnone : ofOpcode? opcode = none := by
    rw [ofOpcode?, List.find?_eq_none]
    simpa using h
  rw [decode, hnone]

/-- Every byte string is empty, starts with the opcode of a layout, or with that of none. -/
theorem head_cases (data : Bytes) :
    data = [] ∨ (∃ l ∈ all, data.head? = some l.opcode) ∨
      ∃ opcode rest, data = opcode :: rest ∧ ∀ l ∈ all, l.opcode ≠ opcode := by
  obtain _ | ⟨opcode, rest⟩ := data
  · exact .inl rfl
  · by_cases h : ∃ l ∈ all, l.opcode = opcode
    · obtain ⟨l, hl, rfl⟩ := h
      exact .inr (.inl ⟨l, hl, rfl⟩)
    · exact .inr (.inr ⟨opcode, rest, rfl, fun l hl e => h ⟨l, hl, e⟩⟩)

theorem decode_eq_error_iff {data : Bytes} {e : PayloadError} :
    decode data = .error e ↔ Refusal data e := by
  constructor
  · intro h
    obtain rfl | ⟨l, hl, hop⟩ | ⟨opcode, rest, rfl, hnone⟩ := head_cases data
    · cases h
      exact .empty
    · rw [decode_of_head? hl hop] at h
      obtain ⟨hlen, rfl⟩ | ⟨hlen, k, hk, rfl⟩ := Layout.decode_eq_error_iff.mp h
      · exact .wrongLength hl hop hlen
      · exact .misplaced hl hop hlen hk
    · rw [decode_of_unknown hnone] at h
      cases h
      exact .unknownOpcode hnone
  · rintro (_ | hnone | ⟨hl, hop, hlen⟩ | ⟨hl, hop, hlen, hk⟩)
    · rfl
    · exact decode_of_unknown hnone
    · rw [decode_of_head? hl hop]
      exact Layout.decode_eq_error_iff.mpr (.inl ⟨hlen, rfl⟩)
    · rw [decode_of_head? hl hop]
      exact Layout.decode_eq_error_iff.mpr (.inr ⟨hlen, _, hk, rfl⟩)

theorem exists_layout_of_decode {data : Bytes} {p : Payload} (h : decode data = .ok p) :
    ∃ l ∈ all, data.head? = some l.opcode ∧ l.decode data = .ok p := by
  obtain rfl | ⟨l, hl, hop⟩ | ⟨opcode, rest, rfl, hnone⟩ := head_cases data
  · cases h
  · exact ⟨l, hl, hop, (decode_of_head? hl hop).symm.trans h⟩
  · rw [decode_of_unknown hnone] at h
    cases h

/-- What is taken apart has the name and the opcode of a layout, for which it packs into the
same bytes again. -/
theorem encode_of_decode {data : Bytes} {p : Payload} (h : decode data = .ok p) :
    ∃ l ∈ all, l.WellFormed data ∧ p.layout = l.name ∧ p.opcode = l.opcode ∧
      l.encode p.opcode (p.fields.map fun f => f.2.toValue) = .ok data := by
  obtain ⟨l, hl, hop, h⟩ := exists_layout_of_decode h
  refine ⟨l, hl, (exists_decode_iff hop).mp ⟨p, h⟩, ?_, ?_, encode_decode h⟩
  all_goals obtain ⟨-, read, -, rfl⟩ := decode_eq_ok_iff.mp h
  · rfl
  · rw [List.headD_eq_head?_getD, hop, Option.getD_some]

/-- The payloads are exactly the byte strings that are well-formed for a layout of the contract.
Taken apart, a payload packs into the same bytes again, so that no two are taken apart into the
same. All else is refused: as empty, for its opcode, for its length, or for the offset of the
first compact amount out of place, whichever comes first. -/
theorem decode_exact (data : Bytes) :
    ((∃ p, decode data = .ok p) ↔ ∃ l ∈ all, l.WellFormed data) ∧
      (∀ p, decode data = .ok p → ∃ l ∈ all, l.WellFormed data ∧ p.layout = l.name ∧
        p.opcode = l.opcode ∧
        l.encode p.opcode (p.fields.map fun f => f.2.toValue) = .ok data) ∧
      (∀ p other, decode data = .ok p → decode other = .ok p → other = data) ∧
      ∀ e, decode data = .error e ↔ Refusal data e := by
  refine ⟨⟨?_, ?_⟩, fun p h => encode_of_decode h, ?_, fun e => decode_eq_error_iff⟩
  · rintro ⟨p, h⟩
    obtain ⟨l, hl, hwf, -⟩ := encode_of_decode h
    exact ⟨l, hl, hwf⟩
  · rintro ⟨l, hl, hwf⟩
    rw [decode_of_head? hl hwf.opcode]
    exact (exists_decode_iff hwf.opcode).mpr hwf
  · intro p other h hother
    obtain ⟨l, hl, -, hname, -, hencode⟩ := encode_of_decode h
    obtain ⟨m, hm, -, hname', -, hencode'⟩ := encode_of_decode hother
    obtain rfl := name_inj l hl m hm (hname.symm.trans hname')
    exact Except.ok.inj (hencode'.symm.trans hencode)

end Payload

end Sandwich

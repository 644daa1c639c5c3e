import Sandwich.Layout.Field
import Sandwich.Proofs.Compact
import Sandwich.Proofs.Except

/-! One field, written and read. A value either fills the field, in exactly its width,
or does not fit for a reason that is told. What fills a field reads back as the value
that was written; and the bytes of a field are those that its content is written as,
so that reading loses nothing. -/

namespace Sandwich

/-- What a value stands for: the number of its digits, whatever zeros lead them, and otherwise
the value as it is. -/
inductive Value.Denotes : Value → Content → Prop
  | uint {digits : Bytes} {x : UInt256} (h : x.toNat = Bytes.toNat digits) :
      Denotes (.uint digits) (.uint x)
  | address (a : Address) : Denotes (.address a.toBytes) (.address a)
  | word (w : Word) : Denotes (.word w) (.word w)
  | compact (c : CompactAmount) : Denotes (.compact c) (.compact c)

/-- Fields of that kind are meant for such values, whether or not they have room for this one. -/
def Value.Suits : Value → FieldKind → Prop
  | uint _, kind => kind = .uint8 ∨ kind = .uint32 ∨ kind = .uint256
  | address _, kind => kind = .address
  | word _, kind => kind = .bytes32
  | compact _, kind => kind = .compact

theorem FieldKind.width_le (kind : FieldKind) : kind.width ≤ 32 := by
  cases kind <;> decide

namespace Field

inductive Fills (f : Field) : Value → Bytes → Prop
  /-- The big-endian number, in all the bytes of the field. -/
  | uint {digits chunk : Bytes} (hsuits : (Value.uint digits).Suits f.kind)
      (hlength : chunk.length = f.kind.width) (h : Bytes.toNat chunk = Bytes.toNat digits) :
      Fills f (.uint digits) chunk
  | address {bytes : Bytes} (hkind : f.kind = .address) (h : bytes.length = 20) :
      Fills f (.address bytes) bytes
  | word (w : Word) (hkind : f.kind = .bytes32) : Fills f (.word w) w.toBytes
  | compact (c : CompactAmount) (hkind : f.kind = .compact) : Fills f (.compact c) c.toBytes

inductive Misfit (f : Field) : Value → PayloadError → Prop
  | kind {v : Value} (h : ¬ v.Suits f.kind) :
      Misfit f v (.typeMismatch f.name f.kind v.kindName)
  | address {bytes : Bytes} (hkind : f.kind = .address) (h : bytes.length ≠ 20) :
      Misfit f (.address bytes) (.invalidAddress f.name bytes.length)
  | uint {digits : Bytes} (hsuits : (Value.uint digits).Suits f.kind)
      (h : 256 ^ f.kind.width ≤ Bytes.toNat digits) :
      Misfit f (.uint digits) (.valueOutOfRange f.name f.kind.width)

/-! ### Numbers -/

/-- A number is written as its numeral of the whole width, if it has one. -/
theorem writeUint_eq (f : Field) (digits : Bytes) :
    f.writeUint digits =
      if Bytes.toNat digits < 256 ^ f.kind.width then
        .ok (Bytes.ofNat f.kind.width (Bytes.toNat digits))
      else .error (.valueOutOfRange f.name f.kind.width) := by
  have hfit := Bytes.length_significant_le_iff digits f.kind.width
  simp only [writeUint]
  by_cases h : Bytes.toNat digits < 256 ^ f.kind.width
  · have hle := hfit.mpr h
    rw [if_neg (by omega), if_pos h, Bytes.replicate_append_significant hle]
  · have hlt : ¬ (Bytes.significant digits).length ≤ f.kind.width := fun hle => h (hfit.mp hle)
    rw [if_pos (by omega), if_neg h]

/-- No numeral of a field of at most thirty-two bytes exceeds 256 bits. -/
theorem toNat_ofNat_of_length {bytes : Bytes} {width : ℕ} (hlen : bytes.length = width)
    (hw : width ≤ 32) : (BitVec.ofNat 256 (Bytes.toNat bytes)).toNat = Bytes.toNat bytes := by
  have hlt : Bytes.toNat bytes < 256 ^ 32 :=
    (Bytes.toNat_lt bytes).trans_le (Nat.pow_le_pow_right (by norm_num) (by omega))
  rw [BitVec.toNat_ofNat, Nat.mod_eq_of_lt (hlt.trans_eq (by norm_num))]

/-! ### What fits -/

variable {f : Field} {v : Value} {chunk : Bytes} {e : PayloadError}

theorem write_of_not_suits (h : ¬ v.Suits f.kind) :
    f.write v = .error (.typeMismatch f.name f.kind v.kindName) := by
  obtain ⟨name, kind⟩ := f
  cases v <;> cases kind <;> simp_all [Value.Suits, write]

theorem write_uint {digits : Bytes} (h : (Value.uint digits).Suits f.kind) :
    f.write (.uint digits) = f.writeUint digits := by
  obtain ⟨name, kind⟩ := f
  obtain rfl | rfl | rfl : kind = .uint8 ∨ kind = .uint32 ∨ kind = .uint256 := h
  all_goals rfl

theorem write_of_fills (h : f.Fills v chunk) : f.write v = .ok chunk := by
  obtain ⟨name, kind⟩ := f
  cases h with
  | @uint digits _ hsuits hlength hn =>
    have hlt : Bytes.toNat digits < 256 ^ kind.width := by
      rw [← hn, ← show chunk.length = kind.width from hlength]
      exact Bytes.toNat_lt chunk
    rw [write_uint hsuits, writeUint_eq, if_pos hlt, Bytes.eq_ofNat_of_toNat hlength hn]
  | address hkind hlength =>
    obtain rfl : kind = .address := hkind
    exact if_pos hlength
  | word w hkind =>
    obtain rfl : kind = .bytes32 := hkind
    rfl
  | compact c hkind =>
    obtain rfl : kind = .compact := hkind
    rfl

theorem write_of_misfit (h : f.Misfit v e) : f.write v = .error e := by
  obtain ⟨name, kind⟩ := f
  cases h with
  | kind h => exact write_of_not_suits h
  | address hkind hlength =>
    obtain rfl : kind = .address := hkind
    exact if_neg hlength
  | uint hsuits hlarge =>
    rw [write_uint hsuits, writeUint_eq, if_neg (Nat.not_lt.mpr hlarge)]

theorem fills_or_misfit (f : Field) (v : Value) :
    (∃ chunk, f.Fills v chunk) ∨ ∃ e, f.Misfit v e := by
  by_cases hsuits : v.Suits f.kind
  · cases v with
    | uint digits =>
      by_cases hlt : Bytes.toNat digits < 256 ^ f.kind.width
      · refine .inl ⟨_, .uint hsuits (Bytes.length_ofNat f.kind.width (Bytes.toNat digits)) ?_⟩
        rw [Bytes.toNat_ofNat, Nat.mod_eq_of_lt hlt]
      · exact .inr ⟨_, .uint hsuits (Nat.le_of_not_lt hlt)⟩
    | address bytes =>
      by_cases hlength : bytes.length = 20
      · exact .inl ⟨bytes, .address hsuits hlength⟩
      · exact .inr ⟨_, .address hsuits hlength⟩
    | word w => exact .inl ⟨_, .word w hsuits⟩
    | compact c => exact .inl ⟨_, .compact c hsuits⟩
  · exact .inr ⟨_, .kind hsuits⟩

theorem Fills.not_misfit (h : f.Fills v chunk) : ¬ f.Misfit v e := by
  intro hmisfit
  cases (write_of_fills h).symm.trans (write_of_misfit hmisfit)

theorem write_eq_ok_iff : f.write v = .ok chunk ↔ f.Fills v chunk := by
  constructor
  · intro h
    obtain ⟨chunk', hfills⟩ | ⟨e, hmisfit⟩ := fills_or_misfit f v
    · obtain rfl : chunk = chunk' := Except.ok.inj (h.symm.trans (write_of_fills hfills))
      exact hfills
    · cases h.symm.trans (write_of_misfit hmisfit)
  · exact write_of_fills

theorem write_eq_error_iff : f.write v = .error e ↔ f.Misfit v e := by
  constructor
  · intro h
    obtain ⟨chunk, hfills⟩ | ⟨e', hmisfit⟩ := fills_or_misfit f v
    · cases h.symm.trans (write_of_fills hfills)
    · obtain rfl : e = e' := Except.error.inj (h.symm.trans (write_of_misfit hmisfit))
      exact hmisfit
  · exact write_of_misfit

theorem Fills.length_eq (h : f.Fills v chunk) : chunk.length = f.kind.width := by
  cases h with
  | uint hsuits hlength => exact hlength
  | address hkind hlength => rw [hlength, hkind]; rfl
  | word w hkind => rw [w.length_toBytes, hkind]; rfl
  | compact c hkind => rw [CompactAmount.length_toBytes, hkind]; rfl

/-! ### Written and read -/

theorem read_uint {digits : Bytes} (h : (Value.uint digits).Suits f.kind) (chunk : Bytes) :
    f.read chunk = .ok (.uint (BitVec.ofNat 256 (Bytes.toNat chunk))) := by
  obtain ⟨name, kind⟩ := f
  obtain rfl | rfl | rfl : kind = .uint8 ∨ kind = .uint32 ∨ kind = .uint256 := h
  all_goals rfl

/-- What fills a field is read back as the value. -/
theorem Fills.exists_read (h : f.Fills v chunk) (hv : ∀ c, v = .compact c → c.Obtainable) :
    ∃ content, f.read chunk = .ok content ∧ v.Denotes content := by
  obtain ⟨name, kind⟩ := f
  cases h with
  | uint hsuits hlength hn =>
    refine ⟨_, read_uint hsuits chunk, .uint ?_⟩
    rw [toNat_ofNat_of_length hlength kind.width_le, hn]
  | address hkind hlength =>
    obtain rfl : kind = .address := hkind
    have hden := Value.Denotes.address (Octets.leading 20 chunk)
    rw [Octets.toBytes_leading hlength] at hden
    exact ⟨_, rfl, hden⟩
  | word w hkind =>
    obtain rfl : kind = .bytes32 := hkind
    refine ⟨.word w, ?_, .word w⟩
    rw [read, Octets.leading_toBytes]
  | compact c hkind =>
    obtain rfl : kind = .compact := hkind
    have hlength := CompactAmount.length_toBytes c
    refine ⟨.compact c, ?_, .compact c⟩
    rw [read, CompactAmount.ofOctets_toBytes (hv c rfl).inWord (Octets.toBytes_leading hlength)]
    rfl

theorem read_write {bytes : Bytes} (h : f.write v = .ok bytes)
    (hv : ∀ c, v = .compact c → c.Obtainable) :
    bytes.length = f.kind.width ∧ ∃ content, f.read bytes = .ok content ∧ v.Denotes content := by
  have hfills := write_eq_ok_iff.mp h
  exact ⟨hfills.length_eq, hfills.exists_read hv⟩

/-- The bytes that a field was read from are those that its content fills. -/
theorem fills_of_read {bytes : Bytes} {content : Content}
    (hlen : bytes.length = f.kind.width) (h : f.read bytes = .ok content) :
    f.Fills content.toValue bytes := by
  obtain ⟨name, kind⟩ := f
  cases kind with
  | uint8 | uint32 | uint256 =>
    cases h
    refine .uint (by simp [Value.Suits]) hlen ?_
    have hwidth : bytes.length ≤ 32 := hlen.trans_le (FieldKind.width_le _)
    have hlt : Bytes.toNat bytes < 256 ^ 32 :=
      (Bytes.toNat_lt bytes).trans_le (Nat.pow_le_pow_right (by norm_num) hwidth)
    rw [toNat_ofNat_of_length rfl hwidth, Bytes.toNat_ofNat, Nat.mod_eq_of_lt hlt]
  | address =>
    cases h
    have hbytes : (Octets.leading 20 bytes).toBytes = bytes := Octets.toBytes_leading hlen
    rw [Content.toValue, Value.ofAddress, hbytes]
    exact .address rfl hlen
  | bytes32 =>
    cases h
    have hbytes : (Octets.leading 32 bytes).toBytes = bytes := Octets.toBytes_leading hlen
    have hfills := Fills.word (f := ⟨name, .bytes32⟩) (Octets.leading 32 bytes) rfl
    rwa [hbytes] at hfills
  | compact =>
    have hbytes : (Octets.leading 5 bytes).toBytes = bytes := Octets.toBytes_leading hlen
    obtain ⟨c, hc, rfl⟩ := Except.map_eq_ok_iff.mp h
    have hfills := Fills.compact (f := ⟨name, .compact⟩) c rfl
    rwa [CompactAmount.toBytes_of_ofOctets hc, hbytes] at hfills

theorem write_read {bytes : Bytes} {content : Content}
    (hlen : bytes.length = f.kind.width) (h : f.read bytes = .ok content) :
    f.write content.toValue = .ok bytes :=
  write_of_fills (fills_of_read hlen h)

/-- The bytes of a field are refused for nothing but the offset of a compact amount. -/
theorem read_eq_error_iff {bytes : Bytes} (hlen : bytes.length = f.kind.width) :
    f.read bytes = .error e ↔
      f.kind = .compact ∧ ¬ CompactAmount.InWord (bytes.headD 0) ∧
        e = .invalidCompactOffset (bytes.headD 0) := by
  obtain ⟨name, kind⟩ := f
  cases kind with
  | uint8 | uint32 | uint256 | address | bytes32 => simp [read]
  | compact =>
    have hbytes : (Octets.leading 5 bytes).toBytes = bytes := Octets.toBytes_leading hlen
    have hiff : CompactAmount.ofOctets (.leading 5 bytes) = .error e ↔ _ :=
      CompactAmount.ofOctets_eq_error_iff
    rw [hbytes] at hiff
    simp only [read, true_and, ← hiff]
    cases CompactAmount.ofOctets (.leading 5 bytes) <;> simp [Except.map]

end Field

end Sandwich

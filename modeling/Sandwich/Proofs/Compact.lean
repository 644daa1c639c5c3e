import Sandwich.Compact
import Sandwich.Proofs.Bytes

/-! Which compact amounts there are. The offset byte of a compact amount always
lies where four bytes fit into the word of a parameter, however the amount came
about, and such amounts are exactly the ones whose five bytes read back. -/

namespace Sandwich.CompactAmount

/-! ### Offsets within a parameter -/

def PlacedAt (index dropped : ℕ) (offset : UInt8) : Prop :=
  index ≤ 6 ∧ dropped ≤ 28 ∧ offset.toNat = 32 + 32 * index - dropped

/-- Four bytes at `offset` lie within the word of one of the seven parameters. -/
def InWord (offset : UInt8) : Prop := ∃ index dropped, PlacedAt index dropped offset

theorem validOffset_iff_toNat (offset : UInt8) :
    validOffset offset = true ↔
      4 ≤ offset.toNat ∧ (offset.toNat - 4) % 32 ≤ 28 ∧ (offset.toNat - 4) / 32 ≤ 6 := by
  have h4 : (4 : UInt8) ≤ offset ↔ 4 ≤ offset.toNat := UInt8.le_iff_toNat_le
  have hsub (h : 4 ≤ offset.toNat) : (offset - 4).toNat = offset.toNat - 4 :=
    UInt8.toNat_sub_of_le _ _ (h4.mpr h)
  simp only [validOffset, Bool.and_eq_true, decide_eq_true_eq]
  rw [and_assoc, h4]
  refine and_congr_right fun h => ?_
  simp only [maxParameter, UInt8.le_iff_toNat_le, UInt8.toNat_mod, UInt8.toNat_div, hsub h]
  rfl

theorem validOffset_iff (offset : UInt8) : validOffset offset = true ↔ InWord offset := by
  rw [validOffset_iff_toNat]
  constructor
  · rintro ⟨hlow, hmod, hdiv⟩
    exact ⟨(offset.toNat - 4) / 32, 28 - (offset.toNat - 4) % 32, hdiv, by omega, by omega⟩
  · rintro ⟨index, dropped, hi, hd, ho⟩
    omega

/-! ### Where compact amounts come from -/

/-- The compact amounts that arise from an amount, from five bytes, or from another one by
taking units away. -/
inductive Obtainable : CompactAmount → Prop
  | encoded {amount : UInt256} {index : UInt8} {c : CompactAmount}
      (h : encode amount index = .ok c) : Obtainable c
  | read {wire : Octets 5} {c : CompactAmount} (h : ofOctets wire = .ok c) : Obtainable c
  | decremented {c : CompactAmount} (h : Obtainable c) : Obtainable c.decrement

/-- A number of `4 + width` bytes loses at most `width` of them. -/
theorem truncate_fst_le {n width : ℕ} (h : n < 256 ^ (4 + width)) : (truncate n).1 ≤ width := by
  induction width generalizing n with
  | zero =>
    have hn : n < bitBound 32 := by simpa [bitBound] using h
    rw [truncate, if_pos hn]
  | succ width ih =>
    rw [truncate]
    split
    · exact Nat.zero_le _
    · have hdiv : n / 256 < 256 ^ (4 + width) := by
        rw [Nat.div_lt_iff_lt_mul (by norm_num), ← pow_succ]
        exact h
      exact Nat.succ_le_succ (ih hdiv)

theorem truncate_fst_le_of_uint256 (amount : UInt256) : (truncate amount.toNat).1 ≤ 28 :=
  truncate_fst_le (amount.isLt.trans_le (by norm_num))

theorem encode_placedAt {amount : UInt256} {index : UInt8} {c : CompactAmount}
    (h : encode amount index = .ok c) :
    PlacedAt index.toNat (truncate amount.toNat).1 c.offset := by
  have hd := truncate_fst_le_of_uint256 amount
  unfold encode at h
  split at h
  · cases h
  · next hi =>
    have hi : index.toNat ≤ 6 := by
      rw [maxParameter, UInt8.lt_iff_toNat_lt] at hi
      exact Nat.le_of_not_lt hi
    cases h
    refine ⟨hi, hd, ?_⟩
    -- no step of the arithmetic on bytes wraps around
    simp only [UInt8.toNat_sub, UInt8.toNat_add, UInt8.toNat_mul, UInt8.toNat_ofNat',
      UInt8.reduceToNat]
    omega

theorem Obtainable.inWord {c : CompactAmount} (h : c.Obtainable) : InWord c.offset := by
  induction h with
  | encoded h => exact ⟨_, _, encode_placedAt h⟩
  | read h =>
    simp only [ofOctets] at h
    split at h
    · next hv => cases h; exact (validOffset_iff _).mp hv
    · cases h
  | decremented _ ih => exact ih

/-! ### Five bytes and back -/

@[simp] theorem length_toBytes (c : CompactAmount) : c.toBytes.length = 5 := by
  simp [toBytes]

theorem ofOctets_toBytes {c : CompactAmount} (h : InWord c.offset) {wire : Octets 5}
    (hw : wire.toBytes = c.toBytes) : ofOctets wire = .ok c := by
  have hs : c.significant.toNat < 256 ^ 4 := c.significant.toNat_lt
  have hn : Bytes.toNat (Bytes.ofNat 4 c.significant.toNat) = c.significant.toNat := by
    rw [Bytes.toNat_ofNat, Nat.mod_eq_of_lt hs]
  rw [ofOctets, hw]
  simp only [toBytes, List.headD_cons, List.tail_cons, hn, UInt32.ofNat_toNat]
  rw [if_pos ((validOffset_iff _).mpr h)]

theorem toBytes_of_ofOctets {wire : Octets 5} {c : CompactAmount} (h : ofOctets wire = .ok c) :
    c.toBytes = wire.toBytes := by
  obtain ⟨bytes, hlen⟩ := wire
  obtain _ | ⟨offset, digits⟩ := bytes
  · simp at hlen
  have hdigits : digits.length = 4 := by simpa using hlen
  have hlt : Bytes.toNat digits < 2 ^ 32 := by
    have := Bytes.toNat_lt digits
    rwa [hdigits] at this
  simp only [ofOctets] at h
  split at h
  · cases h
    simp only [toBytes, List.headD_cons, List.tail_cons, UInt32.toNat_ofNat_of_lt' hlt]
    rw [← hdigits, Bytes.ofNat_toNat]
  · cases h

theorem ofOctets_eq_error_iff {wire : Octets 5} {e : PayloadError} :
    ofOctets wire = .error e ↔
      ¬ InWord (wire.toBytes.headD 0) ∧ e = .invalidCompactOffset (wire.toBytes.headD 0) := by
  rw [← validOffset_iff, ofOctets]
  cases hv : validOffset (wire.toBytes.headD 0) with
  | true => simp only [↓reduceIte, reduceCtorEq, not_true, false_and]
  | false =>
    simp only [Bool.false_eq_true, ↓reduceIte, not_false_eq_true, true_and]
    rw [Except.error.injEq, eq_comm]

end Sandwich.CompactAmount

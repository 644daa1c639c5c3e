import Mathlib.Logic.Function.Iterate
import Mathlib.Tactic.NormNum
import Sandwich.Proofs.Compact

/-! The wire form of compact amounts. The five bytes that are read back are exactly
those of an encoded amount from which units have been taken away: whatever the four
bytes are, even with zeros in front, they are left of the largest amount that drops
as many bytes. None of the arithmetic on bytes wraps around on the way. -/

namespace Sandwich.CompactAmount

theorem ext_toNat {c c' : CompactAmount} (hoffset : c.offset.toNat = c'.offset.toNat)
    (hsignificant : c.significant.toNat = c'.significant.toNat) : c = c' := by
  cases c
  cases c'
  rw [UInt8.toNat_inj] at hoffset
  rw [UInt32.toNat_inj] at hsignificant
  rw [CompactAmount.mk.injEq]
  exact ⟨hoffset, hsignificant⟩

/-! ### Units taken away -/

@[simp] theorem offset_iterate_decrement (c : CompactAmount) (count : ℕ) :
    (decrement^[count] c).offset = c.offset := by
  induction count generalizing c with
  | zero => rfl
  | succ count ih => rw [Function.iterate_succ_apply, ih]; rfl

theorem toNat_significant_decrement (c : CompactAmount) :
    c.decrement.significant.toNat = c.significant.toNat - 1 := by
  simp only [decrement]
  split
  · next h => simp [h]
  · next h =>
    have hpos : 1 ≤ c.significant.toNat := Nat.pos_of_ne_zero fun e => h (UInt32.toNat_inj.mp e)
    have hle : 1 ≤ c.significant := UInt32.le_iff_toNat_le.mpr hpos
    rw [UInt32.toNat_sub_of_le _ _ hle]
    rfl

@[simp] theorem toNat_significant_iterate_decrement (c : CompactAmount) (count : ℕ) :
    (decrement^[count] c).significant.toNat = c.significant.toNat - count := by
  induction count generalizing c with
  | zero => rfl
  | succ count ih =>
    rw [Function.iterate_succ_apply, ih, toNat_significant_decrement]
    omega

theorem Obtainable.iterate_decrement {c : CompactAmount} (h : c.Obtainable) (count : ℕ) :
    (decrement^[count] c).Obtainable := by
  induction count with
  | zero => exact h
  | succ count ih =>
    rw [Function.iterate_succ_apply']
    exact .decremented ih

/-! ### An amount for every wire form -/

/-- Four full bytes and zeros behind them lose exactly the zeros. -/
theorem truncate_mul_pow {n : ℕ} (hlow : 256 ^ 3 ≤ n) (hhigh : n < 256 ^ 4) (dropped : ℕ) :
    truncate (n * 256 ^ dropped) = (dropped, n) := by
  induction dropped with
  | zero =>
    rw [pow_zero, Nat.mul_one, truncate, if_pos (by simpa [bitBound] using hhigh)]
  | succ dropped ih =>
    have hlarge : ¬ n * 256 ^ (dropped + 1) < bitBound 32 := by
      have hpow : 0 < 256 ^ dropped := Nat.pow_pos (by norm_num)
      have hle : 256 ^ 3 * 256 ≤ n * 256 ^ (dropped + 1) :=
        Nat.mul_le_mul hlow (by rw [pow_succ]; omega)
      simpa [bitBound] using hle
    have hdiv : n * 256 ^ (dropped + 1) / 256 = n * 256 ^ dropped := by
      rw [pow_succ, ← Nat.mul_assoc, Nat.mul_div_cancel _ (by norm_num)]
    rw [truncate, if_neg hlarge, hdiv, ih]

/-- The largest amount that drops so many bytes. -/
def fullAmount (dropped : ℕ) : UInt256 := BitVec.ofNat 256 ((256 ^ 4 - 1) * 256 ^ dropped)

theorem truncate_fullAmount {dropped : ℕ} (h : dropped ≤ 28) :
    truncate (fullAmount dropped).toNat = (dropped, 256 ^ 4 - 1) := by
  have hpow : 256 ^ dropped ≤ 256 ^ 28 := Nat.pow_le_pow_right (by norm_num) h
  have hlt : (256 ^ 4 - 1) * 256 ^ dropped < 2 ^ 256 :=
    calc (256 ^ 4 - 1) * 256 ^ dropped
      _ ≤ (256 ^ 4 - 1) * 256 ^ 28 := Nat.mul_le_mul_left _ hpow
      _ < 2 ^ 256 := by norm_num
  rw [fullAmount, BitVec.toNat_ofNat, Nat.mod_eq_of_lt hlt]
  exact truncate_mul_pow (by norm_num) (by norm_num) dropped

/-- Whatever lies in the word of a parameter is left of an encoded amount. -/
theorem exists_encode_of_inWord {c : CompactAmount} (h : InWord c.offset) :
    ∃ amount index count full, index ≤ maxParameter ∧ encode amount index = .ok full ∧
      decrement^[count] full = c := by
  obtain ⟨index, dropped, hindex, hdropped, hoffset⟩ := h
  have hbyte : (UInt8.ofNat index).toNat = index := by
    rw [UInt8.toNat_ofNat_of_lt' (by simp [UInt8.size]; omega)]
  have hle : UInt8.ofNat index ≤ maxParameter := by
    rw [UInt8.le_iff_toNat_le, hbyte]
    exact hindex
  have hencode : ∃ full, encode (fullAmount dropped) (UInt8.ofNat index) = .ok full ∧
      full.significant.toNat = 256 ^ 4 - 1 := by
    rw [encode, if_neg (UInt8.not_lt.mpr hle), truncate_fullAmount hdropped]
    exact ⟨_, rfl, rfl⟩
  obtain ⟨full, hfull, hsignificant⟩ := hencode
  have hplaced := (encode_placedAt hfull).2.2
  rw [hbyte, truncate_fullAmount hdropped] at hplaced
  have hc : c.significant.toNat < 256 ^ 4 := c.significant.toNat_lt
  refine ⟨_, _, 256 ^ 4 - 1 - c.significant.toNat, full, hle, hfull, ?_⟩
  apply ext_toNat
  · rw [offset_iterate_decrement, hplaced, hoffset]
  · rw [toNat_significant_iterate_decrement, hsignificant]
    omega

def toOctets (c : CompactAmount) : Octets 5 := ⟨c.toBytes, length_toBytes c⟩

theorem exists_ofOctets_iff {wire : Octets 5} :
    (∃ c, ofOctets wire = .ok c) ↔ ∃ amount index count c, index ≤ maxParameter ∧
      encode amount index = .ok c ∧ (decrement^[count] c).toBytes = wire.toBytes := by
  constructor
  · rintro ⟨c, hread⟩
    obtain ⟨amount, index, count, full, hindex, hencode, hcount⟩ :=
      exists_encode_of_inWord (Obtainable.read hread).inWord
    exact ⟨amount, index, count, full, hindex, hencode,
      by rw [hcount, toBytes_of_ofOctets hread]⟩
  · rintro ⟨amount, index, count, c, -, hencode, hwire⟩
    have hobtainable := (Obtainable.encoded hencode).iterate_decrement count
    exact ⟨_, ofOctets_toBytes hobtainable.inWord hwire.symm⟩

/-! ### Arithmetic on bytes -/

/-- Every step of the arithmetic that places `dropped` bytes behind the four, in the word of the
parameter at `index`, is a step on whole numbers. -/
structure Unwrapped (index offset : UInt8) (dropped : ℕ) : Prop where
  index_le : index.toNat ≤ 6
  dropped_le : dropped ≤ 28
  mul : (32 * index).toNat = 32 * index.toNat
  add : (32 + 32 * index).toNat = 32 + 32 * index.toNat
  sub : offset.toNat + dropped = (32 + 32 * index).toNat

theorem unwrapped_of_placedAt {index offset : UInt8} {dropped : ℕ}
    (h : PlacedAt index.toNat dropped offset) : Unwrapped index offset dropped := by
  obtain ⟨hindex, hdropped, hoffset⟩ := h
  have hmul : (32 * index).toNat = 32 * index.toNat := by
    simp only [UInt8.toNat_mul, UInt8.reduceToNat]
    omega
  have hadd : (32 + 32 * index).toNat = 32 + 32 * index.toNat := by
    simp only [UInt8.toNat_add, UInt8.reduceToNat, hmul]
    omega
  exact ⟨hindex, hdropped, hmul, hadd, by omega⟩

theorem toNat_index {c : CompactAmount} (h : 4 ≤ c.offset.toNat) :
    c.index.toNat = (c.offset.toNat - 4) / 32 := by
  have hsub : (c.offset - 4).toNat = c.offset.toNat - 4 :=
    UInt8.toNat_sub_of_le _ _ (UInt8.le_iff_toNat_le.mpr h)
  rw [index, UInt8.toNat_div, hsub]
  rfl

/-- The parameter and the number of bytes behind the four, read off the offset. -/
theorem placedAt_index {c : CompactAmount} (h : InWord c.offset) :
    PlacedAt c.index.toNat c.shift.toNat c.offset := by
  obtain ⟨index, dropped, hindex, hdropped, hoffset⟩ := h
  have hindex' : c.index.toNat = index := by
    rw [toNat_index (by omega)]
    omega
  have hplaced : PlacedAt c.index.toNat dropped c.offset := by
    rw [hindex']
    exact ⟨hindex, hdropped, hoffset⟩
  have hsub := (unwrapped_of_placedAt hplaced).sub
  have hshift : c.shift.toNat = dropped := by
    rw [shift, UInt8.toNat_sub_of_le _ _ (UInt8.le_iff_toNat_le.mpr (by omega))]
    omega
  rwa [hshift]

theorem exists_encode (index : UInt8) (hindex : index ≤ maxParameter) (amount : UInt256) :
    ∃ c, encode amount index = .ok c ∧ c.Obtainable := by
  have hencode : ∃ c, encode amount index = .ok c := by
    rw [encode, if_neg (UInt8.not_lt.mpr hindex)]
    exact ⟨_, rfl⟩
  obtain ⟨c, hc⟩ := hencode
  exact ⟨c, hc, .encoded hc⟩

theorem index_of_encode {amount : UInt256} {index : UInt8} {c : CompactAmount}
    (h : encode amount index = .ok c) : c.index = index := by
  obtain ⟨hindex, hdropped, hoffset⟩ := encode_placedAt h
  apply UInt8.toNat_inj.mp
  rw [toNat_index (by omega)]
  omega

/-- The five bytes that are read back are those of an encoded amount from which units have been
taken away, and what is read back has these bytes again. Every compact amount is read back from
its own bytes, lies in the word of one of the seven parameters, and no arithmetic on bytes wraps
around, neither when it is encoded nor when its parameter and its shift are read off. -/
theorem wireForm_exact :
    (∀ wire : Octets 5, ((∃ c, ofOctets wire = .ok c) ↔
        ∃ amount index count c, index ≤ maxParameter ∧ encode amount index = .ok c ∧
          (decrement^[count] c).toBytes = wire.toBytes) ∧
      ∀ c, ofOctets wire = .ok c → c.toBytes = wire.toBytes) ∧
    (∀ c : CompactAmount, c.Obtainable → ofOctets c.toOctets = .ok c ∧
      4 ≤ c.offset.toNat ∧ c.offset.toNat ≤ 224 ∧
      c.index.toNat = (c.offset.toNat - 4) / 32 ∧
      Unwrapped c.index c.offset c.shift.toNat) ∧
    ∀ amount index c, encode amount index = .ok c →
      Unwrapped index c.offset (truncate amount.toNat).1 := by
  refine ⟨fun wire => ⟨exists_ofOctets_iff, fun c => toBytes_of_ofOctets⟩, ?_, ?_⟩
  · intro c hc
    have hplaced := placedAt_index hc.inWord
    have ⟨hindex, hshift, hoffset⟩ := hplaced
    have hlow : 4 ≤ c.offset.toNat := by omega
    exact ⟨ofOctets_toBytes hc.inWord rfl, hlow, by omega, toNat_index hlow,
      unwrapped_of_placedAt hplaced⟩
  · intro amount index c hencode
    exact unwrapped_of_placedAt (encode_placedAt hencode)

end Sandwich.CompactAmount

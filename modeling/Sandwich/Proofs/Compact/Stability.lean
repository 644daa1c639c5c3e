import Sandwich.Proofs.Compact.Truncation

/-! Compact amounts that are encoded anew. An amount that has a compact form keeps all
of it, whatever form it came in: with zeros in front of the four bytes, as they come
about when units are taken away, it drops fewer bytes than before and is otherwise
unchanged. Of two amounts, the larger one keeps no less. -/

namespace Sandwich.CompactAmount

variable {c : CompactAmount}

/-- What is kept of an amount is not below any amount up to it that has a compact form. -/
theorem amount_le_of_encode {amount : UInt256} {index : UInt8} {d : CompactAmount}
    (h : encode amount index = .ok d) (hc : c.Obtainable) (hle : c.amount ≤ amount) :
    c.amount ≤ d.amount :=
  ((keeps_of_encode h).isGreatest (.encoded h)).2 ⟨hle, c, hc, rfl⟩

theorem lt_two_pow_shift (hc : InWord c.offset) :
    c.amount.toNat < 2 ^ (32 + 8 * c.shift.toNat) := by
  rw [toNat_amount hc, two_pow_eq]
  exact Nat.mul_lt_mul_of_pos_right c.significant.toNat_lt (Nat.pow_pos (by norm_num))

/-- A compact amount is the form that its own amount is encoded in unless it drops bytes and the
first of the four is zero. -/
theorem keeps_amount_iff (hc : InWord c.offset) :
    c.Keeps c.amount.toNat ↔ c.shift.toNat = 0 ∨ 2 ^ 24 ≤ c.significant.toNat := by
  refine ⟨Keeps.full, fun hfull => ⟨⟨lt_two_pow_shift hc, fun s hs => ?_⟩, ?_⟩⟩
  · obtain hzero | hfull := hfull
    · omega
    have hlt : c.significant.toNat * 256 ^ c.shift.toNat < 2 ^ 32 * 256 ^ s := by
      rw [← toNat_amount hc, ← two_pow_eq]
      exact hs
    by_contra hless
    have hpow : 256 ^ (s + 1) ≤ 256 ^ c.shift.toNat :=
      Nat.pow_le_pow_right (by norm_num) (by omega)
    have hle := Nat.mul_le_mul hfull hpow
    rw [pow_succ] at hle
    omega
  · rw [toNat_amount hc, Nat.mul_div_cancel _ (Nat.pow_pos (by norm_num))]

theorem toNat_index_le (hc : c.Obtainable) : c.index.toNat ≤ 6 := (placedAt_index hc.inWord).1

/-- Encoded anew, a compact amount is the same amount with no more bytes dropped. -/
theorem exists_encode_amount (hc : c.Obtainable) :
    ∃ d, encode c.amount c.index = .ok d ∧ d.amount = c.amount ∧ d.index = c.index ∧
      d.shift ≤ c.shift ∧ (d = c ↔ c.shift = 0 ∨ 2 ^ 24 ≤ c.significant.toNat) := by
  obtain ⟨d, hd⟩ := exists_encode_iff.mpr (toNat_index_le hc)
  have hamount : d.amount = c.amount :=
    BitVec.le_antisymm (amount_le hd) (amount_le_of_encode hd hc (BitVec.le_refl _))
  have hshift : d.shift.toNat ≤ c.shift.toNat :=
    (keeps_of_encode hd).shift.2 (lt_two_pow_shift hc.inWord)
  have hzero : c.shift = 0 ↔ c.shift.toNat = 0 := UInt8.toNat_inj.symm
  refine ⟨d, hd, hamount, index_of_encode hd, UInt8.le_iff_toNat_le.mpr hshift, ?_⟩
  rw [hzero, ← keeps_amount_iff hc.inWord]
  constructor
  · rintro rfl
    exact keeps_of_encode hd
  · intro hkeeps
    exact (keeps_of_encode hd).unique hkeeps (index_of_encode hd)

/-- What is encoded is encoded in the same form again. -/
theorem encode_amount_of_encode {amount : UInt256} {index : UInt8}
    (h : encode amount index = .ok c) : encode c.amount index = .ok c := by
  have hc : c.Obtainable := .encoded h
  rw [encode_eq_ok_iff, keeps_amount_iff hc.inWord]
  exact ⟨exists_encode_iff.mp ⟨c, h⟩, index_of_encode h, (keeps_of_encode h).full⟩

/-- A compact amount that is read and encoded anew is the same amount for the same parameter, with
no more bytes dropped; it has the same form just if it drops none or the first of the four is not
zero. So to encode an amount twice is to encode it once. The larger of two amounts keeps no less,
whatever their parameters. -/
theorem compaction_stable :
    (∀ wire c, ofOctets wire = .ok c → ∃ d, encode c.amount c.index = .ok d ∧
      d.amount = c.amount ∧ d.index = c.index ∧ d.shift ≤ c.shift ∧
      (d = c ↔ c.shift = 0 ∨ 2 ^ 24 ≤ c.significant.toNat)) ∧
    (∀ amount index c, encode amount index = .ok c → encode c.amount c.index = .ok c) ∧
    ∀ (amount amount' : UInt256) (index index' : UInt8), amount ≤ amount' →
      index ≤ maxParameter → index' ≤ maxParameter →
      ∃ c c', encode amount index = .ok c ∧ encode amount' index' = .ok c' ∧
        c.amount ≤ c'.amount := by
  refine ⟨fun wire c h => exists_encode_amount (.read h), ?_, ?_⟩
  · intro amount index c h
    rw [index_of_encode h]
    exact encode_amount_of_encode h
  · intro amount amount' index index' hle hindex hindex'
    obtain ⟨c, hc, hobtainable⟩ := exists_encode index hindex amount
    obtain ⟨c', hc', -⟩ := exists_encode index' hindex' amount'
    refine ⟨c, c', hc, hc', amount_le_of_encode hc' hobtainable ?_⟩
    exact BitVec.le_trans (amount_le hc) hle

/-- Two zeros in front of the four bytes: encoded anew, the amount drops two bytes fewer. -/
theorem compaction_stable_zerosInFront :
    let wire : Octets 5 := ⟨[91, 0, 0, 1, 0], rfl⟩
    let c : CompactAmount := ⟨91, 256⟩
    ofOctets wire = .ok c ∧ ¬ (c.shift = 0 ∨ 2 ^ 24 ≤ c.significant.toNat) ∧
      ∃ d, encode c.amount c.index = .ok d ∧ d.amount = c.amount ∧ d.index = c.index ∧
        d.shift ≤ c.shift ∧ d ≠ c := by
  intro wire c
  have hread : ofOctets wire = .ok c := by decide
  have hzeros : ¬ (c.shift = 0 ∨ 2 ^ 24 ≤ c.significant.toNat) := by decide
  obtain ⟨d, hd, hamount, hindex, hshift, hiff⟩ := compaction_stable.1 wire c hread
  exact ⟨hread, hzeros, d, hd, hamount, hindex, hshift, fun e => hzeros (hiff.mp e)⟩

end Sandwich.CompactAmount

import Mathlib.Order.Bounds.Basic
import Sandwich.Proofs.Compact.Placement

/-! How much of an amount its compact form keeps. Bytes are dropped from the end until
four are left, so that no more go than have to. Of all the amounts that have a compact
form, the one that is kept is the greatest that is not above the amount meant, and less
than one part in `2 ^ 24` is lost. -/

namespace Sandwich.CompactAmount

/-! ### Bytes dropped one after the other -/

def dropByte (n : ℕ) : ℕ := n / 256

theorem iterate_dropByte (n count : ℕ) : dropByte^[count] n = n / 256 ^ count := by
  induction count with
  | zero => simp
  | succ count ih =>
    rw [Function.iterate_succ_apply', ih, dropByte, Nat.div_div_eq_div_mul, pow_succ]

/-- For so many rounds `n` has more than four bytes and loses one, and then `rest` is left. -/
structure Shrinks (n rounds rest : ℕ) : Prop where
  exceeds (k : ℕ) : k < rounds → 2 ^ 32 ≤ dropByte^[k] n
  rest_eq : rest = dropByte^[rounds] n
  rest_lt : rest < 2 ^ 32

theorem shrinks_truncate (n : ℕ) : Shrinks n (truncate n).1 (truncate n).2 := by
  fun_induction truncate n with
  | case1 n hfit => exact ⟨fun k hk => absurd hk k.not_lt_zero, rfl, hfit⟩
  | case2 n hlarge dropped rest htruncate ih =>
    rw [htruncate] at ih
    refine ⟨fun k hk => ?_, ih.rest_eq, ih.rest_lt⟩
    cases k with
    | zero => exact Nat.le_of_not_lt hlarge
    | succ k => exact ih.exceeds k (Nat.lt_of_succ_lt_succ hk)

theorem two_pow_eq (s : ℕ) : 2 ^ (32 + 8 * s) = 2 ^ 32 * 256 ^ s := by
  rw [pow_add, pow_mul]
  norm_num

theorem lt_two_pow_iff (n s : ℕ) : n < 2 ^ (32 + 8 * s) ↔ dropByte^[s] n < 2 ^ 32 := by
  rw [iterate_dropByte, Nat.div_lt_iff_lt_mul (Nat.pow_pos (by norm_num)), two_pow_eq]

/-- The rounds are as few as leave four bytes. -/
theorem Shrinks.isLeast {n rounds rest : ℕ} (h : Shrinks n rounds rest) :
    IsLeast {s | n < 2 ^ (32 + 8 * s)} rounds := by
  constructor
  · have hlt : dropByte^[rounds] n < 2 ^ 32 := h.rest_eq ▸ h.rest_lt
    exact (lt_two_pow_iff n rounds).mpr hlt
  · intro s hs
    have hlt : dropByte^[s] n < 2 ^ 32 := (lt_two_pow_iff n s).mp hs
    by_contra hless
    have hlarge := h.exceeds s (Nat.lt_of_not_le hless)
    omega

/-! ### What is encoded -/

/-- The four bytes are those of `n` before the last `c.shift` bytes, and with fewer bytes left
out there would be more than four. -/
structure Keeps (c : CompactAmount) (n : ℕ) : Prop where
  shift : IsLeast {s | n < 2 ^ (32 + 8 * s)} c.shift.toNat
  significant : c.significant.toNat = n / 256 ^ c.shift.toNat

theorem encode_eq_error_iff {amount : UInt256} {index : UInt8} {e : PayloadError} :
    encode amount index = .error e ↔ 6 < index.toNat ∧ e = .paramIndexOutOfRange index := by
  have hlt : maxParameter < index ↔ 6 < index.toNat := UInt8.lt_iff_toNat_lt
  rw [encode]
  split
  · next h => simp [hlt.mp h, eq_comm]
  · next h => simp [hlt.not.mp h]

theorem exists_encode_iff {amount : UInt256} {index : UInt8} :
    (∃ c, encode amount index = .ok c) ↔ index.toNat ≤ 6 := by
  constructor
  · rintro ⟨c, h⟩
    exact (encode_placedAt h).1
  · intro h
    obtain ⟨c, hc, -⟩ := exists_encode index (UInt8.le_iff_toNat_le.mpr h) amount
    exact ⟨c, hc⟩

theorem keeps_of_encode {amount : UInt256} {index : UInt8} {c : CompactAmount}
    (h : encode amount index = .ok c) : c.Keeps amount.toNat := by
  have hshrinks := shrinks_truncate amount.toNat
  have hshift : c.shift.toNat = (truncate amount.toNat).1 := by
    obtain ⟨-, hdropped, hoffset⟩ := encode_placedAt h
    obtain ⟨-, hdropped', hoffset'⟩ := placedAt_index (Obtainable.encoded h).inWord
    rw [index_of_encode h] at hoffset'
    omega
  have hsignificant : c.significant.toNat = (truncate amount.toNat).2 := by
    rw [encode] at h
    split at h
    · cases h
    · cases h
      exact UInt32.toNat_ofNat_of_lt' hshrinks.rest_lt
  constructor
  · rw [hshift]
    exact hshrinks.isLeast
  · rw [hshift, hsignificant, hshrinks.rest_eq, iterate_dropByte]

/-- The offset is determined by the parameter and the shift. -/
theorem offset_eq (c : CompactAmount) : c.offset = 32 + 32 * c.index - c.shift := by
  rw [shift]
  grind

theorem Keeps.unique {c d : CompactAmount} {n : ℕ} (hc : c.Keeps n) (hd : d.Keeps n)
    (hindex : c.index = d.index) : c = d := by
  have hshift : c.shift.toNat = d.shift.toNat := hc.shift.unique hd.shift
  have hoffset : c.offset = d.offset := by
    rw [offset_eq c, offset_eq d, hindex, UInt8.toNat_inj.mp hshift]
  apply ext_toNat (congrArg UInt8.toNat hoffset)
  rw [hc.significant, hd.significant, hshift]

theorem encode_eq_ok_iff {amount : UInt256} {index : UInt8} {c : CompactAmount} :
    encode amount index = .ok c ↔
      index.toNat ≤ 6 ∧ c.index = index ∧ c.Keeps amount.toNat := by
  constructor
  · intro h
    exact ⟨exists_encode_iff.mp ⟨c, h⟩, index_of_encode h, keeps_of_encode h⟩
  · rintro ⟨hle, hindex, hkeeps⟩
    obtain ⟨d, hd⟩ := exists_encode_iff.mpr hle
    have hcd : c = d :=
      hkeeps.unique (keeps_of_encode hd) (hindex.trans (index_of_encode hd).symm)
    rw [hcd, hd]

/-! ### What is lost -/

variable {c : CompactAmount} {n : ℕ}

/-- If anything is left out, the first of the four bytes is not zero. -/
theorem Keeps.full (h : c.Keeps n) : c.shift.toNat = 0 ∨ 2 ^ 24 ≤ c.significant.toNat := by
  by_cases hzero : c.shift.toNat = 0
  · exact .inl hzero
  right
  obtain ⟨s, hs⟩ := Nat.exists_eq_succ_of_ne_zero hzero
  -- one byte less would not have been enough
  have hless : ¬ n < 2 ^ (32 + 8 * s) := by
    intro hlt
    have hle := h.shift.2 hlt
    omega
  have hpow : 2 ^ (32 + 8 * s) = 2 ^ 24 * 256 ^ (s + 1) := by
    rw [two_pow_eq]
    ring
  rw [h.significant, hs, Nat.le_div_iff_mul_le (Nat.pow_pos (by norm_num)), ← hpow]
  exact Nat.le_of_not_lt hless

theorem Keeps.amount_add (h : c.Keeps n) (hc : InWord c.offset) :
    c.amount.toNat + n % 256 ^ c.shift.toNat = n := by
  rw [toNat_amount hc, h.significant]
  exact Nat.div_add_mod' n (256 ^ c.shift.toNat)

theorem Keeps.amount_eq_iff (h : c.Keeps n) (hc : InWord c.offset) :
    c.amount.toNat = n ↔
      Bytes.ofNat c.shift.toNat n = List.replicate c.shift.toNat 0 := by
  have hadd := h.amount_add hc
  rw [Bytes.ofNat_eq_replicate_iff]
  omega

theorem Keeps.loss_lt (h : c.Keeps n) (hc : InWord c.offset) (hn : 0 < n) :
    (n - c.amount.toNat) * 2 ^ 24 < n := by
  have hadd := h.amount_add hc
  obtain hzero | hfull := h.full
  · rw [hzero, pow_zero, Nat.mod_one] at hadd
    omega
  · have hpos : 0 < 256 ^ c.shift.toNat := Nat.pow_pos (by norm_num)
    have hmod : n % 256 ^ c.shift.toNat < 256 ^ c.shift.toNat := Nat.mod_lt n hpos
    have hamount : 2 ^ 24 * 256 ^ c.shift.toNat ≤ c.amount.toNat := by
      rw [toNat_amount hc]
      exact Nat.mul_le_mul_right _ hfull
    omega

/-- No amount that has a compact form lies between what is kept and what was meant. -/
theorem Keeps.isGreatest (h : c.Keeps n) (hc : c.Obtainable) :
    IsGreatest {m | m ≤ n ∧ ∃ d : CompactAmount, d.Obtainable ∧ d.amount.toNat = m}
      c.amount.toNat := by
  have hadd := h.amount_add hc.inWord
  refine ⟨⟨by omega, c, hc, rfl⟩, ?_⟩
  rintro m ⟨hm, d, hd, rfl⟩
  obtain hshift | hshift := le_or_gt c.shift.toNat d.shift.toNat
  · -- as many bytes left out or more: a multiple of the same power of 256
    have hdvd : 256 ^ c.shift.toNat ∣ d.amount.toNat := by
      rw [toNat_amount hd.inWord]
      exact Dvd.dvd.mul_left (pow_dvd_pow 256 hshift) _
    rw [toNat_amount hc.inWord, h.significant, ← Nat.div_mul_cancel hdvd]
    exact Nat.mul_le_mul_right _ (Nat.div_le_div_right hm)
  · -- fewer bytes left out: four bytes there are less than the first of the four here
    have hfull : 2 ^ 24 ≤ c.significant.toNat := h.full.resolve_left (by omega)
    have hfour : d.significant.toNat ≤ 2 ^ 24 * 256 := by
      have := d.significant.toNat_lt
      omega
    calc d.amount.toNat
      _ = d.significant.toNat * 256 ^ d.shift.toNat := toNat_amount hd.inWord
      _ ≤ 2 ^ 24 * 256 * 256 ^ d.shift.toNat := Nat.mul_le_mul_right _ hfour
      _ = 2 ^ 24 * 256 ^ (d.shift.toNat + 1) := by ring
      _ ≤ c.significant.toNat * 256 ^ c.shift.toNat :=
        Nat.mul_le_mul hfull (Nat.pow_le_pow_right (by norm_num) hshift)
      _ = c.amount.toNat := (toNat_amount hc.inWord).symm

theorem amount_le {amount : UInt256} {index : UInt8} (h : encode amount index = .ok c) :
    c.amount ≤ amount :=
  ((keeps_of_encode h).isGreatest (.encoded h)).1.1

/-- An amount has a compact form for each of the seven parameters and for no other, which keeps
its four leading bytes and no fewer than that. What is kept is the amount if the bytes left out
are zeros; otherwise it is the greatest compact amount below, and less than one part in `2 ^ 24`
is lost. No more than twenty-eight bytes are ever dropped. -/
theorem encode_keeps_most (amount : UInt256) (index : UInt8) :
    (∀ e, encode amount index = .error e ↔ 6 < index.toNat ∧ e = .paramIndexOutOfRange index) ∧
    ((∃ c, encode amount index = .ok c) ↔ index.toNat ≤ 6) ∧
    (∀ c, encode amount index = .ok c ↔
      index.toNat ≤ 6 ∧ c.index = index ∧ c.Keeps amount.toNat) ∧
    (∀ c, encode amount index = .ok c →
      c.amount.toNat = amount.toNat - amount.toNat % 256 ^ c.shift.toNat ∧
      c.amount.toNat ≤ amount.toNat ∧
      (c.amount = amount ↔
        Bytes.ofNat c.shift.toNat amount.toNat = List.replicate c.shift.toNat 0) ∧
      (0 < amount.toNat → (amount.toNat - c.amount.toNat) * 2 ^ 24 < amount.toNat) ∧
      IsGreatest {m | m ≤ amount.toNat ∧ ∃ d : CompactAmount, d.Obtainable ∧ d.amount.toNat = m}
        c.amount.toNat) ∧
    ∃ rounds rest, truncate amount.toNat = (rounds, rest) ∧
      Shrinks amount.toNat rounds rest ∧ rounds ≤ 28 := by
  refine ⟨fun e => encode_eq_error_iff, exists_encode_iff, fun c => encode_eq_ok_iff, ?_, ?_⟩
  · intro c h
    have hc : c.Obtainable := .encoded h
    have hkeeps := keeps_of_encode h
    have hadd := hkeeps.amount_add hc.inWord
    refine ⟨by omega, by omega, ?_, hkeeps.loss_lt hc.inWord, hkeeps.isGreatest hc⟩
    rw [← hkeeps.amount_eq_iff hc.inWord, BitVec.toNat_inj]
  · exact ⟨_, _, rfl, shrinks_truncate _, truncate_fst_le_of_uint256 amount⟩

/-- The largest amount drops twenty-eight bytes, and what it loses by that is still little. -/
theorem encode_keeps_most_largest :
    let amount : UInt256 := -1
    let c : CompactAmount := ⟨196, 0xffffffff⟩
    encode amount 6 = .ok c ∧ c.shift.toNat = 28 ∧ c.amount ≠ amount ∧ 0 < amount.toNat ∧
      (amount.toNat - c.amount.toNat) * 2 ^ 24 < amount.toNat := by
  intro amount c
  have hencode : encode amount 6 = .ok c := by decide +kernel
  have hpos : 0 < amount.toNat := by decide
  obtain ⟨-, -, -, hkept, -⟩ := encode_keeps_most amount 6
  obtain ⟨-, -, -, hloss, -⟩ := hkept c hencode
  exact ⟨hencode, by decide, by decide, hpos, hloss hpos⟩

end Sandwich.CompactAmount

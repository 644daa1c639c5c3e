import Mathlib.Data.List.Induction
import Mathlib.Tactic.Ring
import Sandwich.Bytes

/-! Byte strings as numerals in base 256. A string of bytes is determined by its
length and the number it denotes, and strings of one length are in the order of
their numbers; leading zeros change the length alone, and the digits that count are
as many as the number needs. -/

namespace Sandwich.Bytes

/-! ### The number that bytes denote -/

theorem foldl_toNat (bs : Bytes) (n : ℕ) :
    bs.foldl (fun n b => 256 * n + b.toNat) n = n * 256 ^ bs.length + toNat bs := by
  induction bs generalizing n with
  | nil => simp [toNat]
  | cons b bs ih =>
    rw [toNat, List.foldl_cons, List.foldl_cons, ih, ih (256 * 0 + b.toNat), List.length_cons]
    ring

@[simp] theorem toNat_nil : toNat [] = 0 := rfl

theorem toNat_append (as bs : Bytes) :
    toNat (as ++ bs) = toNat as * 256 ^ bs.length + toNat bs := by
  rw [toNat, List.foldl_append, foldl_toNat]
  rfl

theorem toNat_cons (b : UInt8) (bs : Bytes) :
    toNat (b :: bs) = b.toNat * 256 ^ bs.length + toNat bs := by
  rw [← List.singleton_append, toNat_append]
  simp [toNat]

theorem toNat_lt (bs : Bytes) : toNat bs < 256 ^ bs.length := by
  induction bs with
  | nil => simp
  | cons b bs ih =>
    have hb : b.toNat + 1 ≤ 256 := b.toNat_lt
    have h : (b.toNat + 1) * 256 ^ bs.length ≤ 256 * 256 ^ bs.length := Nat.mul_le_mul_right _ hb
    rw [toNat_cons, List.length_cons, pow_succ]
    rw [Nat.add_mul] at h
    omega

@[simp] theorem toNat_replicate_zero (n : ℕ) : toNat (List.replicate n 0) = 0 := by
  induction n with
  | zero => rfl
  | succ n ih => simp [List.replicate_succ, toNat_cons, ih]

/-- Byte strings of one length are ordered byte by byte as the numbers that they denote. -/
theorem lt_iff_toNat_lt {as bs : Bytes} (h : as.length = bs.length) :
    as < bs ↔ toNat as < toNat bs := by
  induction as generalizing bs with
  | nil =>
    obtain rfl : bs = [] := List.eq_nil_of_length_eq_zero h.symm
    simp
  | cons a as ih =>
    obtain _ | ⟨b, bs⟩ := bs
    · cases h
    have hlen : as.length = bs.length := Nat.succ.inj h
    have has : toNat as < 256 ^ bs.length := hlen ▸ toNat_lt as
    have hbs : toNat bs < 256 ^ bs.length := toNat_lt bs
    rw [List.cons_lt_cons_iff, ih hlen, toNat_cons, toNat_cons, hlen, UInt8.lt_iff_toNat_lt,
      ← UInt8.toNat_inj]
    -- the bytes behind the first ones never make up for a difference between these
    obtain hlt | heq | hgt := Nat.lt_trichotomy a.toNat b.toNat
    · have hstep := Nat.mul_le_mul_right (256 ^ bs.length) (Nat.succ_le_of_lt hlt)
      rw [Nat.succ_mul] at hstep
      omega
    · rw [heq]
      omega
    · have hstep := Nat.mul_le_mul_right (256 ^ bs.length) (Nat.succ_le_of_lt hgt)
      rw [Nat.succ_mul] at hstep
      omega

/-! ### Digits of a number -/

theorem toNat_ofNat (width n : ℕ) : toNat (ofNat width n) = n % 256 ^ width := by
  induction width generalizing n with
  | zero => simp [ofNat, Nat.mod_one]
  | succ width ih =>
    have hlast : toNat [UInt8.ofNat n] = n % 256 := by simp [toNat]
    rw [ofNat, toNat_append, ih, hlast, pow_succ, Nat.mul_comm (256 ^ width) 256,
      Nat.mod_mul (x := n) (a := 256)]
    simp only [List.length_singleton, pow_one]
    ring

/-- A number of 256 bits is what its thirty-two digits denote. -/
theorem uint256_toNat_ofNat (x : UInt256) :
    BitVec.ofNat 256 (toNat (ofNat 32 x.toNat)) = x := by
  have hlt : x.toNat < 256 ^ 32 := x.isLt.trans_eq (by norm_num)
  rw [toNat_ofNat, Nat.mod_eq_of_lt hlt, BitVec.ofNat_toNat, BitVec.setWidth_eq]

theorem ofNat_toNat (bs : Bytes) : ofNat bs.length (toNat bs) = bs := by
  induction bs using List.reverseRecOn with
  | nil => rfl
  | append_singleton bs b ih =>
    have hb : b.toNat < 256 := b.toNat_lt
    have hn : toNat (bs ++ [b]) = 256 * toNat bs + b.toNat := by
      rw [toNat_append]
      simp [toNat]
      ring
    rw [List.length_append, List.length_singleton, ofNat, hn]
    have hdiv : (256 * toNat bs + b.toNat) / 256 = toNat bs := by omega
    have hmod : UInt8.ofNat (256 * toNat bs + b.toNat) = b := by
      apply UInt8.toNat_inj.mp
      simp
    rw [hdiv, hmod, ih]

theorem eq_ofNat_of_toNat {bs : Bytes} {width n : ℕ} (hlen : bs.length = width)
    (hn : toNat bs = n) : bs = ofNat width n := by
  rw [← hlen, ← hn, ofNat_toNat]

/-- The last digits are zeros exactly if the power of 256 divides the number. -/
theorem ofNat_eq_replicate_iff (width n : ℕ) :
    ofNat width n = List.replicate width 0 ↔ n % 256 ^ width = 0 := by
  constructor
  · intro h
    have hn := congrArg toNat h
    rwa [toNat_ofNat, toNat_replicate_zero] at hn
  · intro h
    have hzero : List.replicate width 0 = ofNat width 0 :=
      eq_ofNat_of_toNat List.length_replicate (toNat_replicate_zero width)
    rw [hzero]
    apply eq_ofNat_of_toNat (length_ofNat width n)
    rw [toNat_ofNat, h]

/-! ### The digits that count -/

theorem significant_zero_cons (bs : Bytes) : significant (0 :: bs) = significant bs := rfl

theorem significant_cons {b : UInt8} (bs : Bytes) (hb : b ≠ 0) : significant (b :: bs) = b :: bs :=
  List.dropWhile_cons_of_neg (by simpa using hb)

@[simp] theorem toNat_significant (bs : Bytes) : toNat (significant bs) = toNat bs := by
  induction bs with
  | nil => rfl
  | cons b bs ih =>
    by_cases hb : b = 0
    · subst hb
      rw [significant_zero_cons, ih, toNat_cons]
      simp
    · rw [significant_cons bs hb]

theorem length_significant_le_iff (bs : Bytes) (width : ℕ) :
    (significant bs).length ≤ width ↔ toNat bs < 256 ^ width := by
  constructor
  · intro h
    rw [← toNat_significant]
    exact (toNat_lt _).trans_le (Nat.pow_le_pow_right (by norm_num) h)
  · intro h
    by_contra hlen
    induction bs with
    | nil => simp [significant] at hlen
    | cons b bs ih =>
      by_cases hb : b = 0
      · subst hb
        rw [significant_zero_cons] at hlen
        exact ih (by simpa [toNat_cons] using h) hlen
      · -- a first digit other than zero stands for at least its power of 256
        rw [significant_cons bs hb, List.length_cons] at hlen
        have hpos : 1 ≤ b.toNat := Nat.pos_of_ne_zero fun e => hb (UInt8.toNat_inj.mp e)
        have hpow : 256 ^ width ≤ 256 ^ bs.length := Nat.pow_le_pow_right (by norm_num) (by omega)
        have hdigit := Nat.mul_le_mul_right (256 ^ bs.length) hpos
        rw [toNat_cons] at h
        omega

theorem replicate_append_significant {bs : Bytes} {width : ℕ}
    (h : (significant bs).length ≤ width) :
    List.replicate (width - (significant bs).length) 0 ++ significant bs =
      ofNat width (toNat bs) := by
  apply eq_ofNat_of_toNat
  · rw [List.length_append, List.length_replicate]
    omega
  · rw [toNat_append, toNat_replicate_zero, toNat_significant]
    omega

end Sandwich.Bytes

namespace Sandwich.Octets

theorem leading_toBytes {n : ℕ} (a : Octets n) : leading n a.toBytes = a :=
  Octets.ext (Bytes.leading_eq_self a.length_toBytes)

theorem toBytes_leading {n : ℕ} {bytes : Bytes} (h : bytes.length = n) :
    (leading n bytes).toBytes = bytes :=
  Bytes.leading_eq_self h

end Sandwich.Octets

import Sandwich.Proofs.Compact.WireForm

/-! What becomes of a compact amount. The contract writes the four bytes over those at
the offset in the call that it makes. They stay within the word of one parameter, and
if that word was zero it then holds the amount, of which the shift has lost nothing.
So amounts for different parameters of a call do not get in each other's way. -/

namespace Sandwich

namespace Bytes

def overwrite (bytes : Bytes) (offset : ℕ) (chunk : Bytes) : Bytes :=
  bytes.take offset ++ chunk ++ bytes.drop (offset + chunk.length)

def parameter (call : Bytes) (index : ℕ) : Bytes := (call.drop (4 + 32 * index)).take 32

variable {bytes chunk : Bytes} {offset : ℕ}

theorem length_overwrite (h : offset + chunk.length ≤ bytes.length) :
    (overwrite bytes offset chunk).length = bytes.length := by
  simp only [overwrite, List.length_append, List.length_take, List.length_drop]
  omega

/-- The chunk is there, and every other byte is what it was. -/
theorem getElem?_overwrite (h : offset + chunk.length ≤ bytes.length) (k : ℕ) :
    (overwrite bytes offset chunk)[k]? =
      if offset ≤ k ∧ k < offset + chunk.length then chunk[k - offset]? else bytes[k]? := by
  have htake : (bytes.take offset).length = offset := List.length_take_of_le (by omega)
  rw [overwrite, List.append_assoc]
  by_cases hbefore : k < offset
  · rw [List.getElem?_append_left (by omega), List.getElem?_take_of_lt hbefore,
      if_neg (by omega)]
  · rw [List.getElem?_append_right (by omega), htake]
    by_cases hwithin : k < offset + chunk.length
    · rw [List.getElem?_append_left (by omega), if_pos (by omega)]
    · rw [List.getElem?_append_right (by omega), List.getElem?_drop, if_neg (by omega)]
      congr 1
      omega

theorem getElem?_parameter (call : Bytes) (index k : ℕ) :
    (parameter call index)[k]? = if k < 32 then call[4 + 32 * index + k]? else none := by
  rw [parameter, List.getElem?_take, List.getElem?_drop]

theorem parameter_overwrite_of_ne {index other : ℕ} (h : offset + chunk.length ≤ bytes.length)
    (hlow : 4 + 32 * index ≤ offset) (hhigh : offset + chunk.length ≤ 36 + 32 * index)
    (hne : other ≠ index) : parameter (overwrite bytes offset chunk) other =
      parameter bytes other := by
  apply List.ext_getElem?
  intro k
  rw [getElem?_parameter, getElem?_parameter]
  split
  · rw [getElem?_overwrite h, if_neg (by omega)]
  · rfl

/-- What is written within the word of a parameter is written over that word. -/
theorem parameter_overwrite {index place : ℕ}
    (h : 4 + 32 * index + place + chunk.length ≤ bytes.length)
    (hplace : place + chunk.length ≤ 32) :
    parameter (overwrite bytes (4 + 32 * index + place) chunk) index =
      overwrite (parameter bytes index) place chunk := by
  have hlen : place + chunk.length ≤ (parameter bytes index).length := by
    rw [parameter, List.length_take, List.length_drop]
    omega
  apply List.ext_getElem?
  intro k
  rw [getElem?_parameter, getElem?_overwrite h, getElem?_overwrite hlen, getElem?_parameter]
  by_cases hk : k < 32
  · rw [if_pos hk, if_pos hk]
    by_cases hwithin : place ≤ k ∧ k < place + chunk.length
    · rw [if_pos (by omega), if_pos hwithin]
      congr 1
      omega
    · rw [if_neg (by omega), if_neg hwithin]
  · rw [if_neg hk, if_neg (by omega), if_neg hk]

/-- Written over zeros, the chunk stands for its number times a power of 256. -/
theorem toNat_overwrite_zero (place behind : ℕ) (chunk : Bytes) :
    toNat (overwrite (List.replicate (place + chunk.length + behind) 0) place chunk) =
      toNat chunk * 256 ^ behind := by
  have hbehind : place + chunk.length + behind - (place + chunk.length) = behind := by omega
  rw [overwrite, List.take_replicate, List.drop_replicate, hbehind, toNat_append, toNat_append,
    toNat_replicate_zero, toNat_replicate_zero, List.length_replicate, Nat.zero_mul, Nat.zero_add,
    Nat.add_zero]

/-- Two chunks that do not overlap can be written in either order. -/
theorem overwrite_comm {chunk' : Bytes} {offset' : ℕ} (h : offset + chunk.length ≤ bytes.length)
    (h' : offset' + chunk'.length ≤ bytes.length)
    (hapart : offset + chunk.length ≤ offset' ∨ offset' + chunk'.length ≤ offset) :
    overwrite (overwrite bytes offset chunk) offset' chunk' =
      overwrite (overwrite bytes offset' chunk') offset chunk := by
  have hover : offset' + chunk'.length ≤ (overwrite bytes offset chunk).length := by
    rwa [length_overwrite h]
  have hover' : offset + chunk.length ≤ (overwrite bytes offset' chunk').length := by
    rwa [length_overwrite h']
  apply List.ext_getElem?
  intro k
  rw [getElem?_overwrite hover, getElem?_overwrite hover', getElem?_overwrite h,
    getElem?_overwrite h']
  by_cases hk : offset ≤ k ∧ k < offset + chunk.length
  · rw [if_neg (by omega), if_pos hk, if_pos hk]
  · rw [if_neg hk, if_neg hk]

end Bytes

namespace CompactAmount

/-- The call in which the four bytes have been put where the contract puts them. -/
def place (c : CompactAmount) (call : Bytes) : Bytes :=
  call.overwrite c.offset.toNat (Bytes.ofNat 4 c.significant.toNat)

theorem toNat_amount {c : CompactAmount} (h : InWord c.offset) :
    c.amount.toNat = c.significant.toNat * 256 ^ c.shift.toNat := by
  obtain ⟨-, hshift, -⟩ := placedAt_index h
  have hsignificant : c.significant.toNat < 256 ^ 4 := c.significant.toNat_lt
  have hpow : 2 ^ (8 * c.shift.toNat) = 256 ^ c.shift.toNat := pow_mul 2 8 _
  have hlt : c.significant.toNat * 256 ^ c.shift.toNat < 2 ^ 256 :=
    calc c.significant.toNat * 256 ^ c.shift.toNat
      _ < 256 ^ 4 * 256 ^ c.shift.toNat :=
        Nat.mul_lt_mul_of_pos_right hsignificant (Nat.pow_pos (by norm_num))
      _ ≤ 256 ^ 4 * 256 ^ 28 :=
        Nat.mul_le_mul_left _ (Nat.pow_le_pow_right (by norm_num) hshift)
      _ = 2 ^ 256 := by norm_num
  have hfit : c.significant.toNat < 2 ^ 256 := hsignificant.trans (by norm_num)
  rw [amount, BitVec.toNat_shiftLeft, BitVec.toNat_ofNat, Nat.mod_eq_of_lt hfit,
    Nat.shiftLeft_eq, hpow, Nat.mod_eq_of_lt hlt]

structure Lands (c : CompactAmount) (call : Bytes) : Prop where
  /-- The four bytes lie in the word of the parameter. -/
  low : 4 + 32 * c.index.toNat ≤ c.offset.toNat
  high : c.offset.toNat + 4 ≤ 36 + 32 * c.index.toNat
  length : (c.place call).length = call.length
  /-- All the bytes but the four are as before. -/
  frame (k : ℕ) : k < c.offset.toNat ∨ c.offset.toNat + 4 ≤ k → (c.place call)[k]? = call[k]?
  selector : (c.place call).take 4 = call.take 4
  others (i : ℕ) : i ≠ c.index.toNat → (c.place call).parameter i = call.parameter i
  /-- A word that was zero reads as the amount. -/
  amount : call.parameter c.index.toNat = List.replicate 32 0 →
    Bytes.toNat ((c.place call).parameter c.index.toNat) = c.amount.toNat
  lossless : c.amount.toNat = c.significant.toNat * 256 ^ c.shift.toNat

theorem lands_of_inWord {c : CompactAmount} (h : InWord c.offset) {call : Bytes}
    (hcall : 4 + 32 * 7 ≤ call.length) : c.Lands call := by
  obtain ⟨hindex, hshift, hoffset⟩ := placedAt_index h
  have hlen : (Bytes.ofNat 4 c.significant.toNat).length = 4 := Bytes.length_ofNat _ _
  have hfit : c.offset.toNat + (Bytes.ofNat 4 c.significant.toNat).length ≤ call.length := by
    omega
  have hframe : ∀ k, k < c.offset.toNat ∨ c.offset.toNat + 4 ≤ k →
      (c.place call)[k]? = call[k]? := by
    intro k hk
    rw [place, Bytes.getElem?_overwrite hfit, if_neg (by omega)]
  constructor
  case low => omega
  case high => omega
  case length => exact Bytes.length_overwrite hfit
  case frame => exact hframe
  case selector =>
    apply List.ext_getElem?
    intro k
    rw [List.getElem?_take, List.getElem?_take]
    split
    · exact hframe k (by omega)
    · rfl
  case others =>
    intro i hi
    exact Bytes.parameter_overwrite_of_ne hfit (by omega) (by omega) hi
  case amount =>
    intro hzero
    have hplace : c.offset.toNat = 4 + 32 * c.index.toNat + (28 - c.shift.toNat) := by omega
    have hwidth : (28 - c.shift.toNat) + (Bytes.ofNat 4 c.significant.toNat).length +
        c.shift.toNat = 32 := by omega
    have hsignificant : c.significant.toNat < 256 ^ 4 := c.significant.toNat_lt
    rw [hplace] at hfit
    rw [place, hplace, Bytes.parameter_overwrite hfit (by omega), hzero, ← hwidth,
      Bytes.toNat_overwrite_zero, Bytes.toNat_ofNat, Nat.mod_eq_of_lt hsignificant,
      toNat_amount h]
  case lossless => exact toNat_amount h

theorem apart_of_index_ne {c other : CompactAmount} {call : Bytes} (h : c.Lands call)
    (hother : other.Lands call) (hne : other.index ≠ c.index) :
    c.offset.toNat + 4 ≤ other.offset.toNat ∨ other.offset.toNat + 4 ≤ c.offset.toNat := by
  have hindex : other.index.toNat ≠ c.index.toNat := fun e => hne (UInt8.toNat_inj.mp e)
  have := h.low
  have := h.high
  have := hother.low
  have := hother.high
  omega

/-- Placed in a call of at least seven parameters, the four bytes of a compact amount stay in the
word of its parameter, where they mean the amount, and touch nothing else. The bytes of another
one, with another parameter, are elsewhere: the two can be placed in either order, and both are
read. -/
theorem lands_of_obtainable (c : CompactAmount) (hc : c.Obtainable) (call : Bytes)
    (hcall : 4 + 32 * 7 ≤ call.length) :
    c.Lands call ∧ ∀ other : CompactAmount, other.Obtainable → other.index ≠ c.index →
      (c.offset.toNat + 4 ≤ other.offset.toNat ∨ other.offset.toNat + 4 ≤ c.offset.toNat) ∧
      other.place (c.place call) = c.place (other.place call) ∧
      (call.parameter c.index.toNat = List.replicate 32 0 →
        Bytes.toNat ((other.place (c.place call)).parameter c.index.toNat) = c.amount.toNat) := by
  have hlands := lands_of_inWord hc.inWord hcall
  refine ⟨hlands, fun other hother hne => ?_⟩
  have hlands' := lands_of_inWord hother.inWord hcall
  have hapart := apart_of_index_ne hlands hlands' hne
  refine ⟨hapart, ?_, fun hzero => ?_⟩
  · have := hlands.high
    have := hlands'.high
    have := (placedAt_index hc.inWord).1
    have := (placedAt_index hother.inWord).1
    apply Bytes.overwrite_comm
    all_goals simp only [Bytes.length_ofNat]
    · omega
    · omega
    · exact hapart
  · have hcall' : 4 + 32 * 7 ≤ (c.place call).length := by
      rw [hlands.length]
      exact hcall
    have hindex : c.index.toNat ≠ other.index.toNat := fun e => hne (UInt8.toNat_inj.mp e).symm
    rw [(lands_of_inWord hother.inWord hcall').others _ hindex]
    exact hlands.amount hzero

/-- The first amount of a front-run goes into the word of its first parameter, the second one,
which has lost eight bytes, into that of its second. -/
theorem lands_of_obtainable_swap :
    let c : CompactAmount := ⟨32, 8⟩
    let other : CompactAmount := ⟨56, 0x0de0b6b3⟩
    let call : Bytes := [0x02, 0x2c, 0x0d, 0x9f] ++ List.replicate (32 * 7) 0
    c.Obtainable ∧ other.Obtainable ∧ 4 + 32 * 7 ≤ call.length ∧ c.Lands call ∧
      other.index ≠ c.index ∧ c.index.toNat = 0 ∧ c.amount.toNat = 8 ∧
      call.parameter c.index.toNat = List.replicate 32 0 ∧
      Bytes.toNat ((other.place (c.place call)).parameter c.index.toNat) = c.amount.toNat := by
  intro c other call
  have hc : c.Obtainable :=
    .read (show ofOctets ⟨[32, 0, 0, 0, 8], rfl⟩ = .ok c by decide)
  have hother : other.Obtainable :=
    .read (show ofOctets ⟨[56, 0x0d, 0xe0, 0xb6, 0xb3], rfl⟩ = .ok other by decide)
  have hcall : 4 + 32 * 7 ≤ call.length := by
    rw [List.length_append, List.length_replicate]
    exact le_rfl
  have hne : other.index ≠ c.index := by decide
  obtain ⟨hlands, hothers⟩ := lands_of_obtainable c hc call hcall
  obtain ⟨-, -, hread⟩ := hothers other hother hne
  have hzero : call.parameter c.index.toNat = List.replicate 32 0 := by decide +kernel
  exact ⟨hc, hother, hcall, hlands, hne, by decide, by decide, hzero, hread hzero⟩

end CompactAmount

end Sandwich

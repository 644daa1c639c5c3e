import Sandwich.Proofs.Compact.Truncation
import Sandwich.Proofs.Swap

/-! Units taken away from an amount that a swap sells. However many are taken away, the
four bytes stay in their place and end at zero; the first unit leaves less than two units
of dust, counting what was lost when the amount was encoded. The payload of a back-run
tells just the amount that is left, and nothing else in it changes. -/

namespace Sandwich

namespace Payload

/-- The payload with other content in the field of that name. -/
def replace (p : Payload) (name : String) (content : Content) : Payload :=
  { p with fields := p.fields.map fun f => if f.1 = name then (f.1, content) else f }

end Payload

namespace CompactAmount

variable {c : CompactAmount}

/-! ### Units taken away -/

/-- The compact amount `d` is what is left of `c` after `count` units have been taken away. -/
structure Leaves (c : CompactAmount) (count : ℕ) (d : CompactAmount) : Prop where
  offset : d.offset = c.offset
  index : d.index = c.index
  shift : d.shift = c.shift
  amount : d.amount.toNat = (c.significant.toNat - count) * 256 ^ c.shift.toNat

theorem leaves_iterate_decrement (hc : InWord c.offset) (count : ℕ) :
    c.Leaves count (decrement^[count] c) := by
  have hoffset : (decrement^[count] c).offset = c.offset := offset_iterate_decrement c count
  have hindex : (decrement^[count] c).index = c.index := by rw [index, index, hoffset]
  have hshift : (decrement^[count] c).shift = c.shift := by rw [shift, shift, hindex, hoffset]
  refine ⟨hoffset, hindex, hshift, ?_⟩
  rw [toNat_amount (hoffset ▸ hc), toNat_significant_iterate_decrement, hshift]

theorem decrement_of_amount_eq_zero (hc : InWord c.offset) (h : c.amount = 0) :
    c.decrement = c := by
  have hamount : c.significant.toNat * 256 ^ c.shift.toNat = 0 := by
    rw [← toNat_amount hc, h]
    rfl
  have hsignificant : c.significant.toNat = 0 :=
    (Nat.mul_eq_zero.mp hamount).resolve_right (Nat.pow_pos (by norm_num)).ne'
  apply ext_toNat
  · rfl
  · rw [toNat_significant_decrement, hsignificant]

/-- Of an amount that is not zero, the four bytes of its compact form are not zero either. -/
theorem Keeps.significant_pos {n : ℕ} (h : c.Keeps n) (hn : 0 < n) : 0 < c.significant.toNat := by
  obtain hzero | hfull := h.full
  · rw [h.significant, hzero, pow_zero, Nat.div_one]
    exact hn
  · omega

/-- A unit taken away leaves dust of at least that unit and less than two. -/
theorem Keeps.dust {n : ℕ} (h : c.Keeps n) (hc : InWord c.offset) (hn : 0 < n) :
    c.decrement.amount.toNat < n ∧
      256 ^ c.shift.toNat ≤ n - c.decrement.amount.toNat ∧
      n - c.decrement.amount.toNat < 2 * 256 ^ c.shift.toNat := by
  have hunit : 0 < 256 ^ c.shift.toNat := Nat.pow_pos (by norm_num)
  have hsplit : c.amount.toNat + n % 256 ^ c.shift.toNat = n := h.amount_add hc
  have hmod : n % 256 ^ c.shift.toNat < 256 ^ c.shift.toNat := Nat.mod_lt n hunit
  have hless : c.decrement.amount.toNat + 256 ^ c.shift.toNat = c.amount.toNat := by
    have hsignificant : c.significant.toNat - 1 + 1 = c.significant.toNat :=
      Nat.sub_add_cancel (h.significant_pos hn)
    have hleft : c.decrement.amount.toNat = _ := (leaves_iterate_decrement hc 1).amount
    rw [hleft, toNat_amount hc, ← Nat.succ_mul, Nat.succ_eq_add_one, hsignificant]
  omega

end CompactAmount

/-! ### Back-runs of what is left -/

/-- What is packed with the compact amount `c` going in is taken apart, and so it is with `count`
units less, into the same but for the amount that goes in. -/
def Dusted (pack : CompactAmount → Except PayloadError Bytes) (c : CompactAmount) (count : ℕ) :
    Prop :=
  let d := CompactAmount.decrement^[count] c
  ∃ data data' p q, pack c = .ok data ∧ Payload.decode data = .ok p ∧
    p.get? "amount_in" = some (.compact c) ∧
    pack d = .ok data' ∧ Payload.decode data' = .ok q ∧
    q.get? "amount_in" = some (.compact d) ∧ q = p.replace "amount_in" (.compact d)

/-- It is enough to know what is told for any amount that goes in. -/
theorem dusted_of_exists (pack : CompactAmount → Except PayloadError Bytes)
    (payload : CompactAmount → Payload)
    (hpack : ∀ c, c.Obtainable →
      ∃ data, pack c = .ok data ∧ Payload.decode data = .ok (payload c))
    (hamount : ∀ c, (payload c).get? "amount_in" = some (.compact c))
    (hreplace : ∀ c d, payload d = (payload c).replace "amount_in" (.compact d))
    {c : CompactAmount} (hc : c.Obtainable) (count : ℕ) : Dusted pack c count := by
  obtain ⟨data, hdata, hdecode⟩ := hpack c hc
  obtain ⟨data', hdata', hdecode'⟩ := hpack _ (hc.iterate_decrement count)
  exact ⟨data, data', payload c, _, hdata, hdecode, hamount c, hdata', hdecode', hamount _,
    hreplace c _⟩

theorem V2Backrun.dusted (s : V2Backrun) (hout : s.amountOut.Obtainable) {c : CompactAmount}
    (hc : c.Obtainable) (count : ℕ) :
    Dusted (fun d => encode { s with amountIn := d }) c count :=
  dusted_of_exists _ (fun d => payload { s with amountIn := d })
    (fun d hd => exists_payload { s with amountIn := d } hd hout) (fun _ => rfl) (fun _ _ => rfl)
    hc count

theorem V3Backrun.dusted (s : V3Backrun) {c : CompactAmount} (hc : c.Obtainable) (count : ℕ) :
    Dusted (fun d => encode { s with amountIn := d }) c count :=
  dusted_of_exists _ (fun d => payload { s with amountIn := d })
    (fun d hd => exists_payload { s with amountIn := d } hd) (fun _ => rfl) (fun _ _ => rfl)
    hc count

namespace CompactAmount

/-- However many units are taken away from an encoded amount, the four bytes stay where they are
and lose as many, down to zero, where they stay. One unit taken away leaves an amount below the one
meant, by at least that unit and less than two. A back-run of any pool that sells what is left is
read back as just that, and as what it was in all else; so are those that are built from amounts,
which can always be built. -/
theorem dust_bounded :
    (∀ (amount : UInt256) (index : UInt8), index ≤ maxParameter →
      ∃ c, encode amount index = .ok c ∧ (∀ count, c.Leaves count (decrement^[count] c)) ∧
        (0 < amount.toNat → c.decrement.amount.toNat < amount.toNat ∧
          256 ^ c.shift.toNat ≤ amount.toNat - c.decrement.amount.toNat ∧
          amount.toNat - c.decrement.amount.toNat < 2 * 256 ^ c.shift.toNat) ∧
        (amount = 0 → c.amount = 0) ∧
        (∀ count, (decrement^[count] c).amount = 0 →
          decrement^[count + 1] c = decrement^[count] c) ∧
        (∀ s : V2Backrun, s.amountOut.Obtainable → ∀ count,
          Dusted (fun d => V2Backrun.encode { s with amountIn := d }) c count) ∧
        ∀ (s : V3Backrun) (count : ℕ),
          Dusted (fun d => V3Backrun.encode { s with amountIn := d }) c count) ∧
    (∀ (pool wrapped token : Address) (amountIn amountOut : UInt256),
      ∃ s, V2Backrun.build pool wrapped token amountIn amountOut = .ok s ∧
        encode amountIn 1 = .ok s.amountIn ∧ s.amountOut.Obtainable) ∧
    ∀ (pool : Address) (key : Word) (wrapped token : Address) (amountIn : UInt256),
      ∃ s, V3Backrun.build pool key wrapped token amountIn = .ok s ∧
        encode amountIn v3AmountParameter = .ok s.amountIn := by
  refine ⟨?_, ?_, ?_⟩
  · intro amount index hindex
    obtain ⟨c, hencode, hc⟩ := exists_encode index hindex amount
    have hkeeps := keeps_of_encode hencode
    refine ⟨c, hencode, leaves_iterate_decrement hc.inWord, hkeeps.dust hc.inWord, ?_, ?_,
      fun s hout => s.dusted hout hc, fun s => s.dusted hc⟩
    · rintro rfl
      exact BitVec.le_zero_iff.mp (amount_le hencode)
    · intro count hzero
      rw [Function.iterate_succ_apply']
      exact decrement_of_amount_eq_zero (hc.iterate_decrement count).inWord hzero
  · intro pool wrapped token amountIn amountOut
    obtain ⟨taken, given, hbuild, hin, -, -, hgiven⟩ :=
      V2Backrun.exists_build pool wrapped token amountIn amountOut
    exact ⟨_, hbuild, hin, hgiven⟩
  · intro pool key wrapped token amountIn
    obtain ⟨taken, hbuild, hin, -⟩ := V3Backrun.exists_build pool key wrapped token amountIn
    exact ⟨_, hbuild, hin⟩

/-- The first unit taken away from the least amount that drops a byte puts a zero in front. -/
theorem dust_bounded_zeroInFront :
    let amount : UInt256 := 0x100000000
    let c : CompactAmount := ⟨63, 0x1000000⟩
    (1 : UInt8) ≤ maxParameter ∧ encode amount 1 = .ok c ∧ c.decrement = ⟨63, 0xffffff⟩ ∧
      0 < amount.toNat ∧ c.decrement.amount.toNat < amount.toNat ∧
      256 ^ c.shift.toNat ≤ amount.toNat - c.decrement.amount.toNat ∧
      amount.toNat - c.decrement.amount.toNat < 2 * 256 ^ c.shift.toNat := by
  intro amount c
  have hindex : (1 : UInt8) ≤ maxParameter := by decide
  have hencode : encode amount 1 = .ok c := by decide +kernel
  have hpos : 0 < amount.toNat := by decide
  obtain ⟨c', hencode', -, hdust, -⟩ := dust_bounded.1 amount 1 hindex
  obtain rfl : c' = c := Except.ok.inj (hencode'.symm.trans hencode)
  exact ⟨hindex, hencode, by decide, hpos, hdust hpos⟩

end CompactAmount

end Sandwich

import Sandwich.Proofs.Compact.WireForm
import Sandwich.Proofs.Layout.Entries
import Sandwich.Swap

/-! The four swaps, packed and taken apart again. Each swap can be packed whatever
it is made of, and its payload tells the pool, the tokens and the amounts. Which
parameter takes an amount and which opcode applies follow from the order of the two
tokens alone: the two directions of a swap agree about it, and when the tokens change
places, so do the sides of the pool. -/

namespace Sandwich

/-- A swap through the multi-call path, as it is asked for. -/
inductive Swap
  | v2Frontrun (pool wrapped token : Address) (amountIn amountOut : UInt256)
  | v2Backrun (pool wrapped token : Address) (amountIn amountOut : UInt256)
  | v3Frontrun (pool : Address) (key : Word) (wrapped token : Address) (amountIn : UInt256)
  | v3Backrun (pool : Address) (key : Word) (wrapped token : Address) (amountIn : UInt256)

namespace Octets

theorem toNat_inj {n : ℕ} {a b : Octets n} : a.toNat = b.toNat ↔ a = b := by
  constructor
  · intro h
    have ha := Bytes.ofNat_toNat a.toBytes
    rw [a.length_toBytes] at ha
    have hb := Bytes.ofNat_toNat b.toBytes
    rw [b.length_toBytes] at hb
    apply Octets.ext
    rw [← ha, ← hb]
    exact congrArg (Bytes.ofNat n) h
  · rintro rfl
    rfl

/-- Of two different strings of one length, just one comes first. -/
theorem lt_iff_not_lt {n : ℕ} {a b : Octets n} (h : a ≠ b) : b < a ↔ ¬ a < b := by
  have hne : a.toNat ≠ b.toNat := toNat_inj.not.mpr h
  change b.toNat < a.toNat ↔ ¬ a.toNat < b.toNat
  omega

/-- The order of the numbers is the order of the bytes, the first difference deciding. -/
theorem lt_iff_toBytes_lt {n : ℕ} {a b : Octets n} : a < b ↔ a.toBytes < b.toBytes :=
  (Bytes.lt_iff_toNat_lt (a.length_toBytes.trans b.length_toBytes.symm)).symm

end Octets

namespace Layout

theorem v3Frontrun_mem_all (side : Bool) : v3Frontrun side ∈ all := by
  cases side <;> decide

theorem v3Backrun_mem_all (side : Bool) : v3Backrun side ∈ all := by
  cases side <;> decide

theorem v3Frontrun_decide (side : Prop) [Decidable side] :
    v3Frontrun (decide side) =
      ⟨if side then "v3_frontrun0_multi" else "v3_frontrun1_multi", if side then 75 else 85,
        [⟨"pool", .address⟩, ⟨"pool_key", .bytes32⟩, ⟨"amount_in", .compact⟩]⟩ := by
  by_cases h : side <;> simp [v3Frontrun, h]

theorem v3Backrun_decide (side : Prop) [Decidable side] :
    v3Backrun (decide side) =
      ⟨if side then "v3_backrun0_multi" else "v3_backrun1_multi", if side then 70 else 80,
        [⟨"pool", .address⟩, ⟨"pool_key", .bytes32⟩, ⟨"amount_in", .compact⟩,
          ⟨"input_token", .address⟩]⟩ := by
  by_cases h : side <;> simp [v3Backrun, h]

end Layout

/-! ### Back-runs, built and packed -/

namespace V2Backrun

theorem exists_build (pool wrapped token : Address) (amountIn amountOut : UInt256) :
    ∃ taken given, build pool wrapped token amountIn amountOut = .ok ⟨pool, token, taken, given⟩ ∧
      CompactAmount.encode amountIn 1 = .ok taken ∧ taken.Obtainable ∧
      CompactAmount.encode amountOut (if wrapped < token then 0 else 1) = .ok given ∧
      given.Obtainable := by
  obtain ⟨taken, hin, htaken⟩ := CompactAmount.exists_encode 1 (by decide) amountIn
  obtain ⟨given, hout, hgiven⟩ := CompactAmount.exists_encode
    (if wrapped < token then 0 else 1) (by split <;> decide) amountOut
  refine ⟨taken, given, ?_, hin, htaken, hout, hgiven⟩
  rw [build, hin, hout]
  rfl

def payload (s : V2Backrun) : Payload :=
  ⟨"v2_backrun_multi", 60, [("pool", .address s.pool), ("input_token", .address s.inputToken),
    ("amount_in", .compact s.amountIn), ("amount_out", .compact s.amountOut)]⟩

theorem exists_payload (s : V2Backrun) (hin : s.amountIn.Obtainable)
    (hout : s.amountOut.Obtainable) :
    ∃ data, s.encode = .ok data ∧ Payload.decode data = .ok s.payload :=
  Layout.exists_payload (l := .v2Backrun) (by decide) (.cons (Field.holds_address "pool" s.pool)
    (.cons (Field.holds_address "input_token" s.inputToken)
      (.cons (Field.holds_compact "amount_in" hin)
        (.cons (Field.holds_compact "amount_out" hout) .nil))))

end V2Backrun

namespace V3Backrun

theorem exists_build (pool : Address) (key : Word) (wrapped token : Address) (amountIn : UInt256) :
    ∃ taken, build pool key wrapped token amountIn =
        .ok ⟨pool, key, taken, token, decide (wrapped < token)⟩ ∧
      CompactAmount.encode amountIn v3AmountParameter = .ok taken ∧ taken.Obtainable := by
  obtain ⟨taken, hin, htaken⟩ := CompactAmount.exists_encode v3AmountParameter (by decide) amountIn
  refine ⟨taken, ?_, hin, htaken⟩
  rw [build, hin]
  rfl

def payload (s : V3Backrun) : Payload :=
  let layout := Layout.v3Backrun s.wrappedIsFirst
  ⟨layout.name, layout.opcode, [("pool", .address s.pool), ("pool_key", .word s.poolKey),
    ("amount_in", .compact s.amountIn), ("input_token", .address s.inputToken)]⟩

theorem exists_payload (s : V3Backrun) (hin : s.amountIn.Obtainable) :
    ∃ data, s.encode = .ok data ∧ Payload.decode data = .ok s.payload :=
  Layout.exists_payload (Layout.v3Backrun_mem_all s.wrappedIsFirst)
    (.cons (Field.holds_address "pool" s.pool) (.cons (Field.holds_word "pool_key" s.poolKey)
      (.cons (Field.holds_compact "amount_in" hin)
        (.cons (Field.holds_address "input_token" s.inputToken) .nil))))

end V3Backrun

namespace Payload

def outputIndex? (p : Payload) : Option UInt8 :=
  match p.get? "amount_out" with
  | some (.compact c) => some c.index
  | _ => none

/-- The side of the pool that the opcode of a swap in the third version takes the wrapped asset
to be on. -/
def wrappedIsFirst? (p : Payload) : Option Bool :=
  if p.opcode = 70 ∨ p.opcode = 75 then some true
  else if p.opcode = 80 ∨ p.opcode = 85 then some false
  else none

end Payload

namespace Swap

def pack : Swap → Except PayloadError Bytes
  | v2Frontrun pool wrapped token amountIn amountOut =>
    V2Frontrun.build pool wrapped token amountIn amountOut >>= V2Frontrun.encode
  | v2Backrun pool wrapped token amountIn amountOut =>
    V2Backrun.build pool wrapped token amountIn amountOut >>= V2Backrun.encode
  | v3Frontrun pool key wrapped token amountIn =>
    V3Frontrun.build pool key wrapped token amountIn >>= V3Frontrun.encode
  | v3Backrun pool key wrapped token amountIn =>
    V3Backrun.build pool key wrapped token amountIn >>= V3Backrun.encode

def readBack (s : Swap) : Except PayloadError Payload := s.pack >>= Payload.decode

/-- What the payload of a swap tells. In a pool of the second version, the first parameter takes
an amount of the first token and the second one an amount of the second token. -/
inductive Tells : Swap → Payload → Prop
  | v2Frontrun {pool wrapped token : Address} {amountIn amountOut : UInt256}
      {taken given : CompactAmount} (hin : CompactAmount.encode amountIn 0 = .ok taken)
      (hout : CompactAmount.encode amountOut (if wrapped < token then 1 else 0) = .ok given) :
      Tells (v2Frontrun pool wrapped token amountIn amountOut)
        ⟨"v2_frontrun_multi", 65, [("pool", .address pool), ("amount_in", .compact taken),
          ("amount_out", .compact given)]⟩
  | v2Backrun {pool wrapped token : Address} {amountIn amountOut : UInt256}
      {taken given : CompactAmount} (hin : CompactAmount.encode amountIn 1 = .ok taken)
      (hout : CompactAmount.encode amountOut (if wrapped < token then 0 else 1) = .ok given) :
      Tells (v2Backrun pool wrapped token amountIn amountOut)
        ⟨"v2_backrun_multi", 60, [("pool", .address pool), ("input_token", .address token),
          ("amount_in", .compact taken), ("amount_out", .compact given)]⟩
  | v3Frontrun {pool wrapped token : Address} {key : Word} {amountIn : UInt256}
      {taken : CompactAmount} (hin : CompactAmount.encode amountIn 2 = .ok taken) :
      Tells (v3Frontrun pool key wrapped token amountIn)
        ⟨if wrapped < token then "v3_frontrun0_multi" else "v3_frontrun1_multi",
          if wrapped < token then 75 else 85,
          [("pool", .address pool), ("pool_key", .word key), ("amount_in", .compact taken)]⟩
  | v3Backrun {pool wrapped token : Address} {key : Word} {amountIn : UInt256}
      {taken : CompactAmount} (hin : CompactAmount.encode amountIn 2 = .ok taken) :
      Tells (v3Backrun pool key wrapped token amountIn)
        ⟨if wrapped < token then "v3_backrun0_multi" else "v3_backrun1_multi",
          if wrapped < token then 70 else 80,
          [("pool", .address pool), ("pool_key", .word key), ("amount_in", .compact taken),
            ("input_token", .address token)]⟩

/-! ### Every swap is read back -/

theorem exists_tells_v2Frontrun (pool wrapped token : Address) (amountIn amountOut : UInt256) :
    ∃ data p, (v2Frontrun pool wrapped token amountIn amountOut).pack = .ok data ∧
      Payload.decode data = .ok p ∧ Tells (v2Frontrun pool wrapped token amountIn amountOut) p := by
  obtain ⟨taken, hin, htaken⟩ := CompactAmount.exists_encode 0 (by decide) amountIn
  obtain ⟨given, hout, hgiven⟩ := CompactAmount.exists_encode
    (if wrapped < token then 1 else 0) (by split <;> decide) amountOut
  obtain ⟨data, hdata, hdecode⟩ := Layout.exists_payload (l := .v2Frontrun) (by decide)
    (.cons (Field.holds_address "pool" pool) (.cons (Field.holds_compact "amount_in" htaken)
      (.cons (Field.holds_compact "amount_out" hgiven) .nil)))
  refine ⟨data, _, ?_, hdecode, .v2Frontrun hin hout⟩
  rw [pack, V2Frontrun.build, hin, hout]
  exact hdata

theorem exists_tells_v2Backrun (pool wrapped token : Address) (amountIn amountOut : UInt256) :
    ∃ data p, (v2Backrun pool wrapped token amountIn amountOut).pack = .ok data ∧
      Payload.decode data = .ok p ∧ Tells (v2Backrun pool wrapped token amountIn amountOut) p := by
  obtain ⟨taken, given, hbuild, hin, htaken, hout, hgiven⟩ :=
    V2Backrun.exists_build pool wrapped token amountIn amountOut
  obtain ⟨data, hdata, hdecode⟩ :=
    V2Backrun.exists_payload ⟨pool, token, taken, given⟩ htaken hgiven
  refine ⟨data, _, ?_, hdecode, .v2Backrun hin hout⟩
  rw [pack, hbuild]
  exact hdata

theorem exists_tells_v3Frontrun (pool : Address) (key : Word) (wrapped token : Address)
    (amountIn : UInt256) :
    ∃ data p, (v3Frontrun pool key wrapped token amountIn).pack = .ok data ∧
      Payload.decode data = .ok p ∧ Tells (v3Frontrun pool key wrapped token amountIn) p := by
  obtain ⟨taken, hin, htaken⟩ := CompactAmount.exists_encode 2 (by decide) amountIn
  obtain ⟨data, hdata, hdecode⟩ := Layout.exists_payload (Layout.v3Frontrun_mem_all _)
    (.cons (Field.holds_address "pool" pool) (.cons (Field.holds_word "pool_key" key)
      (.cons (Field.holds_compact "amount_in" htaken) .nil)))
  refine ⟨data, _, ?_, hdecode, ?_⟩
  · rw [pack, V3Frontrun.build, v3AmountParameter, hin]
    exact hdata
  · rw [Layout.v3Frontrun_decide]
    exact .v3Frontrun hin

theorem exists_tells_v3Backrun (pool : Address) (key : Word) (wrapped token : Address)
    (amountIn : UInt256) :
    ∃ data p, (v3Backrun pool key wrapped token amountIn).pack = .ok data ∧
      Payload.decode data = .ok p ∧ Tells (v3Backrun pool key wrapped token amountIn) p := by
  obtain ⟨taken, hbuild, hin, htaken⟩ := V3Backrun.exists_build pool key wrapped token amountIn
  obtain ⟨data, hdata, hdecode⟩ :=
    V3Backrun.exists_payload ⟨pool, key, taken, token, decide (wrapped < token)⟩ htaken
  refine ⟨data, _, ?_, hdecode, ?_⟩
  · rw [pack, hbuild]
    exact hdata
  · rw [V3Backrun.payload, Layout.v3Backrun_decide]
    exact .v3Backrun hin

/-- Every swap can be packed, and its payload tells what the swap is made of. -/
theorem exists_tells (s : Swap) :
    ∃ data p, s.pack = .ok data ∧ Payload.decode data = .ok p ∧ s.Tells p := by
  cases s with
  | v2Frontrun => exact exists_tells_v2Frontrun ..
  | v2Backrun => exact exists_tells_v2Backrun ..
  | v3Frontrun => exact exists_tells_v3Frontrun ..
  | v3Backrun => exact exists_tells_v3Backrun ..

/-! ### The sides of a pool -/

def wrapped : Swap → Address
  | v2Frontrun _ wrapped _ _ _ | v2Backrun _ wrapped _ _ _ => wrapped
  | v3Frontrun _ _ wrapped _ _ | v3Backrun _ _ wrapped _ _ => wrapped

def token : Swap → Address
  | v2Frontrun _ _ token _ _ | v2Backrun _ _ token _ _ => token
  | v3Frontrun _ _ _ token _ | v3Backrun _ _ _ token _ => token

def exchanged : Swap → Swap
  | v2Frontrun pool wrapped token amountIn amountOut =>
    v2Frontrun pool token wrapped amountIn amountOut
  | v2Backrun pool wrapped token amountIn amountOut =>
    v2Backrun pool token wrapped amountIn amountOut
  | v3Frontrun pool key wrapped token amountIn => v3Frontrun pool key token wrapped amountIn
  | v3Backrun pool key wrapped token amountIn => v3Backrun pool key token wrapped amountIn

def output? : Swap → Option UInt8
  | v2Frontrun _ wrapped token _ _ => some (if wrapped < token then 1 else 0)
  | v2Backrun _ wrapped token _ _ => some (if wrapped < token then 0 else 1)
  | v3Frontrun .. | v3Backrun .. => none

def side? : Swap → Option Bool
  | v2Frontrun .. | v2Backrun .. => none
  | v3Frontrun _ _ wrapped token _ | v3Backrun _ _ wrapped token _ =>
    some (decide (wrapped < token))

theorem outputIndex?_of_tells {s : Swap} {p : Payload} (h : s.Tells p) :
    p.outputIndex? = s.output? := by
  cases h with
  | v2Frontrun hin hout | v2Backrun hin hout =>
    rw [output?, ← CompactAmount.index_of_encode hout]
    rfl
  | v3Frontrun hin | v3Backrun hin => rfl

theorem wrappedIsFirst?_of_tells {s : Swap} {p : Payload} (h : s.Tells p) :
    p.wrappedIsFirst? = s.side? := by
  cases h with
  | v2Frontrun | v2Backrun => rfl
  | @v3Frontrun _ wrapped token | @v3Backrun _ wrapped token =>
    by_cases hside : wrapped < token <;> simp [Payload.wrappedIsFirst?, side?, hside]

theorem output?_exchanged {s : Swap} (h : s.wrapped ≠ s.token) :
    s.exchanged.output? = s.output?.map (1 - ·) := by
  cases s with
  | v2Frontrun _ wrapped token | v2Backrun _ wrapped token =>
    have hlt : token < wrapped ↔ ¬ wrapped < token := Octets.lt_iff_not_lt h
    by_cases hside : wrapped < token <;> simp [exchanged, output?, hlt, hside]
  | v3Frontrun | v3Backrun => rfl

theorem side?_exchanged {s : Swap} (h : s.wrapped ≠ s.token) :
    s.exchanged.side? = s.side?.map (!·) := by
  cases s with
  | v2Frontrun | v2Backrun => rfl
  | v3Frontrun _ _ wrapped token | v3Backrun _ _ wrapped token =>
    have hlt : token < wrapped ↔ ¬ wrapped < token := Octets.lt_iff_not_lt h
    simp [exchanged, side?, hlt]

/-- What is read back of a swap names its output and its side. -/
theorem exists_readBack (s : Swap) :
    ∃ p, s.readBack = .ok p ∧ s.Tells p ∧ p.outputIndex? = s.output? ∧
      p.wrappedIsFirst? = s.side? := by
  obtain ⟨data, p, hdata, hdecode, htells⟩ := exists_tells s
  refine ⟨p, Except.bind_eq_ok_iff.mpr ⟨data, hdata, hdecode⟩, htells, ?_, ?_⟩
  · exact outputIndex?_of_tells htells
  · exact wrappedIsFirst?_of_tells htells

/-- Every swap can be packed and is read back as it was asked for. For one and the same pair of
tokens, the two directions of a swap take out the amounts of different parameters in the second
version, and name the same side of the pool in the third. When two different tokens change
places, so do the parameters and the sides. -/
theorem sides_agree :
    (∀ s : Swap, ∃ p, s.readBack = .ok p ∧ s.Tells p) ∧
    (∀ (wrapped token pool pool' : Address) (amountIn amountOut amountIn' amountOut' : UInt256),
      ∃ p q, (v2Frontrun pool wrapped token amountIn amountOut).readBack = .ok p ∧
        (v2Backrun pool' wrapped token amountIn' amountOut').readBack = .ok q ∧
        (p.outputIndex? = some 0 ∧ q.outputIndex? = some 1 ∨
          p.outputIndex? = some 1 ∧ q.outputIndex? = some 0)) ∧
    (∀ (wrapped token pool pool' : Address) (key key' : Word) (amountIn amountIn' : UInt256),
      ∃ p q side, (v3Frontrun pool key wrapped token amountIn).readBack = .ok p ∧
        (v3Backrun pool' key' wrapped token amountIn').readBack = .ok q ∧
        p.wrappedIsFirst? = some side ∧ q.wrappedIsFirst? = some side) ∧
    ∀ s : Swap, s.wrapped ≠ s.token → ∃ p q, s.readBack = .ok p ∧ s.exchanged.readBack = .ok q ∧
      q.outputIndex? = p.outputIndex?.map (1 - ·) ∧
      q.wrappedIsFirst? = p.wrappedIsFirst?.map (!·) := by
  refine ⟨?_, ?_, ?_, ?_⟩
  · intro s
    obtain ⟨p, hp, htells, -⟩ := exists_readBack s
    exact ⟨p, hp, htells⟩
  · intro wrapped token pool pool' amountIn amountOut amountIn' amountOut'
    obtain ⟨p, hp, -, houtput, -⟩ :=
      exists_readBack (v2Frontrun pool wrapped token amountIn amountOut)
    obtain ⟨q, hq, -, houtput', -⟩ :=
      exists_readBack (v2Backrun pool' wrapped token amountIn' amountOut')
    refine ⟨p, q, hp, hq, ?_⟩
    rw [houtput, houtput', output?, output?]
    by_cases hside : wrapped < token <;> simp [hside]
  · intro wrapped token pool pool' key key' amountIn amountIn'
    obtain ⟨p, hp, -, -, hside⟩ := exists_readBack (v3Frontrun pool key wrapped token amountIn)
    obtain ⟨q, hq, -, -, hside'⟩ := exists_readBack (v3Backrun pool' key' wrapped token amountIn')
    exact ⟨p, q, decide (wrapped < token), hp, hq, hside, hside'⟩
  · intro s htokens
    obtain ⟨p, hp, -, houtput, hside⟩ := exists_readBack s
    obtain ⟨q, hq, -, houtput', hside'⟩ := exists_readBack s.exchanged
    refine ⟨p, q, hp, hq, ?_, ?_⟩
    · rw [houtput, houtput', output?_exchanged htokens]
    · rw [hside, hside', side?_exchanged htokens]

/-- A back-run of one unit, which is sold for the largest amount there is. -/
theorem sides_agree_backrun :
    let s := v2Backrun (.zero 20) (.ofNat 20 0xc02a) (.ofNat 20 0xdac1) 1 (-1)
    s.wrapped ≠ s.token ∧ ∃ p q, s.readBack = .ok p ∧ s.exchanged.readBack = .ok q ∧
      q.outputIndex? = p.outputIndex?.map (1 - ·) ∧
      q.wrappedIsFirst? = p.wrappedIsFirst?.map (!·) := by
  intro s
  have htokens : s.wrapped ≠ s.token := by decide
  exact ⟨htokens, sides_agree.2.2.2 s htokens⟩

end Swap

end Sandwich

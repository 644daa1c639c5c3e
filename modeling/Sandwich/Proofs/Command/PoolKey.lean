import Sandwich.Command.Run
import Sandwich.Proofs.Layout.Packing
import Sandwich.Proofs.Swap

/-! The order of a pool's tokens in the third version. It is settled twice: the key of
the pool is the hash of the tokens in their order, and the opcode says which of them is
the wrapped asset. The contract trusts both, and both come to the same: the opcode takes
the wrapped asset for the first token just if it is the first in the key, in either
direction of the swap, and exchanging the tokens changes the opcode but not the key. -/

namespace Sandwich

/-- The bytes of which the key of a pool is the hash: each token behind twelve zeros, and the fee
in the width of a word. -/
def keyPreimage (first second : Address) (fee : UInt32) : Bytes :=
  List.replicate 12 0 ++ first.toBytes ++ (List.replicate 12 0 ++ second.toBytes) ++
    Bytes.ofNat 32 fee.toNat

theorem length_keyPreimage (first second : Address) (fee : UInt32) :
    (keyPreimage first second fee).length = 96 := by
  simp [keyPreimage]

theorem poolKey_eq (hash : Bytes → Word) (first second : Address) (fee : UInt32) :
    poolKey hash first second fee = hash (keyPreimage first second fee) := rfl

/-! ### The tokens in order -/

/-- The two tokens `a` and `b`, with the one in front whose bytes come first. -/
structure Sorts (a b first second : Address) : Prop where
  pair : first = a ∧ second = b ∨ first = b ∧ second = a
  order : first.toBytes < second.toBytes

namespace Sorts

variable {a b first second : Address}

theorem symm (h : Sorts a b first second) : Sorts b a first second := ⟨h.pair.symm, h.order⟩

theorem lt (h : Sorts a b first second) : first < second := Octets.lt_iff_toBytes_lt.mpr h.order

theorem lt_iff (h : Sorts a b first second) : a < b ↔ first = a := by
  have hlt : first < second := h.lt
  obtain ⟨rfl, rfl⟩ | ⟨rfl, rfl⟩ := h.pair
  · exact iff_of_true hlt rfl
  · refine iff_of_false (Nat.lt_asymm hlt) ?_
    rintro rfl
    exact Nat.lt_irrefl _ hlt

end Sorts

theorem exists_sorts {a b : Address} (h : a ≠ b) : ∃ first second, Sorts a b first second := by
  by_cases hlt : a < b
  · exact ⟨a, b, .inl ⟨rfl, rfl⟩, Octets.lt_iff_toBytes_lt.mp hlt⟩
  · have hlt' : b < a := (Octets.lt_iff_not_lt h).mpr hlt
    exact ⟨b, a, .inr ⟨rfl, rfl⟩, Octets.lt_iff_toBytes_lt.mp hlt'⟩

/-! ### The key in the payload -/

/-- The payload starts with the opcode and has the key behind the twenty bytes of the pool. -/
structure Carries (data : Bytes) (opcode : UInt8) (key : Word) : Prop where
  opcode : data.head? = some opcode
  key : (data.drop 21).take 32 = key.toBytes

namespace Swap

def key? : Swap → Option Word
  | v2Frontrun .. | v2Backrun .. => none
  | v3Frontrun _ key _ _ _ | v3Backrun _ key _ _ _ => some key

theorem carries_of_tells {s : Swap} {key : Word} {data : Bytes} {p : Payload}
    (hkey : s.key? = some key) (hdecode : Payload.decode data = .ok p) (htells : s.Tells p) :
    Carries data p.opcode key := by
  -- the key is the field behind the pool in both layouts of the third version
  cases htells with
  | v2Frontrun | v2Backrun => cases hkey
  | @v3Frontrun _ wrapped token =>
    cases hkey
    have hpacked := Layout.packed_of_decode
      (Layout.v3Frontrun_mem_all (decide (wrapped < token))) hdecode (by
        rw [Layout.v3Frontrun_decide])
    exact ⟨hpacked.opcode, hpacked.word (k := 1) rfl rfl⟩
  | @v3Backrun _ wrapped token =>
    cases hkey
    have hpacked := Layout.packed_of_decode
      (Layout.v3Backrun_mem_all (decide (wrapped < token))) hdecode (by
        rw [Layout.v3Backrun_decide])
    exact ⟨hpacked.opcode, hpacked.word (k := 1) rfl rfl⟩

end Swap

namespace Command

namespace SwapOptions

def exchanged (s : SwapOptions) : SwapOptions := { s with wrapped := s.token, token := s.wrapped }

/-- The key does not tell which of the two tokens is the wrapped asset. -/
theorem poolKey_of_sorts {s : SwapOptions} {first second : Address}
    (h : Sorts s.wrapped s.token first second) (hash : Bytes → Word) (fee : UInt32) :
    s.poolKey hash fee = hash (keyPreimage first second fee) := by
  have hlt : first < second := h.lt
  obtain ⟨rfl, rfl⟩ | ⟨rfl, rfl⟩ := h.pair
  · have hnot : ¬ s.token < s.wrapped := Nat.lt_asymm hlt
    rw [poolKey, if_neg hnot, poolKey_eq]
  · rw [poolKey, if_pos hlt, poolKey_eq]

end SwapOptions

namespace PayloadOptions

variable (hash : Bytes → Word) {s : SwapOptions} (fee : UInt32) {n : UInt256}

/-- What is packed as a swap carries the key of the swap behind the opcode of the swap. -/
theorem exists_carries_of_swap {hash : Bytes → Word} {o : PayloadOptions} {opcode : UInt8}
    {key : Word} (swap : Swap) (hencode : o.encode hash = swap.pack.mapError .payload)
    (hkey : swap.key? = some key) (hopcode : ∀ p, swap.Tells p → p.opcode = opcode) :
    ∃ data, o.encode hash = .ok data ∧ Carries data opcode key := by
  obtain ⟨data, p, hdata, hdecode, htells⟩ := swap.exists_tells
  refine ⟨data, hencode.trans (Except.mapError_eq_ok_iff.mpr hdata), ?_⟩
  rw [← hopcode p htells]
  exact Swap.carries_of_tells hkey hdecode htells

theorem exists_carries_v3Frontrun (hamount : amount s.amountIn = .ok n) :
    ∃ data, (v3Frontrun s fee).encode hash = .ok data ∧
      Carries data (if s.wrapped < s.token then 75 else 85) (s.poolKey hash fee) := by
  refine exists_carries_of_swap
    (.v3Frontrun s.pool (s.poolKey hash fee) s.wrapped s.token n) ?_ rfl ?_
  · rw [encode, hamount]
    rfl
  · rintro p ⟨-⟩
    rfl

theorem exists_carries_v3Backrun (hamount : amount s.amountIn = .ok n) :
    ∃ data, (v3Backrun s fee).encode hash = .ok data ∧
      Carries data (if s.wrapped < s.token then 70 else 80) (s.poolKey hash fee) := by
  refine exists_carries_of_swap
    (.v3Backrun s.pool (s.poolKey hash fee) s.wrapped s.token n) ?_ rfl ?_
  · rw [encode, hamount]
    rfl
  · rintro p ⟨-⟩
    rfl

end PayloadOptions

/-! ### Key and opcode -/

open PayloadOptions

/-- The key of a pool with two different tokens is the hash of 96 bytes, in which the token comes
first whose bytes come first. Front-run and back-run are packed with this key in the same place, and
with the same key when the wrapped asset and the token change places. Their opcodes take the wrapped
asset for the first token just if it comes first in the key, so that they change sides when the
tokens change places. -/
theorem key_and_opcode_agree (hash : Bytes → Word) (s : SwapOptions) (fee : UInt32) {n : UInt256}
    (htokens : s.wrapped ≠ s.token) (hamount : amount s.amountIn = .ok n) :
    ∃ first second key, Sorts s.wrapped s.token first second ∧
      key = hash (keyPreimage first second fee) ∧ (keyPreimage first second fee).length = 96 ∧
      ∃ front back front' back',
        (v3Frontrun s fee).encode hash = .ok front ∧
        (v3Backrun s fee).encode hash = .ok back ∧
        (v3Frontrun s.exchanged fee).encode hash = .ok front' ∧
        (v3Backrun s.exchanged fee).encode hash = .ok back' ∧
        Carries front (if first = s.wrapped then 75 else 85) key ∧
        Carries back (if first = s.wrapped then 70 else 80) key ∧
        Carries front' (if first = s.wrapped then 85 else 75) key ∧
        Carries back' (if first = s.wrapped then 80 else 70) key := by
  obtain ⟨first, second, hsorts⟩ := exists_sorts htokens
  have hkey : s.poolKey hash fee = hash (keyPreimage first second fee) :=
    SwapOptions.poolKey_of_sorts hsorts hash fee
  have hkey' : s.exchanged.poolKey hash fee = hash (keyPreimage first second fee) :=
    SwapOptions.poolKey_of_sorts hsorts.symm hash fee
  have hside : s.wrapped < s.token ↔ first = s.wrapped := hsorts.lt_iff
  have hside' : s.exchanged.wrapped < s.exchanged.token ↔ ¬ first = s.wrapped :=
    (Octets.lt_iff_not_lt htokens).trans (not_congr hside)
  obtain ⟨front, hfront, hcarriesFront⟩ := exists_carries_v3Frontrun hash fee hamount
  obtain ⟨back, hback, hcarriesBack⟩ := exists_carries_v3Backrun hash fee hamount
  obtain ⟨front', hfront', hcarriesFront'⟩ :=
    exists_carries_v3Frontrun (s := s.exchanged) hash fee hamount
  obtain ⟨back', hback', hcarriesBack'⟩ :=
    exists_carries_v3Backrun (s := s.exchanged) hash fee hamount
  simp only [hkey, hside] at hcarriesFront hcarriesBack
  simp only [hkey', hside', ite_not] at hcarriesFront' hcarriesBack'
  refine ⟨first, second, _, hsorts, rfl, length_keyPreimage first second fee, ?_⟩
  exact ⟨front, back, front', back', hfront, hback, hfront', hback', hcarriesFront, hcarriesBack,
    hcarriesFront', hcarriesBack'⟩

/-- A pool in which the token comes before the wrapped asset. -/
theorem key_and_opcode_agree_tokenFirst :
    let s : SwapOptions := {
      pool := .ofNat 20 0xe5a7ab, token := .ofNat 20 0x85d4780b73119b644ae5ecd22b376,
      amountIn := "5gwei" }
    let key := Keccak.hash (keyPreimage s.token s.wrapped 500)
    s.wrapped ≠ s.token ∧ amount s.amountIn = .ok 5000000000 ∧
      ∃ front back, (v3Frontrun s 500).encode Keccak.hash = .ok front ∧
        (v3Backrun s 500).encode Keccak.hash = .ok back ∧
        Carries front 85 key ∧ Carries back 80 key := by
  intro s key
  have htokens : s.wrapped ≠ s.token := by decide
  have hamount : amount "5gwei" = .ok 5000000000 := rfl
  obtain ⟨first, second, _, hsorts, rfl, -, front, back, -, -, hfront, hback, -, -, hcarriesFront,
    hcarriesBack, -⟩ := key_and_opcode_agree Keccak.hash s 500 htokens hamount
  have hfirst : first ≠ s.wrapped := hsorts.lt_iff.not.mp (by decide)
  rw [if_neg hfirst] at hcarriesFront hcarriesBack
  obtain ⟨rfl, -⟩ | ⟨rfl, rfl⟩ := hsorts.pair
  · exact absurd rfl hfirst
  · exact ⟨htokens, hamount, front, back, hfront, hback, hcarriesFront, hcarriesBack⟩

end Command

end Sandwich

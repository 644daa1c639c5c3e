import Mathlib.Tactic.NormNum
import Sandwich.Abi
import Sandwich.Proofs.Bytes

/-! Calls read back. Those to the wrapped asset have their arguments in words of their
own. In those to the factory, each of the two arguments of varying length is found
through the word that holds its place, behind its own length, whatever the lengths
are. -/

namespace Sandwich

theorem Word.toAddress_toWord (a : Address) : a.toWord.toAddress = a :=
  Octets.ext (List.drop_left' (List.length_replicate ..))

namespace Abi

/-! ### Words -/

theorem word?_append {before : Bytes} {i : ℕ} (hbefore : before.length = 32 * i) (w : Word)
    (after : Bytes) : word? (before ++ (w.toBytes ++ after)) i = some w := by
  have htake : ((before ++ (w.toBytes ++ after)).drop (32 * i)).take 32 = w.toBytes := by
    rw [← hbefore, List.drop_left, List.take_left' w.length_toBytes]
  rw [word?, htake, Octets.ofBytes?, dif_pos w.length_toBytes]

theorem uint?_zero (data : Bytes) : uint? data 0 =
    if data.length < 32 then none else some (BitVec.ofNat 256 (Bytes.toNat (data.take 32))) := by
  rw [uint?, word?, Octets.ofBytes?, Nat.mul_zero, List.drop_zero]
  by_cases h : data.length < 32
  · rw [dif_neg (by rw [List.length_take]; omega), if_pos h]
    rfl
  · rw [dif_pos (by rw [List.length_take]; omega), if_neg h]
    rfl

theorem address?_of_word? {arguments : Bytes} {i : ℕ} {a : Address}
    (h : word? arguments i = some a.toWord) : address? arguments i = some a := by
  rw [address?, h, Option.map_some, Word.toAddress_toWord]

theorem uint?_of_word? {arguments : Bytes} {i : ℕ} {x : UInt256}
    (h : word? arguments i = some (Word.ofUInt256 x)) : uint? arguments i = some x := by
  rw [uint?, h, Option.map_some]
  exact congrArg some (Bytes.uint256_toNat_ofNat x)

theorem uint?_ofUInt256 (x : UInt256) : uint? (Word.ofUInt256 x).toBytes 0 = some x := by
  have hword := word?_append (i := 0) List.length_nil (Word.ofUInt256 x) []
  rw [List.nil_append, List.append_nil] at hword
  exact uint?_of_word? hword

theorem size?_of_word? {arguments : Bytes} {i n : ℕ} (hn : n < bitBound 64)
    (h : word? arguments i = some (Octets.ofNat 32 n)) : size? arguments i = some n := by
  have htoNat : (Octets.ofNat 32 n).toNat = n := by
    have hlt : n < 256 ^ 32 := hn.trans (by norm_num [bitBound])
    rw [Octets.toNat, Octets.ofNat, Bytes.toNat_ofNat, Nat.mod_eq_of_lt hlt]
  simp [size?, h, htoNat, hn]

/-! ### Calls to the wrapped asset -/

theorem arguments?_append (selector arguments : Bytes) (h : selector.length = 4) :
    arguments? selector (selector ++ arguments) = some arguments := by
  rw [arguments?, if_pos (List.take_left' h), List.drop_left' h]

theorem arguments?_eq_none {selector other arguments : Bytes} (h : other.length = 4)
    (hne : other ≠ selector) : arguments? selector (other ++ arguments) = none := by
  rw [arguments?, List.take_left' h, if_neg hne]

/-- A call that moves an amount is read as what it was made of. -/
theorem transfer?_transfer (receiver : Address) (amount : UInt256) :
    transfer? (transfer receiver amount) = some (receiver, amount) := by
  -- behind a name, the digits of the amount are not computed when words are compared
  generalize hword : Word.ofUInt256 amount = word
  let arguments := receiver.toWord.toBytes ++ (word.toBytes ++ [])
  have harguments : arguments? transferSelector (transfer receiver amount) = some arguments := by
    rw [transfer, hword, List.append_assoc, ← List.append_nil word.toBytes]
    exact arguments?_append _ _ rfl
  have hreceiver : address? arguments 0 = some receiver :=
    address?_of_word? (word?_append (i := 0) List.length_nil receiver.toWord _)
  have hamount : uint? arguments 1 = some amount := by
    refine uint?_of_word? ?_
    rw [hword]
    exact word?_append (i := 1) receiver.toWord.length_toBytes word []
  simp only [transfer?, harguments, hreceiver, hamount, Option.bind_eq_bind, Option.bind_some,
    Option.pure_def]

theorem balanceOf?_balanceOf (owner : Address) : balanceOf? (balanceOf owner) = some owner := by
  have hword := word?_append (i := 0) List.length_nil owner.toWord []
  rw [List.nil_append, List.append_nil] at hword
  rw [balanceOf?, balanceOf, arguments?_append _ _ rfl]
  exact address?_of_word? hword

/-! ### Arguments of varying length -/

theorem tail_eq (bs : Bytes) : tail bs = (Octets.ofNat 32 bs.length).toBytes ++
    (bs ++ List.replicate ((32 - bs.length % 32) % 32) 0) :=
  List.append_assoc _ _ _

/-- Bytes are read from where their place says, up to their length. -/
theorem bytes?_of_place {arguments before bs after : Bytes} {i : ℕ}
    (hword : word? arguments i = some (Octets.ofNat 32 before.length))
    (harguments : arguments = before ++ (tail bs ++ after))
    (hbefore : before.length < bitBound 64) (hbs : bs.length < bitBound 64) :
    bytes? arguments i = some bs := by
  have hplace := size?_of_word? hbefore hword
  have hdrop : arguments.drop before.length = tail bs ++ after := by
    rw [harguments, List.drop_left]
  have hinside : ¬ arguments.length < before.length := by
    rw [harguments, List.length_append]
    omega
  have hlength : size? (tail bs ++ after) 0 = some bs.length := by
    have hfirst := word?_append (i := 0) List.length_nil (Octets.ofNat 32 bs.length)
      (bs ++ List.replicate ((32 - bs.length % 32) % 32) 0 ++ after)
    rw [List.nil_append, ← List.append_assoc, ← tail_eq] at hfirst
    exact size?_of_word? hbs hfirst
  have hrest : (tail bs ++ after).drop 32 =
      bs ++ (List.replicate ((32 - bs.length % 32) % 32) 0 ++ after) := by
    rw [tail_eq, List.append_assoc, List.append_assoc, List.drop_left' (Octets.length_toBytes _)]
  have henough : ¬ (bs ++ (List.replicate ((32 - bs.length % 32) % 32) 0 ++ after)).length <
      bs.length := by
    rw [List.length_append]
    omega
  simp only [bytes?, hplace, Option.bind_eq_bind, Option.bind_some, if_neg hinside, hdrop, hlength,
    hrest, if_neg henough, List.take_left]

/-! ### Calls to the factory -/

/-- The places and lengths in a call that deploys are numbers of at most eight bytes, as those of
all bytes are that a memory can hold. -/
def Fits (bytecode initData : Bytes) : Prop :=
  96 + (tail bytecode).length < bitBound 64 ∧ initData.length < bitBound 64

instance (bytecode initData : Bytes) : Decidable (Fits bytecode initData) :=
  inferInstanceAs (Decidable (_ ∧ _))

theorem length_lt_of_fits {bytecode initData : Bytes} (h : Fits bytecode initData) :
    bytecode.length < bitBound 64 := by
  have hle : bytecode.length ≤ (tail bytecode).length := by
    simp only [tail, List.length_append]
    omega
  exact Nat.lt_of_le_of_lt (hle.trans (Nat.le_add_left _ _)) h.1

/-- A call that deploys is read as what it was made of. -/
theorem deploy?_deploy {bytecode initData : Bytes} (h : Fits bytecode initData) (salt : Word) :
    deploy? (deploy salt bytecode initData) = some (salt, bytecode, initData) := by
  -- behind a name, the digits of the places are not computed when words are compared
  generalize hplace : Octets.ofNat 32 96 = place
  generalize hplace' : Octets.ofNat 32 (96 + (tail bytecode).length) = place'
  let arguments := salt.toBytes ++ (place.toBytes ++ (place'.toBytes ++
    (tail bytecode ++ tail initData)))
  have harguments : arguments? deploySelector (deploy salt bytecode initData) = some arguments := by
    rw [← arguments?_append deploySelector arguments rfl]
    simp only [deploy, arguments, ← hplace, ← hplace', Octets.ofNat, List.append_assoc]
  have hsalt : word? arguments 0 = some salt := word?_append (i := 0) List.length_nil salt _
  have hword : word? arguments 1 = some place := word?_append (i := 1) salt.length_toBytes place _
  have hword' : word? arguments 2 = some place' := by
    have hlength : (salt.toBytes ++ place.toBytes).length = 32 * 2 := by simp
    have hw := word?_append hlength place' (tail bytecode ++ tail initData)
    rwa [List.append_assoc] at hw
  have hbytecode : bytes? arguments 1 = some bytecode := by
    let head := salt.toBytes ++ (place.toBytes ++ place'.toBytes)
    have hlength : head.length = 96 := by simp [head]
    have hsplit : arguments = head ++ (tail bytecode ++ tail initData) := by
      simp only [arguments, head, List.append_assoc]
    refine bytes?_of_place ?_ hsplit ?_ (length_lt_of_fits h)
    · rw [hlength, hplace, hword]
    · rw [hlength]
      norm_num [bitBound]
  have hinitData : bytes? arguments 2 = some initData := by
    let head := salt.toBytes ++ (place.toBytes ++ (place'.toBytes ++ tail bytecode))
    have hlength : head.length = 96 + (tail bytecode).length := by
      simp [head]
      omega
    have hsplit : arguments = head ++ (tail initData ++ []) := by
      simp only [arguments, head, List.append_assoc, List.append_nil]
    refine bytes?_of_place ?_ hsplit ?_ h.2
    · rw [hlength, hplace', hword']
    · rw [hlength]
      exact h.1
  simp only [deploy?, harguments, hsalt, hbytecode, hinitData, Option.bind_eq_bind,
    Option.bind_some, Option.pure_def]

end Abi

end Sandwich

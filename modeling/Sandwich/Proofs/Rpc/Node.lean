import Sandwich.Proofs.Hex
import Sandwich.Rpc.Node

/-! What a node writes on the wire is what is read there. Numbers are read from their
digits in base sixteen and bytes from theirs, and a receipt from its members, with its
events in order; so the answer to each question is read back from the result that holds it. -/

namespace Sandwich.Rpc

/-! ### Numbers and bytes -/

theorem readNumeral_append (base bound n : ℕ) (cs ds : List Char) :
    readNumeral base bound n (cs ++ ds) =
      (readNumeral base bound n cs).bind fun m => readNumeral base bound m ds := by
  induction cs generalizing n with
  | nil => rfl
  | cons c cs ih =>
    simp only [List.cons_append, readNumeral, ih]
    split
    · rfl
    · split
      · rfl
      · split <;> rfl

theorem digitValue?_digitChar : ∀ d < 16,
    digitValue? (Nat.digitChar d) = some d ∧ Nat.digitChar d ≠ '_' := by decide

theorem readNumeral_digitChar {bound n d : ℕ} (hd : d < 16) (h : 16 * n + d < bound) :
    readNumeral 16 bound n [Nat.digitChar d] = some (16 * n + d) := by
  obtain ⟨hvalue, hdigit⟩ := digitValue?_digitChar d hd
  simp [readNumeral, hvalue, hdigit, hd, h]

theorem readNumeral_toDigits {bound n : ℕ} (h : n < bound) :
    readNumeral 16 bound 0 (Nat.toDigits 16 n) = some n := by
  induction n using Nat.strongRecOn with
  | ind n ih =>
    by_cases hn : n < 16
    · rw [Nat.toDigits_of_lt_base hn, readNumeral_digitChar hn (by omega), Nat.mul_zero,
        Nat.zero_add]
    · rw [Nat.toDigits_of_base_le (by decide) (Nat.le_of_not_lt hn), readNumeral_append,
        ih (n / 16) (by omega) (by omega), Option.bind_some,
        readNumeral_digitChar (by omega) (by omega), Nat.div_add_mod]

theorem quantity?_quantity {bits n : ℕ} (h : n < bitBound bits) :
    quantity? bits (quantity n) = some n := by
  have htext : ("0x" ++ Text.hexNumeral n).toList = '0' :: 'x' :: Nat.toDigits 16 n := by
    rw [String.toList_append, Text.hexNumeral]
    exact congrArg _ String.toList_ofList
  rw [quantity, quantity?, htext]
  exact readNumeral_toDigits h

theorem quantity?_toNat_bitVec {bits : ℕ} (x : BitVec bits) :
    (quantity? bits (quantity x.toNat)).map (BitVec.ofNat bits) = some x := by
  have hx : x.toNat < bitBound bits := x.isLt
  simp [quantity?_quantity hx]

theorem quantity?_toNat_uint64 (x : UInt64) :
    (quantity? 64 (quantity x.toNat)).map UInt64.ofNat = some x := by
  have hx : x.toNat < bitBound 64 := x.toNat_lt
  simp [quantity?_quantity hx]

theorem octets?_octets {n : ℕ} (a : Octets n) : octets? n (octets a) = some a := by
  rw [octets, octets?, Hex.decodeOctets_toHex]
  rfl

theorem bytes?_encode (bs : Bytes) : bytes? (.str (Hex.encode bs)) = some bs := by
  rw [bytes?, Hex.decode_encode]
  rfl

/-! ### Members -/

section

variable {object : Json} {name : String}

theorem required_quantity {bits n : ℕ} (h : object.member? name = some (quantity n))
    (hn : n < bitBound bits) : required (quantity? bits) name object = some n := by
  rw [required, h]
  exact quantity?_quantity hn

theorem required_octets {n : ℕ} {a : Octets n} (h : object.member? name = some (octets a)) :
    required (octets? n) name object = some a := by
  rw [required, h]
  exact octets?_octets a

end

theorem mapM_some {α : Type} (as : List α) : as.mapM some = some as := by
  induction as with
  | nil => rfl
  | cons a as ih => simp [ih]

theorem log?_logJson (log : Log) : log? (logJson log) = some log := by
  have haddress : required (octets? 20) "address" (logJson log) = some log.address :=
    required_octets rfl
  have htopics : required array? "topics" (logJson log) = some (log.topics.map octets) := rfl
  have hdata : required bytes? "data" (logJson log) = some log.data := bytes?_encode log.data
  have hread : octets? 32 ∘ octets = some := funext octets?_octets
  simp only [log?, haddress, htopics, hdata, List.mapM_map, hread, mapM_some, Option.bind_eq_bind,
    Option.bind_some]
  rfl

section

variable (receipt : Receipt)

theorem success?_receiptJson : success? (receiptJson receipt) = some receipt.success := by
  have hbit : (if receipt.success then 1 else 0) < bitBound 1 := by
    cases receipt.success <;> decide
  rw [success?, required_quantity rfl hbit]
  cases receipt.success <;> rfl

theorem pricePaid?_receiptJson : pricePaid? (receiptJson receipt) = some 0 := by
  have hnames : ["effectiveGasPrice", "gasPrice"].filter (Json.has · (receiptJson receipt)) =
      ["effectiveGasPrice"] := rfl
  rw [pricePaid?, hnames]
  exact required_quantity rfl (bitBound_pos 128)

theorem receipt?_receiptJson : receipt? (receiptJson receipt) = some receipt := by
  have hlt : receipt.gasUsed.toNat < bitBound 64 := receipt.gasUsed.toNat_lt
  have htype : required transactionType? "type" (receiptJson receipt) = some () := rfl
  have hcumulative : required (quantity? 64) "cumulativeGasUsed" (receiptJson receipt) =
      some receipt.gasUsed.toNat := required_quantity rfl hlt
  have hlogs : required array? "logs" (receiptJson receipt) =
      some (receipt.logs.map logJson) := rfl
  have hbloom : required (octets? 256) "logsBloom" (receiptJson receipt) =
      some (Octets.zero 256) := required_octets rfl
  have hhash : required (octets? 32) "transactionHash" (receiptJson receipt) =
      some receipt.hash := required_octets rfl
  have hgasUsed : required (quantity? 64) "gasUsed" (receiptJson receipt) =
      some receipt.gasUsed.toNat := required_quantity rfl hlt
  have hfrom : required (octets? 20) "from" (receiptJson receipt) =
      some (Octets.zero 20) := required_octets rfl
  have hread : log? ∘ logJson = some := funext log?_logJson
  simp only [receipt?, htype, success?_receiptJson, hcumulative, hlogs, List.mapM_map, hread,
    mapM_some, hbloom, hhash, hgasUsed, pricePaid?_receiptJson, hfrom, UInt64.ofNat_toNat,
    Option.bind_eq_bind, Option.bind_some]
  -- what is left are the members that may be missing, and are
  rfl

end

/-! ### Answers -/

/-- Whatever a node answers is what is read from the result in which it is written. -/
theorem answer?_result (q : Query) (answer : q.Answer) :
    answer? q (result q answer) = some answer := by
  cases q with
  | balance | gasPrice | maxPriorityFee => exact quantity?_toNat_bitVec _
  | transactionCount | chainId => exact quantity?_toNat_uint64 _
  | call => exact bytes?_encode _
  | sendRaw => exact octets?_octets _
  | awaitReceipt => exact receipt?_receiptJson _

end Sandwich.Rpc

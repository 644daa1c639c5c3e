import Sandwich.Proofs.Bytes
import Sandwich.Proofs.Text

/-! Hexadecimal text. The digits of bytes are read as these bytes, in either case of
each letter; and since no digit is the letter of the mark, nothing is taken away from
digits that stand alone. -/

namespace Sandwich.Hex

/-- A digit in either case is ASCII, no blank, and read as its value. -/
structure IsDigit (c : Char) (n : ℕ) : Prop where
  ascii : c.toNat < 128
  value : value? (UInt8.ofNat c.toNat) = some (UInt8.ofNat n)
  notBlank : Text.isBlank c = false

instance (c : Char) (n : ℕ) : Decidable (IsDigit c n) :=
  decidable_of_iff (c.toNat < 128 ∧ value? (UInt8.ofNat c.toNat) = some (UInt8.ofNat n) ∧
    Text.isBlank c = false) ⟨fun ⟨h, h', h''⟩ => ⟨h, h', h''⟩, fun ⟨h, h', h''⟩ => ⟨h, h', h''⟩⟩

theorem isDigit_digit : ∀ n < 16, IsDigit (digit n) n ∧ IsDigit (digit n).toUpper n := by
  decide

theorem isDigit_of_toLower {c : Char} {n : ℕ} (hn : n < 16) (h : c.toLower = digit n) :
    IsDigit c n := by
  obtain ⟨hlower, hupper⟩ := isDigit_digit n hn
  obtain rfl | rfl := Text.eq_or_eq_toUpper h
  · exact hlower
  · exact hupper

theorem digits_cons (b : UInt8) (bs : Bytes) :
    digits (b :: bs) = digit (b.toNat / 16) :: digit (b.toNat % 16) :: digits bs := rfl

theorem utf8_cons {c : Char} (h : c.toNat < 128) (text : List Char) :
    utf8 (c :: text) = UInt8.ofNat c.toNat :: utf8 text := by
  rw [utf8, List.flatMap_cons, Text.utf8EncodeChar_of_lt h]
  rfl

/-- The text of a byte string that is not empty: the two digits of its first byte, and the rest. -/
theorem exists_of_map_toLower {text : List Char} {b : UInt8} {bs : Bytes}
    (h : text.map Char.toLower = digits (b :: bs)) :
    ∃ hi lo rest, text = hi :: lo :: rest ∧ IsDigit hi (b.toNat / 16) ∧
      IsDigit lo (b.toNat % 16) ∧ rest.map Char.toLower = digits bs := by
  have hb : b.toNat < 256 := b.toNat_lt
  rw [digits_cons] at h
  obtain ⟨hi, text, rfl, hhi, h⟩ := List.map_eq_cons_iff.mp h
  obtain ⟨lo, rest, rfl, hlo, hrest⟩ := List.map_eq_cons_iff.mp h
  exact ⟨hi, lo, rest, rfl, isDigit_of_toLower (by omega) hhi, isDigit_of_toLower (by omega) hlo,
    hrest⟩

theorem sixteen_mul_add (b : UInt8) :
    16 * UInt8.ofNat (b.toNat / 16) + UInt8.ofNat (b.toNat % 16) = b := by
  have hb : b.toNat < 256 := b.toNat_lt
  apply UInt8.toNat_inj.mp
  simp only [UInt8.toNat_add, UInt8.toNat_mul, UInt8.toNat_ofNat', UInt8.reduceToNat]
  omega

variable {text : List Char} {bs : Bytes}

theorem ofDigits_utf8 (h : text.map Char.toLower = digits bs) (index : ℕ) :
    ofDigits index (utf8 text) = .ok bs := by
  induction bs generalizing text index with
  | nil =>
    obtain rfl : text = [] := List.map_eq_nil_iff.mp h
    rfl
  | cons b bs ih =>
    obtain ⟨hi, lo, rest, rfl, hhi, hlo, hrest⟩ := exists_of_map_toLower h
    rw [utf8_cons hhi.ascii, utf8_cons hlo.ascii, ofDigits, hhi.value, hlo.value]
    simp only [ih hrest, Except.map, sixteen_mul_add]

theorem length_utf8 (h : text.map Char.toLower = digits bs) :
    (utf8 text).length = 2 * bs.length := by
  induction bs generalizing text with
  | nil =>
    obtain rfl : text = [] := List.map_eq_nil_iff.mp h
    rfl
  | cons b bs ih =>
    obtain ⟨hi, lo, rest, rfl, hhi, hlo, hrest⟩ := exists_of_map_toLower h
    rw [utf8_cons hhi.ascii, utf8_cons hlo.ascii, List.length_cons, List.length_cons, ih hrest,
      List.length_cons]
    omega

theorem unmarked_of_value? {b c : UInt8} {v : UInt8} (h : value? c = some v) (rest : Bytes) :
    unmarked (b :: c :: rest) = b :: c :: rest := by
  rw [unmarked]
  -- neither letter of the mark is a digit
  all_goals
    rintro _ ⟨⟩
    cases h

/-- The first digits of bytes are no mark. -/
theorem unmarked_utf8 (h : text.map Char.toLower = digits bs) :
    unmarked (utf8 text) = utf8 text := by
  cases bs with
  | nil =>
    obtain rfl : text = [] := List.map_eq_nil_iff.mp h
    rfl
  | cons b bs =>
    obtain ⟨hi, lo, rest, rfl, hhi, hlo, -⟩ := exists_of_map_toLower h
    rw [utf8_cons hhi.ascii, utf8_cons hlo.ascii]
    exact unmarked_of_value? hlo.value _

/-- Digits are read as the bytes that they were written from, each letter in either case. -/
theorem decode_of_map_toLower (h : text.map Char.toLower = digits bs) :
    decode text = .ok bs := by
  simp only [decode, length_utf8 h, unmarked_utf8 h]
  rw [if_neg (by omega)]
  exact ofDigits_utf8 h 0

theorem isBlank_of_map_toLower (h : text.map Char.toLower = digits bs) :
    ∀ c ∈ text, Text.isBlank c = false := by
  induction bs generalizing text with
  | nil =>
    obtain rfl : text = [] := List.map_eq_nil_iff.mp h
    nofun
  | cons b bs ih =>
    obtain ⟨hi, lo, rest, rfl, hhi, hlo, hrest⟩ := exists_of_map_toLower h
    intro c hc
    obtain rfl | hc := List.mem_cons.mp hc
    · exact hhi.notBlank
    obtain rfl | hc := List.mem_cons.mp hc
    · exact hlo.notBlank
    · exact ih hrest c hc

/-! ### Digits with their mark -/

/-- The text of bytes, with its mark, in either case of each letter and with blanks around it. -/
def Spells (bs : Bytes) (text : List Char) : Prop :=
  ∃ before body after, text = before ++ body ++ after ∧ (∀ c ∈ before, Text.isBlank c = true) ∧
    (∀ c ∈ after, Text.isBlank c = true) ∧ body.map Char.toLower = (encode bs).toList

theorem toLower_digit : ∀ n < 16, (digit n).toLower = digit n := by decide

theorem map_toLower_digits (bs : Bytes) : (digits bs).map Char.toLower = digits bs := by
  induction bs with
  | nil => rfl
  | cons b bs ih =>
    have hb : b.toNat < 256 := b.toNat_lt
    rw [digits_cons, List.map_cons, List.map_cons, toLower_digit _ (by omega),
      toLower_digit _ (by omega), ih]

theorem toList_encode (bs : Bytes) : (encode bs).toList = '0' :: 'x' :: digits bs :=
  String.toList_ofList

theorem utf8_encode (bs : Bytes) :
    utf8 (encode bs).toList = 48 :: 120 :: utf8 (digits bs) := by
  rw [toList_encode, utf8_cons (by decide), utf8_cons (by decide)]
  rfl

theorem decode_encode (bs : Bytes) : decode (encode bs).toList = .ok bs := by
  have hlower := map_toLower_digits bs
  simp only [decode, utf8_encode, List.length_cons, length_utf8 hlower, unmarked]
  rw [if_neg (by omega)]
  exact ofDigits_utf8 hlower 0

theorem decodeOctets_toHex {n : ℕ} (a : Octets n) : decodeOctets n a.toHex.toList = .ok a := by
  have hlower := map_toLower_digits a.toBytes
  simp only [decodeOctets, Octets.toHex, utf8_encode, List.length_cons, length_utf8 hlower,
    unmarked, a.length_toBytes, ofDigits_utf8 hlower, Except.map, Octets.leading_toBytes]
  rw [if_neg (by omega), if_neg (by simp)]

theorem spells_line (bs : Bytes) : Spells bs (encode bs ++ "\n").toList := by
  refine ⟨[], (encode bs).toList, ['\n'], String.toList_append, nofun, ?_, ?_⟩
  · intro c hc
    rw [List.mem_singleton.mp hc]
    rfl
  · rw [toList_encode, List.map_cons, List.map_cons, map_toLower_digits]
    rfl

/-- What spells bytes is the mark in either case and digits, but for the blanks. -/
theorem Spells.exists_trim {bs : Bytes} {text : List Char} (h : Spells bs text) :
    ∃ x rest, Text.trim text = '0' :: x :: rest ∧ (x = 'x' ∨ x = 'X') ∧
      rest.map Char.toLower = digits bs := by
  obtain ⟨before, body, after, rfl, hbefore, hafter, hbody⟩ := h
  rw [toList_encode] at hbody
  obtain ⟨zero, body, rfl, hzero, hbody⟩ := List.map_eq_cons_iff.mp hbody
  obtain ⟨x, rest, rfl, hx, hrest⟩ := List.map_eq_cons_iff.mp hbody
  obtain rfl : zero = '0' := (Text.eq_or_eq_toUpper hzero).elim id id
  have hmark : x = 'x' ∨ x = 'X' := Text.eq_or_eq_toUpper hx
  refine ⟨x, rest, Text.trim_append hbefore ?_ hafter, hmark, hrest⟩
  intro c hc
  obtain rfl | hc := List.mem_cons.mp hc
  · decide
  obtain rfl | hc := List.mem_cons.mp hc
  · obtain rfl | rfl := hmark <;> decide
  · exact isBlank_of_map_toLower hrest c hc

end Sandwich.Hex

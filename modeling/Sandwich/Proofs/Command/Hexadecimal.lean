import Sandwich.Command.Input
import Sandwich.Proofs.Except
import Sandwich.Proofs.Hex

/-! Hexadecimal text on the command line. What is read is the digits of bytes behind no
more than two marks, since one mark is taken away by the command and one more by the
reader of digits. Anything else is refused, for its length or for the first byte that is
no digit. -/

namespace Sandwich

namespace Hex

variable {text : List Char} {bytes : Bytes}

/-! ### Bytes in place of characters -/

/-- A byte below 128 at the start of a text is its first character. -/
theorem exists_of_utf8_eq_cons {b : UInt8} {rest : Bytes} (hb : b.toNat < 128)
    (h : utf8 text = b :: rest) :
    ∃ text', text = Char.ofNat b.toNat :: text' ∧ utf8 text' = rest := by
  have hlead : Text.leadByte b = some (0, 0x80, 0xbf) := by
    have hlead := Text.leadByte_one hb
    rwa [UInt8.ofNat_toNat] at hlead
  have hscan := Text.scan_utf8 text
  rw [h] at hscan
  have hfirst := hscan.symm.trans (Text.scan_append [] hlead rfl rfl)
  obtain ⟨c, text', rfl, hc, -⟩ := List.map_eq_cons_iff.mp hfirst
  obtain rfl : c = Char.ofNat b.toNat := Option.some.inj hc
  have hascii : ∀ n < 128, (Char.ofNat n).toNat < 128 := by decide
  rw [utf8_cons (hascii _ hb)] at h
  exact ⟨text', rfl, (List.cons.inj h).2⟩

/-- Nothing but a digit, in either case, has a value. -/
theorem toLower_of_value? {b v : UInt8} (h : value? b = some v) :
    v.toNat < 16 ∧ b.toNat < 128 ∧ (Char.ofNat b.toNat).toLower = digit v.toNat := by
  have hall : ∀ n < 256, ∀ v ∈ value? (UInt8.ofNat n),
      v.toNat < 16 ∧ n < 128 ∧ (Char.ofNat n).toLower = digit v.toNat := by decide +kernel
  refine hall b.toNat b.toNat_lt v ?_
  rw [UInt8.ofNat_toNat]
  exact h

theorem digits_sixteen_mul_add {hi lo : UInt8} (hhi : hi.toNat < 16) (hlo : lo.toNat < 16)
    (bs : Bytes) :
    digits ((16 * hi + lo) :: bs) = digit hi.toNat :: digit lo.toNat :: digits bs := by
  have hbyte : (16 * hi + lo).toNat = 16 * hi.toNat + lo.toNat := by
    simp only [UInt8.toNat_add, UInt8.toNat_mul, UInt8.reduceToNat]
    omega
  have hdiv : (16 * hi.toNat + lo.toNat) / 16 = hi.toNat := by omega
  have hmod : (16 * hi.toNat + lo.toNat) % 16 = lo.toNat := by omega
  rw [digits_cons, hbyte, hdiv, hmod]

theorem ofDigits_cons_eq_ok {index : ℕ} {b c : UInt8} {rest : Bytes}
    (h : ofDigits index (b :: c :: rest) = .ok bytes) :
    ∃ hi lo bs, value? b = some hi ∧ value? c = some lo ∧ ofDigits (index + 2) rest = .ok bs ∧
      bytes = (16 * hi + lo) :: bs := by
  rw [ofDigits] at h
  split at h
  next => cases h
  next => cases h
  next hi lo hhi hlo =>
    cases hrest : ofDigits (index + 2) rest with
    | error e =>
      rw [hrest] at h
      cases h
    | ok bs =>
      rw [hrest] at h
      cases h
      exact ⟨hi, lo, bs, hhi, hlo, rfl, rfl⟩

theorem eq_nil_of_utf8_eq_nil (h : utf8 text = []) : text = [] := by
  have hscan := Text.scan_utf8 text
  rw [h, Text.scan] at hscan
  exact List.map_eq_nil_iff.mp hscan.symm

theorem map_toLower_of_ofDigits {text : List Char} {bytes : Bytes} {index : ℕ} :
    ∀ {input : Bytes}, utf8 text = input → ofDigits index input = .ok bytes →
      text.map Char.toLower = digits bytes
  | [], htext, h => by
    cases h
    rw [eq_nil_of_utf8_eq_nil htext]
    rfl
  | [b], _, h => by
    rw [ofDigits] at h
    split at h <;> cases h
  | b :: c :: rest, htext, h => by
    obtain ⟨hi, lo, bs, hhi, hlo, hrest, rfl⟩ := ofDigits_cons_eq_ok h
    obtain ⟨hhi, hb, hhiLower⟩ := toLower_of_value? hhi
    obtain ⟨hlo, hc, hloLower⟩ := toLower_of_value? hlo
    obtain ⟨_, rfl, htail⟩ := exists_of_utf8_eq_cons hb htext
    obtain ⟨_, rfl, hend⟩ := exists_of_utf8_eq_cons hc htail
    rw [List.map_cons, List.map_cons, hhiLower, hloLower, map_toLower_of_ofDigits hend hrest,
      digits_sixteen_mul_add hhi hlo]

theorem ofDigits_utf8_eq_ok_iff {index : ℕ} :
    ofDigits index (utf8 text) = .ok bytes ↔ text.map Char.toLower = digits bytes :=
  ⟨map_toLower_of_ofDigits rfl, fun h => ofDigits_utf8 h index⟩

/-- Of an even number of bytes, the first one that is no digit is found, if there is one. -/
theorem ofDigits_eq_ok_or_error : ∀ (index : ℕ) {input : Bytes}, input.length % 2 = 0 →
    (∃ bs, ofDigits index input = .ok bs) ∨
      ∃ before b after, input = before ++ b :: after ∧ (∀ d ∈ before, (value? d).isSome = true) ∧
        value? b = none ∧ ofDigits index input = .error (.invalidDigit b (index + before.length))
  | _, [], _ => .inl ⟨[], rfl⟩
  | _, [_], h => by cases h
  | index, b :: c :: rest, h => by
    cases hb : value? b with
    | none =>
      refine .inr ⟨[], b, c :: rest, rfl, nofun, hb, ?_⟩
      simp only [ofDigits, hb]
      rfl
    | some hi =>
      cases hc : value? c with
      | none =>
        refine .inr ⟨[b], c, rest, rfl, by simp [hb], hc, ?_⟩
        simp only [ofDigits, hb, hc]
        rfl
      | some lo =>
        have heven : rest.length % 2 = 0 := by
          rw [List.length_cons, List.length_cons] at h
          omega
        obtain ⟨bs, hrest⟩ | ⟨before, d, after, rfl, hbefore, hd, hrest⟩ :=
          ofDigits_eq_ok_or_error (index + 2) heven
        · refine .inl ⟨(16 * hi + lo) :: bs, ?_⟩
          simp only [ofDigits, hb, hc, hrest, Except.map]
        · refine .inr ⟨b :: c :: before, d, after, rfl, by simpa [hb, hc] using hbefore, hd, ?_⟩
          have hindex : index + 2 + before.length = index + (b :: c :: before).length := by
            rw [List.length_cons, List.length_cons]
            omega
          simp only [ofDigits, hb, hc, hrest, Except.map, hindex]

/-! ### Marks -/

/-- The text is the digits of the bytes, in either case of each letter, behind `n` marks. -/
inductive Denotes (bytes : Bytes) : (n : ℕ) → (text : List Char) → Prop
  | digits {text : List Char} (h : text.map Char.toLower = Hex.digits bytes) : Denotes bytes 0 text
  | mark {n : ℕ} {x : Char} {text : List Char} (hx : x = 'x' ∨ x = 'X')
      (h : Denotes bytes n text) : Denotes bytes (n + 1) ('0' :: x :: text)

end Hex

namespace Command

open Hex (Denotes)

variable {text : List Char} {bytes : Bytes} {n : ℕ}

theorem unmarked_eq_or (text : List Char) :
    unmarked text = text ∨ ∃ x, (x = 'x' ∨ x = 'X') ∧ text = '0' :: x :: unmarked text := by
  rw [unmarked.eq_def]
  split
  · exact .inr ⟨'x', .inl rfl, rfl⟩
  · exact .inr ⟨'X', .inr rfl, rfl⟩
  · exact .inl rfl

theorem unmarked_mark {x : Char} (hx : x = 'x' ∨ x = 'X') (text : List Char) :
    unmarked ('0' :: x :: text) = text := by
  obtain rfl | rfl := hx <;> rfl

/-- A mark is seen in the bytes just where it stands in the text. -/
theorem unmarked_utf8 (text : List Char) :
    Hex.unmarked (Hex.utf8 text) = Hex.utf8 (unmarked text) := by
  obtain h | ⟨x, hx, h⟩ := unmarked_eq_or text
  · rw [h, Hex.unmarked]
    all_goals
      intro rest hutf8
      obtain ⟨_, rfl, htail⟩ := Hex.exists_of_utf8_eq_cons (by decide) hutf8
      obtain ⟨rest, rfl, -⟩ := Hex.exists_of_utf8_eq_cons (by decide) htail
      have hlength : rest.length = rest.length + 2 := congrArg List.length h
      omega
  · rw [h, Hex.utf8_cons (by decide)]
    obtain rfl | rfl := hx <;> rw [Hex.utf8_cons (by decide)] <;> rfl

theorem length_utf8_unmarked (text : List Char) :
    (Hex.utf8 (unmarked text)).length % 2 = (Hex.utf8 text).length % 2 := by
  obtain h | ⟨x, hx, h⟩ := unmarked_eq_or text
  · rw [h]
  · have hascii : x.toNat < 128 := by obtain rfl | rfl := hx <;> decide
    have htext : Hex.utf8 text = _ := congrArg Hex.utf8 h
    rw [htext, Hex.utf8_cons (by decide), Hex.utf8_cons hascii, List.length_cons, List.length_cons]
    omega

theorem unmarked_of_map_toLower (h : text.map Char.toLower = Hex.digits bytes) :
    unmarked text = text := by
  refine (unmarked_eq_or text).resolve_right ?_
  rintro ⟨x, hx, htext⟩
  cases bytes with
  | nil =>
    rw [List.map_eq_nil_iff.mp h] at htext
    cases htext
  | cons b bs =>
    obtain ⟨hi, lo, rest, rfl, -, hlo, -⟩ := Hex.exists_of_map_toLower h
    obtain rfl : lo = x := (List.cons.inj (List.cons.inj htext).2).1
    have hvalue := hlo.value
    obtain rfl | rfl := hx <;> cases hvalue

theorem denotes_unmarked (h : Denotes bytes n text) : Denotes bytes (n - 1) (unmarked text) := by
  cases h with
  | digits h => exact .digits ((unmarked_of_map_toLower h).symm ▸ h)
  | mark hx h => exact (unmarked_mark hx _).symm ▸ h

theorem denotes_of_unmarked (h : Denotes bytes n (unmarked text)) :
    ∃ m ≤ n + 1, Denotes bytes m text := by
  obtain htext | ⟨x, hx, htext⟩ := unmarked_eq_or text
  · exact ⟨n, Nat.le_succ n, htext ▸ h⟩
  · exact ⟨n + 1, le_rfl, htext ▸ .mark hx h⟩

theorem denotes_unmarked_unmarked_iff :
    Denotes bytes 0 (unmarked (unmarked text)) ↔ ∃ n ≤ 2, Denotes bytes n text := by
  constructor
  · intro h
    obtain ⟨m, hm, h⟩ := denotes_of_unmarked h
    obtain ⟨n, hn, h⟩ := denotes_of_unmarked h
    exact ⟨n, by omega, h⟩
  · rintro ⟨n, hn, h⟩
    have hzero : n - 1 - 1 = 0 := by omega
    exact hzero ▸ denotes_unmarked (denotes_unmarked h)

/-! ### Reading the text -/

/-- The digits are read behind both marks, after their number was taken behind the first. -/
theorem decodeHex_eq (text : List Char) :
    let rest := unmarked (Text.trim text)
    decodeHex text =
      if (Hex.utf8 rest).length % 2 = 1 then .error (.input (.oddHex (Hex.utf8 rest).length))
      else (Hex.ofDigits 0 (Hex.utf8 (unmarked rest))).mapError .hex := by
  intro rest
  refine ite_congr rfl (fun _ => rfl) fun heven => ?_
  rw [Hex.decode, if_neg heven, unmarked_utf8]

theorem decodeHex_eq_ok_iff :
    decodeHex text = .ok bytes ↔ ∃ n ≤ 2, Denotes bytes n (Text.trim text) := by
  rw [← denotes_unmarked_unmarked_iff, decodeHex_eq]
  constructor
  · intro h
    split at h
    next => cases h
    next => exact .digits (Hex.ofDigits_utf8_eq_ok_iff.mp (Except.mapError_eq_ok_iff.mp h))
  · rintro ⟨h⟩
    have heven := length_utf8_unmarked (unmarked (Text.trim text))
    rw [Hex.length_utf8 h] at heven
    rw [if_neg (by omega), Hex.ofDigits_utf8 h]
    rfl

/-- The digits of bytes behind no more than two marks are read as these bytes. Of any other text
the length is refused if it is odd, and else the first byte that is no digit. -/
theorem decodeHex_read (text : List Char) :
    let body := Text.trim text
    let length := (Hex.utf8 (unmarked body)).length
    (∀ bytes, decodeHex text = .ok bytes ↔ ∃ n ≤ 2, Denotes bytes n body) ∧
    (length % 2 = 1 → decodeHex text = .error (.input (.oddHex length))) ∧
    (length % 2 = 0 → (¬∃ bytes, ∃ n ≤ 2, Denotes bytes n body) →
      ∃ before byte after, Hex.utf8 (unmarked (unmarked body)) = before ++ byte :: after ∧
        (∀ b ∈ before, (Hex.value? b).isSome = true) ∧ Hex.value? byte = none ∧
        decodeHex text = .error (.hex (.invalidDigit byte before.length))) := by
  intro body length
  refine ⟨fun _ => decodeHex_eq_ok_iff, ?_, ?_⟩
  · intro hodd
    rw [decodeHex_eq, if_pos hodd]
  · intro heven hnone
    have hnotOdd : ¬length % 2 = 1 := by omega
    have hread : decodeHex text =
        (Hex.ofDigits 0 (Hex.utf8 (unmarked (unmarked body)))).mapError .hex := by
      rw [decodeHex_eq, if_neg hnotOdd]
    obtain ⟨bytes, hok⟩ | ⟨before, byte, after, hsplit, hbefore, hbyte, herror⟩ :=
      Hex.ofDigits_eq_ok_or_error 0 ((length_utf8_unmarked (unmarked body)).trans heven)
    · rw [hok] at hread
      exact absurd ⟨bytes, decodeHex_eq_ok_iff.mp hread⟩ hnone
    · rw [herror, Nat.zero_add] at hread
      exact ⟨before, byte, after, hsplit, hbefore, hbyte, hread⟩

/-- Two marks are taken away where only one belongs to the digits. -/
theorem decodeHex_of_two_marks :
    decodeHex "0x0x2a".toList = .ok [0x2a] ∧
      ¬∃ bytes, ∃ n ≤ 1, Denotes bytes n (Text.trim "0x0x2a".toList) := by
  refine ⟨rfl, ?_⟩
  rintro ⟨bytes, n, hn, h⟩
  have hrest := denotes_unmarked h
  rw [Nat.sub_eq_zero_of_le hn] at hrest
  obtain ⟨hdigits⟩ := hrest
  exact absurd (unmarked_of_map_toLower hdigits) (by decide)

end Command

end Sandwich

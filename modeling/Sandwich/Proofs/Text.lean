import Mathlib.Tactic.NormNum
import Sandwich.Hex
import Sandwich.Text.Blank
import Sandwich.Text.Utf8

/-! Text in its several forms: with blanks around it, in either case of its letters,
and as bytes in UTF-8. Blanks at the ends are all that trimming takes away, and the
bytes of a text are read as that text and no other. -/

namespace Sandwich.Text

/-! ### Blanks -/

theorem trimStart_append {before rest : List Char} (hbefore : ∀ c ∈ before, isBlank c = true)
    (hrest : ∀ c ∈ rest.head?, isBlank c = false) : trimStart (before ++ rest) = rest := by
  rw [trimStart, List.dropWhile_append_of_pos hbefore]
  cases rest with
  | nil => rfl
  | cons c rest =>
    rw [List.dropWhile_cons_of_neg]
    simpa using hrest c rfl

theorem trimEnd_append {text after : List Char} (htext : ∀ c ∈ text, isBlank c = false)
    (hafter : ∀ c ∈ after, isBlank c = true) : trimEnd (text ++ after) = text := by
  have hstart : trimStart (after.reverse ++ text.reverse) = text.reverse := by
    refine trimStart_append (by simpa using hafter) fun c hc => htext c ?_
    exact List.mem_reverse.mp (List.mem_of_mem_head? hc)
  rw [trimStart] at hstart
  rw [trimEnd, List.reverse_append, hstart, List.reverse_reverse]

theorem trim_append {before text after : List Char} (hbefore : ∀ c ∈ before, isBlank c = true)
    (htext : ∀ c ∈ text, isBlank c = false) (hafter : ∀ c ∈ after, isBlank c = true) :
    trim (before ++ text ++ after) = text := by
  cases text with
  | nil =>
    have hblank : ∀ c ∈ before ++ after, isBlank c = true := by
      intro c hc
      exact (List.mem_append.mp hc).elim (hbefore c) (hafter c)
    have hstart : trimStart (before ++ after ++ []) = [] := trimStart_append hblank nofun
    rw [List.append_nil] at hstart
    rw [trim, List.append_nil, hstart]
    rfl
  | cons c text =>
    have hfirst : ∀ d ∈ (c :: text ++ after).head?, isBlank d = false := by
      rintro d ⟨⟩
      exact htext c List.mem_cons_self
    rw [trim, List.append_assoc, trimStart_append hbefore hfirst, trimEnd_append htext hafter]

/-! ### The case of letters -/

theorem toUpper_toLower_of_capital {c : Char} (hlow : 65 ≤ c.toNat) (hhigh : c.toNat ≤ 90) :
    c.toLower.toUpper = c := by
  have hall : ∀ n < 26, (Char.ofNat (n + 65)).toLower.toUpper = Char.ofNat (n + 65) := by decide
  have hc := hall (c.toNat - 65) (by omega)
  rwa [Nat.sub_add_cancel hlow, Char.ofNat_toNat] at hc

/-- A character is written in lower case or as the capital. -/
theorem eq_or_eq_toUpper {c d : Char} (h : c.toLower = d) : c = d ∨ c = d.toUpper := by
  by_cases hcapital : 65 ≤ c.toNat ∧ c.toNat ≤ 90
  · rw [← h, toUpper_toLower_of_capital hcapital.1 hcapital.2]
    exact .inr rfl
  · have hlower : c.toLower = c := dif_neg hcapital
    exact .inl (hlower.symm.trans h)

/-! ### Bytes of a text -/

/-- A first byte and as many bytes as it asks for are one character. -/
theorem scan_append {b low high : UInt8} {extra : ℕ} (more : Bytes) {rest : Bytes}
    (hlead : leadByte b = some (extra, low, high))
    (hmore : continuation extra low high (more ++ rest) = more) (hlength : more.length = extra) :
    scan (b :: more ++ rest) =
      some (Char.ofNat (more.foldl (fun n b => 64 * n + b.toNat % 64) (leadBits extra b))) ::
        scan rest := by
  rw [List.cons_append, scan, hlead]
  simp only [hmore, hlength, if_true, List.cons.injEq, true_and]
  rw [← hlength, List.drop_left]

theorem leadByte_one {n : ℕ} (h : n < 128) :
    leadByte (UInt8.ofNat n) = some (0, 0x80, 0xbf) := by
  have hall : ∀ n < 128, leadByte (UInt8.ofNat n) = some (0, 0x80, 0xbf) := by decide
  exact hall n h

theorem leadByte_two {n : ℕ} (hlow : 2 ≤ n) (hhigh : n < 32) :
    leadByte (UInt8.ofNat (n + 192)) = some (1, 0x80, 0xbf) := by
  have hall : ∀ n < 32, 2 ≤ n → leadByte (UInt8.ofNat (n + 192)) = some (1, 0x80, 0xbf) := by
    decide
  exact hall n hhigh hlow

/-- Of three bytes, the first one narrows the second where a shorter form or a surrogate would
begin. -/
theorem leadByte_three {n : ℕ} (h : n < 16) :
    leadByte (UInt8.ofNat (n + 224)) =
      some (2, if n = 0 then 0xa0 else 0x80, if n = 13 then 0x9f else 0xbf) := by
  have hall : ∀ n < 16, leadByte (UInt8.ofNat (n + 224)) =
      some (2, if n = 0 then 0xa0 else 0x80, if n = 13 then 0x9f else 0xbf) := by decide
  exact hall n h

/-- Of four bytes, the first one narrows the second where a shorter form would begin and where the
characters end. -/
theorem leadByte_four {n : ℕ} (h : n < 5) :
    leadByte (UInt8.ofNat (n + 240)) =
      some (3, if n = 0 then 0x90 else 0x80, if n = 4 then 0x8f else 0xbf) := by
  have hall : ∀ n < 5, leadByte (UInt8.ofNat (n + 240)) =
      some (3, if n = 0 then 0x90 else 0x80, if n = 4 then 0x8f else 0xbf) := by decide
  exact hall n h

theorem toNat_tail (n : ℕ) : (UInt8.ofNat (n % 64 + 128)).toNat = n % 64 + 128 :=
  UInt8.toNat_ofNat_of_lt' (show n % 64 + 128 < 256 by omega)

theorem continuation_tail {low high : UInt8} {n : ℕ} (hlow : low.toNat ≤ n % 64 + 128)
    (hhigh : n % 64 + 128 ≤ high.toNat) (extra : ℕ) (bs : Bytes) :
    continuation (extra + 1) low high (UInt8.ofNat (n % 64 + 128) :: bs) =
      UInt8.ofNat (n % 64 + 128) :: continuation extra 0x80 0xbf bs := by
  rw [continuation, if_pos]
  simp only [Bool.and_eq_true, decide_eq_true_eq, UInt8.le_iff_toNat_le, toNat_tail]
  exact ⟨hlow, hhigh⟩

/-- The bytes of a character are read as this character. -/
theorem scan_utf8EncodeChar (c : Char) (rest : Bytes) :
    scan (String.utf8EncodeChar c ++ rest) = some c :: scan rest := by
  have hvalid : c.val.toNat < 0xd800 ∨ 0xdfff < c.val.toNat ∧ c.val.toNat < 0x110000 := c.valid
  have hc : Char.ofNat c.val.toNat = c := Char.ofNat_toNat c
  have hlow : (0x80 : UInt8).toNat = 128 := rfl
  have hhigh : (0xbf : UInt8).toNat = 191 := rfl
  rw [String.utf8EncodeChar.eq_1]
  generalize c.val.toNat = v at hvalid hc
  split_ifs with hone htwo hthree
  · refine (scan_append [] (leadByte_one (by omega)) rfl rfl).trans ?_
    rw [List.foldl_nil, leadBits, UInt8.toNat_ofNat_of_lt' (show v < 256 by omega), hc]
  · refine (scan_append [_] (leadByte_two (by omega) (by omega)) ?_ rfl).trans ?_
    · rw [List.singleton_append, continuation_tail (by omega) (by omega), continuation]
    · have hvalue : 64 * ((v / 64 % 32 + 192) % 32) + (v % 64 + 128) % 64 = v := by omega
      simp only [List.foldl_cons, List.foldl_nil, leadBits, toNat_tail,
        UInt8.toNat_ofNat_of_lt' (show v / 64 % 32 + 192 < 256 by omega), hvalue, hc]
  · refine (scan_append [_, _] (leadByte_three (by omega)) ?_ rfl).trans ?_
    · rw [List.cons_append, List.singleton_append, continuation_tail, continuation_tail (by omega)
        (by omega), continuation]
      · split <;> simp only [UInt8.reduceToNat] <;> omega
      · split <;> simp only [UInt8.reduceToNat] <;> omega
    · have hvalue : 64 * (64 * ((v / 4096 % 16 + 224) % 16) + (v / 64 % 64 + 128) % 64) +
          (v % 64 + 128) % 64 = v := by omega
      simp only [List.foldl_cons, List.foldl_nil, leadBits, toNat_tail,
        UInt8.toNat_ofNat_of_lt' (show v / 4096 % 16 + 224 < 256 by omega), hvalue, hc]
  · refine (scan_append [_, _, _] (leadByte_four (by omega)) ?_ rfl).trans ?_
    · rw [List.cons_append, List.cons_append, List.singleton_append, continuation_tail,
        continuation_tail (by omega) (by omega), continuation_tail (by omega) (by omega),
        continuation]
      · split <;> simp only [UInt8.reduceToNat] <;> omega
      · split <;> simp only [UInt8.reduceToNat] <;> omega
    · have hvalue : 64 * (64 * (64 * ((v / 262144 % 8 + 240) % 8) + (v / 4096 % 64 + 128) % 64) +
          (v / 64 % 64 + 128) % 64) + (v % 64 + 128) % 64 = v := by omega
      simp only [List.foldl_cons, List.foldl_nil, leadBits, toNat_tail,
        UInt8.toNat_ofNat_of_lt' (show v / 262144 % 8 + 240 < 256 by omega), hvalue, hc]

theorem scan_utf8 (text : List Char) : scan (Hex.utf8 text) = text.map some := by
  induction text with
  | nil => rw [Hex.utf8, List.flatMap_nil, scan, List.map_nil]
  | cons c text ih =>
    rw [Hex.utf8, List.flatMap_cons, scan_utf8EncodeChar, List.map_cons]
    exact congrArg _ ih

/-- The bytes of a text are read as this text. -/
theorem decodeUtf8?_utf8 (text : List Char) : decodeUtf8? (Hex.utf8 text) = some text := by
  rw [decodeUtf8?, scan_utf8]
  induction text with
  | nil => rfl
  | cons c text ih =>
    rw [List.map_cons, List.mapM_cons, ih]
    rfl

theorem utf8EncodeChar_of_lt {c : Char} (h : c.toNat < 128) :
    String.utf8EncodeChar c = [UInt8.ofNat c.toNat] := by
  rw [String.utf8EncodeChar.eq_1, if_pos]
  · rfl
  · exact Nat.le_of_lt_succ h

end Sandwich.Text

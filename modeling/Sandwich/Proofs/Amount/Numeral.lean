import Mathlib.Algebra.Order.Floor.Semifield
import Mathlib.Data.List.TakeWhile
import Mathlib.Data.Rat.Floor
import Mathlib.Tactic.Ring
import Sandwich.Amount
import Sandwich.Proofs.Except

/-! Decimal numerals and the amounts that they come to. Digits are read group by group,
and an amount that is too large is found out in one of the groups or at the end. With a
unit of `10 ^ e` wei, the digits after the point count as far as the unit reaches, and
what is left of the numeral is its value in wei, rounded down. -/

namespace Sandwich.Amount

abbrev decimal (digits : List Char) : ℕ := Nat.ofDigitChars 10 digits 0

theorem decimal_append (xs ys : List Char) :
    decimal (xs ++ ys) = 10 ^ ys.length * decimal xs + decimal ys := by
  rw [decimal, Nat.ofDigitChars_append, Nat.ofDigitChars_eq_ofDigitChars_zero]

theorem decimal_lt {digits : List Char} (h : ∀ c ∈ digits, c.isDigit = true) :
    decimal digits < 10 ^ digits.length := by
  induction digits with
  | nil => exact Nat.one_pos
  | cons c digits ih =>
    have hc : c.toNat ≤ '9'.toNat := (Char.isDigit_iff_toNat.mp (h c (by simp))).2
    have hdigit : c.toNat - '0'.toNat ≤ 9 := Nat.sub_le_sub_right hc _
    have hrest : decimal digits < 10 ^ digits.length := ih fun d hd => h d (by simp [hd])
    have hfirst : decimal [c] = c.toNat - '0'.toNat := Nat.zero_add _
    calc decimal (c :: digits) = 10 ^ digits.length * decimal [c] + decimal digits :=
          decimal_append [c] digits
      _ < 10 ^ digits.length * decimal [c] + 10 ^ digits.length := Nat.add_lt_add_left hrest _
      _ = 10 ^ digits.length * (decimal [c] + 1) := by ring
      _ ≤ 10 ^ digits.length * 10 := Nat.mul_le_mul_left _ (by omega)
      _ = 10 ^ (c :: digits).length := (pow_succ _ _).symm

theorem le_ofDigitChars (digits : List Char) (n : ℕ) : n ≤ Nat.ofDigitChars 10 digits n := by
  rw [Nat.ofDigitChars_eq_ofDigitChars_zero]
  exact (Nat.le_mul_of_pos_left n (Nat.pow_pos (by decide))).trans (Nat.le_add_right _ _)

theorem notMem_of_isDigit {c : Char} (hc : c.isDigit = false) {digits : List Char}
    (h : ∀ d ∈ digits, d.isDigit = true) : c ∉ digits := by
  intro hmem
  rw [h c hmem] at hc
  cases hc

/-! ### Reading digits -/

/-- The amount of `n` wei, if it takes no more than 256 bits. -/
def ofWei (n : ℕ) : Except AmountFault UInt256 :=
  if n < 2 ^ 256 then .ok (BitVec.ofNat 256 n) else .error .tooLarge

/-- A digit is followed by the reading of the others, unless a group ends with a number that is too
large. -/
theorem readDigits_cons {c : Char} (hc : c.isDigit = true) (digits : List Char) (n room : ℕ) :
    (∃ room', readDigits n room (c :: digits) =
        readDigits (10 * n + (c.toNat - '0'.toNat)) room' digits) ∨
      readDigits n room (c :: digits) = .error .tooLarge ∧
        2 ^ 256 ≤ 10 * n + (c.toNat - '0'.toNat) := by
  simp only [readDigits, if_pos hc]
  split
  · exact .inl ⟨_, rfl⟩
  split
  · exact .inl ⟨_, rfl⟩
  · next hlarge => exact .inr ⟨rfl, Nat.le_of_not_lt hlarge⟩

/-- Wherever the groups end, digits are read as the number that they denote. -/
theorem readDigits_of_isDigit {digits : List Char} (h : ∀ c ∈ digits, c.isDigit = true)
    (n room : ℕ) :
    readDigits n room digits =
      if Nat.ofDigitChars 10 digits n < 2 ^ 256 then .ok (Nat.ofDigitChars 10 digits n)
      else .error .tooLarge := by
  induction digits generalizing n room with
  | nil => rfl
  | cons c digits ih =>
    have hrest : ∀ d ∈ digits, d.isDigit = true := fun d hd => h d (by simp [hd])
    rw [Nat.ofDigitChars_cons]
    obtain ⟨room', hnext⟩ | ⟨herror, hlarge⟩ := readDigits_cons (h c (by simp)) digits n room
    · rw [hnext, ih hrest]
    · have hle := le_ofDigitChars digits (10 * n + (c.toNat - '0'.toNat))
      rw [herror, if_neg (Nat.not_lt.mpr (hlarge.trans hle))]

theorem isDigit_of_readDigits {digits : List Char} {n room m : ℕ}
    (h : readDigits n room digits = .ok m) : ∀ c ∈ digits, c.isDigit = true := by
  induction digits generalizing n room with
  | nil => nofun
  | cons c digits ih =>
    by_cases hc : c.isDigit = true
    · obtain ⟨room', hnext⟩ | ⟨herror, -⟩ := readDigits_cons hc digits n room
      · simpa [hc] using ih (hnext.symm.trans h)
      · cases herror.symm.trans h
    · rw [readDigits, if_neg hc] at h
      cases h

/-! ### Scaling by the unit -/

theorem readDigits_bind {digits : List Char} (h : ∀ c ∈ digits, c.isDigit = true) (zeros : ℕ) :
    (readDigits 0 groupLength digits >>= fun n => ofWei (n * 10 ^ zeros)) =
      ofWei (decimal digits * 10 ^ zeros) := by
  rw [readDigits_of_isDigit h]
  split
  · rfl
  · next hlarge =>
    have hle : decimal digits ≤ decimal digits * 10 ^ zeros :=
      Nat.le_mul_of_pos_right _ (Nat.pow_pos (by decide))
    exact (if_neg fun hlt => hlarge (hle.trans_lt hlt)).symm

theorem scale_whole {whole : List Char} (h : '.' ∉ whole) (e : ℕ) :
    scale whole e = readDigits 0 groupLength whole >>= fun n => ofWei (n * 10 ^ e) := by
  have hwhole : ∀ c ∈ whole, decide (c ≠ '.') = true := by
    rintro c hc
    exact decide_eq_true (ne_of_mem_of_not_mem hc h)
  have htake : whole.takeWhile (· ≠ '.') = whole := List.takeWhile_eq_self_iff.mpr hwhole
  have hdrop : whole.dropWhile (· ≠ '.') = [] := List.dropWhile_eq_nil_iff.mpr hwhole
  simp only [scale, htake, hdrop, List.drop_nil, List.take_nil, List.append_nil, List.length_nil]
  rfl

/-- The first point is the one that counts. -/
theorem scale_point {whole : List Char} (h : '.' ∉ whole) (places : List Char) (e : ℕ) :
    scale (whole ++ '.' :: places) e =
      readDigits 0 groupLength (whole ++ places.take e) >>= fun n =>
        ofWei (n * 10 ^ (e - places.length)) := by
  have hwhole : ∀ c ∈ whole, decide (c ≠ '.') = true := by
    rintro c hc
    exact decide_eq_true (ne_of_mem_of_not_mem hc h)
  have htake : (whole ++ '.' :: places).takeWhile (· ≠ '.') = whole := by
    rw [List.takeWhile_append_of_pos hwhole]
    simp
  have hdrop : (whole ++ '.' :: places).dropWhile (· ≠ '.') = '.' :: places := by
    rw [List.dropWhile_append_of_pos hwhole]
    simp
  simp only [scale, htake, hdrop, List.drop_one, List.tail_cons]
  rfl

/-! ### Numerals -/

/-- A decimal numeral: digits, and perhaps a point with more digits, of which there is at least
one. -/
structure Numeral where
  whole : List Char
  /-- What is behind the point, if there is one. -/
  fraction : Option (List Char)
  isDigit : ∀ c ∈ whole ++ fraction.getD [], c.isDigit = true
  ne_nil : whole ++ fraction.getD [] ≠ []

namespace Numeral

def places (n : Numeral) : List Char := n.fraction.getD []

def text (n : Numeral) : List Char :=
  match n.fraction with
  | none => n.whole
  | some places => n.whole ++ '.' :: places

def value (n : Numeral) : ℚ := decimal n.whole + decimal n.places / 10 ^ n.places.length

theorem value_eq_div (n : Numeral) :
    n.value = (decimal (n.whole ++ n.places) : ℕ) / (10 ^ n.places.length : ℕ) := by
  rw [value, decimal_append]
  push_cast
  field_simp

theorem isDigit_counted (n : Numeral) (e : ℕ) :
    ∀ c ∈ n.whole ++ n.places.take e, c.isDigit = true := by
  intro c hc
  refine n.isDigit c ?_
  obtain hc | hc := List.mem_append.mp hc
  · exact List.mem_append_left _ hc
  · exact List.mem_append_right _ (List.mem_of_mem_take hc)

/-- Moving the point by `e` digits and leaving out what is behind it. -/
theorem floor_value_mul_pow (n : Numeral) (e : ℕ) :
    ⌊n.value * 10 ^ e⌋₊ =
      decimal (n.whole ++ n.places.take e) * 10 ^ (e - n.places.length) := by
  have hscaled : n.value * 10 ^ e =
      (decimal (n.whole ++ n.places) * 10 ^ e : ℕ) / (10 ^ n.places.length : ℕ) := by
    rw [value_eq_div]
    push_cast
    ring
  rw [hscaled, Nat.floor_div_eq_div]
  obtain hle | hlt := le_or_gt n.places.length e
  · obtain ⟨zeros, rfl⟩ := Nat.exists_eq_add_of_le hle
    rw [List.take_of_length_le hle, Nat.add_sub_cancel_left, pow_add, ← Nat.mul_assoc,
      Nat.mul_right_comm, Nat.mul_div_cancel _ (Nat.pow_pos (by decide))]
  · -- The digits that do not count make up less than one unit of the last one that does.
    have hcut : decimal (n.places.drop e) < 10 ^ (n.places.drop e).length := by
      refine decimal_lt fun c hc => n.isDigit c ?_
      exact List.mem_append_right _ (List.mem_of_mem_drop hc)
    have hsplit : decimal (n.whole ++ n.places) = 10 ^ (n.places.drop e).length *
        decimal (n.whole ++ n.places.take e) + decimal (n.places.drop e) := by
      rw [← decimal_append, List.append_assoc, List.take_append_drop]
    have hlength : n.places.length = (n.places.drop e).length + e := by
      rw [List.length_drop]
      omega
    rw [Nat.sub_eq_zero_of_le hlt.le, pow_zero, Nat.mul_one, hlength, pow_add,
      Nat.mul_div_mul_right _ _ (Nat.pow_pos (by decide)), hsplit,
      Nat.mul_add_div (Nat.pow_pos (by decide)), Nat.div_eq_of_lt hcut, Nat.add_zero]

/-- In units of `10 ^ e` wei the numeral comes to its value in wei, rounded down. -/
theorem scale_text (n : Numeral) (e : ℕ) : scale n.text e = ofWei ⌊n.value * 10 ^ e⌋₊ := by
  have hwhole : '.' ∉ n.whole := notMem_of_isDigit (by decide) fun c hc =>
    n.isDigit c (List.mem_append_left _ hc)
  have hcounted := n.isDigit_counted e
  rw [floor_value_mul_pow, ← readDigits_bind hcounted]
  cases h : n.fraction with
  | none =>
    have hplaces : n.places = [] := by rw [places, h, Option.getD_none]
    rw [text, h, scale_whole hwhole, hplaces, List.take_nil, List.append_nil]
    rfl
  | some digits =>
    have hplaces : n.places = digits := by rw [places, h, Option.getD_some]
    rw [text, h, scale_point hwhole, hplaces]

end Numeral

end Sandwich.Amount

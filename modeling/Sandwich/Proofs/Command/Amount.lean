import Sandwich.Command.Run
import Sandwich.Proofs.Amount.Unit

/-! Amounts on the command line. A numeral and its unit are read as the exact amount,
rounded down to whole wei, or refused if it is too large. Of what is no numeral and unit,
some is read all the same: an underscore begins a number of zeros, points count for
nothing behind the places that count, and no digits at all are zero. -/

namespace Sandwich

namespace Amount

variable {text numeral unit : List Char} {e : ℕ}

/-- A text is taken apart where the numeral ends. -/
theorem parse_eq (htrim : Text.trim text = numeral ++ unit)
    (hnumeral : ∀ c ∈ numeral, inNumeral c = true)
    (hunit : ∀ c ∈ unit.head?, inNumeral c = false) :
    parse text = Except.mapError (.malformed (String.ofList (numeral ++ unit)))
      (match exponent? (if unit.isEmpty then ['w', 'e', 'i'] else unit) with
        | none => .error (.unknownUnit (String.ofList unit))
        | some e => scale numeral e) := by
  have htake : (Text.trim text).takeWhile inNumeral = numeral := by
    rw [htrim, List.takeWhile_append_of_pos hnumeral]
    cases unit with
    | nil => simp
    | cons c unit => simp [hunit c rfl]
  have hdrop : (Text.trim text).dropWhile inNumeral = unit := by
    rw [htrim, List.dropWhile_append_of_pos hnumeral]
    cases unit with
    | nil => simp
    | cons c unit => simp [hunit c rfl]
  rw [← htrim]
  subst htake hdrop
  rfl

theorem head_of_unit (h : Names unit e ∨ Zeros unit e) :
    ∀ c ∈ unit.head?, inNumeral c = false := by
  intro c hc
  obtain h | h := h
  · exact inNumeral_of_isAlpha (h.isAlpha c (List.mem_of_mem_head? hc))
  · obtain rfl : '_' = c := Option.some.inj (h.head.symm.trans hc)
    decide

theorem parse_of_unit (htrim : Text.trim text = numeral ++ unit)
    (hnumeral : ∀ c ∈ numeral, inNumeral c = true) (hunit : Names unit e ∨ Zeros unit e) :
    parse text =
      (scale numeral e).mapError (.malformed (String.ofList (numeral ++ unit))) := by
  have hhead := head_of_unit hunit
  rw [parse_eq htrim hnumeral hhead, (exponent?_eq_some_iff hhead).mpr hunit]

theorem inNumeral_iff {c : Char} : inNumeral c = true ↔ c.isDigit = true ∨ c = '.' := by
  rw [inNumeral, Bool.or_eq_true, decide_eq_true_eq]

theorem Numeral.inNumeral_text (n : Numeral) : ∀ c ∈ n.text, inNumeral c = true := by
  obtain ⟨whole, _ | places, hdigits, -⟩ := n
  · intro c hc
    exact inNumeral_iff.mpr (.inl (hdigits c (List.mem_append_left _ hc)))
  · intro c hc
    rw [inNumeral_iff]
    obtain hc | hc := List.mem_append.mp hc
    · exact .inl (hdigits c (List.mem_append_left _ hc))
    obtain rfl | hc := List.mem_cons.mp hc
    · exact .inr rfl
    · exact .inl (hdigits c (List.mem_append_right _ hc))

theorem Numeral.trim_append (n : Numeral) (hunit : Names unit e) {before after : List Char}
    (hbefore : ∀ c ∈ before, Text.isBlank c = true)
    (hafter : ∀ c ∈ after, Text.isBlank c = true) :
    Text.trim (before ++ (n.text ++ unit) ++ after) = n.text ++ unit := by
  refine Text.trim_append hbefore ?_ hafter
  intro c hc
  obtain hc | hc := List.mem_append.mp hc
  · exact isBlank_of_inNumeral (n.inNumeral_text c hc)
  · exact isBlank_of_isAlpha (hunit.isAlpha c hc)

/-- A numeral with the name of its unit comes to its value, rounded down to whole wei. -/
theorem parse_of_numeral (n : Numeral) (hunit : Names unit e)
    (htrim : Text.trim text = n.text ++ unit) :
    parse text = (ofWei ⌊n.value * 10 ^ e⌋₊).mapError
      (.malformed (String.ofList (n.text ++ unit))) := by
  rw [parse_of_unit htrim n.inNumeral_text (.inl hunit), n.scale_text]

theorem parseFee_of_ok {n : UInt256} (h : parse text = .ok n) :
    parseFee text = if n.toNat < 2 ^ 128 then .ok (BitVec.ofNat 128 n.toNat)
      else .error (.feeTooLarge (String.ofList text)) := by
  rw [parseFee, h]
  rfl

theorem parseFee_of_error {error : AmountError} (h : parse text = .error error) :
    parseFee text = .error error := by
  rw [parseFee, h]
  rfl

/-! ### All that is read -/

/-- How a text is read as a number of wei. Behind the places that count, digits and points are
passed over. -/
inductive Reads : (text : List Char) → (wei : ℕ) → Prop
  | whole {digits unit : List Char} {e : ℕ} (hdigits : ∀ c ∈ digits, c.isDigit = true)
      (hunit : Names unit e ∨ Zeros unit e) : Reads (digits ++ unit) (decimal digits * 10 ^ e)
  | point {whole places cut unit : List Char} {e : ℕ}
      (hdigits : ∀ c ∈ whole ++ places, c.isDigit = true)
      (hplaces : places.length = e ∨ places.length ≤ e ∧ cut = [])
      (hcut : ∀ c ∈ cut, inNumeral c = true) (hunit : Names unit e ∨ Zeros unit e) :
      Reads (whole ++ '.' :: (places ++ cut) ++ unit)
        (decimal (whole ++ places) * 10 ^ (e - places.length))

def WellFormed (text : List Char) : Prop :=
  ∃ (n : Numeral) (unit : List Char) (e : ℕ), text = n.text ++ unit ∧ Names unit e

theorem ofWei_eq_ok_iff {wei : ℕ} {n : UInt256} : ofWei wei = .ok n ↔ n.toNat = wei := by
  rw [ofWei]
  constructor
  · intro h
    split at h
    next hlt =>
      cases h
      rw [BitVec.toNat_ofNat, Nat.mod_eq_of_lt hlt]
    next => cases h
  · rintro rfl
    rw [if_pos n.isLt, BitVec.ofNat_toNat, BitVec.setWidth_eq]

/-- Where the numeral has a point, the digits behind it count as far as the unit reaches. -/
theorem reads_of_scale {n : UInt256} (hnumeral : ∀ c ∈ numeral, inNumeral c = true)
    (hunit : Names unit e ∨ Zeros unit e) (h : scale numeral e = .ok n) :
    Reads (numeral ++ unit) n.toNat := by
  by_cases hpoint : '.' ∈ numeral
  · obtain ⟨whole, rest, rfl, hwhole⟩ := List.eq_append_cons_of_mem hpoint
    rw [scale_point hwhole] at h
    obtain ⟨m, hread, -⟩ := Except.bind_eq_ok_iff.mp h
    have hdigits := isDigit_of_readDigits hread
    rw [readDigits_bind hdigits] at h
    have hlength : e - rest.length = e - (rest.take e).length := by
      rw [List.length_take]
      omega
    have hplaces : (rest.take e).length = e ∨ (rest.take e).length ≤ e ∧ rest.drop e = [] := by
      rw [List.length_take, List.drop_eq_nil_iff]
      omega
    have hcut : ∀ c ∈ rest.drop e, inNumeral c = true := by
      intro c hc
      exact hnumeral c (by simp [List.mem_of_mem_drop hc])
    have hreads := Reads.point hdigits hplaces hcut hunit
    rwa [List.take_append_drop, ← hlength, ← ofWei_eq_ok_iff.mp h] at hreads
  · have hdigits : ∀ c ∈ numeral, c.isDigit = true := by
      intro c hc
      exact (inNumeral_iff.mp (hnumeral c hc)).resolve_right (ne_of_mem_of_not_mem hc hpoint)
    rw [scale_whole hpoint, readDigits_bind hdigits] at h
    rw [ofWei_eq_ok_iff.mp h]
    exact .whole hdigits hunit

theorem Reads.exists_scale {wei : ℕ} (h : Reads text wei) :
    ∃ numeral unit e, text = numeral ++ unit ∧ (∀ c ∈ numeral, inNumeral c = true) ∧
      (Names unit e ∨ Zeros unit e) ∧ scale numeral e = ofWei wei := by
  cases h with
  | @whole digits unit e hdigits hunit =>
    have hpoint : '.' ∉ digits := notMem_of_isDigit (by decide) hdigits
    refine ⟨digits, unit, e, rfl, fun c hc => inNumeral_iff.mpr (.inl (hdigits c hc)), hunit, ?_⟩
    rw [scale_whole hpoint, readDigits_bind hdigits]
  | @point whole places cut unit e hdigits hplaces hcut hunit =>
    have hpoint : '.' ∉ whole := notMem_of_isDigit (by decide) fun c hc =>
      hdigits c (List.mem_append_left _ hc)
    have hcounted : (places ++ cut).take e = places := by
      obtain hfull | ⟨hle, rfl⟩ := hplaces
      · exact List.take_left' hfull
      · rw [List.append_nil, List.take_of_length_le hle]
    have hzeros : e - (places ++ cut).length = e - places.length := by
      rw [List.length_append]
      obtain hfull | ⟨-, rfl⟩ := hplaces
      · omega
      · rfl
    refine ⟨whole ++ '.' :: (places ++ cut), unit, e, rfl, ?_, hunit, ?_⟩
    · intro c hc
      simp only [List.mem_append, List.mem_cons] at hc hdigits
      obtain hc | rfl | hc | hc := hc
      · exact inNumeral_iff.mpr (.inl (hdigits c (.inl hc)))
      · decide
      · exact inNumeral_iff.mpr (.inl (hdigits c (.inr hc)))
      · exact hcut c hc
    · rw [scale_point hpoint, hcounted, hzeros, readDigits_bind hdigits]

/-- A text is read just as the relation says, and then as the amount that it says. -/
theorem parse_eq_ok_iff {n : UInt256} :
    parse text = .ok n ↔ Reads (Text.trim text) n.toNat := by
  constructor
  · intro h
    have htrim : Text.trim text =
        (Text.trim text).takeWhile inNumeral ++ (Text.trim text).dropWhile inNumeral :=
      List.takeWhile_append_dropWhile.symm
    have hnumeral : ∀ c ∈ (Text.trim text).takeWhile inNumeral, inNumeral c = true :=
      fun _ => List.mem_takeWhile_imp
    have hhead : ∀ c ∈ ((Text.trim text).dropWhile inNumeral).head?, inNumeral c = false := by
      intro c hc
      have hnot := List.head?_dropWhile_not inNumeral (Text.trim text)
      rwa [Option.mem_def.mp hc] at hnot
    rw [parse_eq htrim hnumeral hhead, Except.mapError_eq_ok_iff] at h
    rw [htrim]
    split at h
    next => cases h
    next e hexponent =>
      have hunit := (exponent?_eq_some_iff hhead).mp hexponent
      exact reads_of_scale hnumeral hunit h
  · intro h
    obtain ⟨numeral, unit, e, htrim, hnumeral, hunit, hscale⟩ := h.exists_scale
    rw [parse_of_unit htrim hnumeral hunit, hscale, ofWei_eq_ok_iff.mpr rfl]
    rfl

/-! ### What is well formed among it -/

theorem Names.notMem {c : Char} (hc : c.isAlpha = false) (h : Names unit e) : c ∉ unit := by
  intro hmem
  rw [h.isAlpha c hmem] at hc
  cases hc

theorem Numeral.underscore_notMem_text (n : Numeral) : '_' ∉ n.text := fun h =>
  absurd (n.inNumeral_text _ h) (by decide)

theorem Numeral.count_text_le (n : Numeral) : n.text.count '.' ≤ 1 := by
  obtain ⟨whole, _ | places, hdigits, -⟩ := n
  · have hpoint : '.' ∉ whole := notMem_of_isDigit (by decide) fun c hc =>
      hdigits c (List.mem_append_left _ hc)
    exact (List.count_eq_zero.mpr hpoint).trans_le (Nat.zero_le 1)
  · have hpoint : (whole ++ places).count '.' = 0 :=
      List.count_eq_zero.mpr (notMem_of_isDigit (by decide) hdigits)
    rw [List.count_append] at hpoint
    change (whole ++ '.' :: places).count '.' ≤ 1
    rw [List.count_append, List.count_cons_self]
    omega

theorem Numeral.exists_digit (n : Numeral) : ∃ c ∈ n.text, c.isDigit = true := by
  obtain ⟨c, hc⟩ := List.exists_mem_of_ne_nil _ n.ne_nil
  refine ⟨c, ?_, n.isDigit c hc⟩
  rw [Numeral.text]
  cases h : n.fraction with
  | none => simpa [h] using hc
  | some places =>
    obtain hc | hc := List.mem_append.mp (h ▸ hc)
    · exact List.mem_append_left _ hc
    · exact List.mem_append_right _ (List.mem_cons_of_mem _ hc)

/-- Underscores, a second point and the want of a digit tell what is read apart from what is well
formed. -/
theorem WellFormed.regular (h : WellFormed text) :
    '_' ∉ text ∧ text.count '.' ≤ 1 ∧ ∃ c ∈ text, c.isDigit = true := by
  obtain ⟨n, unit, e, rfl, hunit⟩ := h
  have hpoint : unit.count '.' = 0 := List.count_eq_zero.mpr (hunit.notMem (by decide))
  obtain ⟨c, hc, hdigit⟩ := n.exists_digit
  refine ⟨?_, ?_, c, List.mem_append_left _ hc, hdigit⟩
  · rw [List.mem_append, not_or]
    exact ⟨n.underscore_notMem_text, hunit.notMem (by decide)⟩
  · rw [List.count_append, hpoint]
    exact n.count_text_le

theorem Reads.wellFormed {wei : ℕ} (h : Reads text wei) (hunderscore : '_' ∉ text)
    (hpoints : text.count '.' ≤ 1) (hdigit : ∃ c ∈ text, c.isDigit = true) : WellFormed text := by
  have hnames {unit : List Char} {e : ℕ} (hunit : Names unit e ∨ Zeros unit e)
      (hsuffix : unit <:+ text) : Names unit e := by
    refine hunit.resolve_right fun hzeros => hunderscore (hsuffix.mem ?_)
    exact List.mem_of_mem_head? hzeros.head
  obtain ⟨c, hc, hdigit⟩ := hdigit
  cases h with
  | @whole digits unit e hdigits hunit =>
    have hunit := hnames hunit (List.suffix_append _ _)
    have hmem : c ∈ digits :=
      (List.mem_append.mp hc).resolve_right (hunit.notMem (isAlpha_of_isDigit hdigit))
    have hisDigit : ∀ d ∈ digits ++ none.getD [], d.isDigit = true := by simpa using hdigits
    exact ⟨⟨digits, none, hisDigit, by simp [List.ne_nil_of_mem hmem]⟩, unit, e, rfl, hunit⟩
  | @point whole places cut unit e hdigits hplaces hcut hunit =>
    have hunit := hnames hunit (List.suffix_append _ _)
    have hcutDigits : ∀ d ∈ cut, d.isDigit = true := by
      intro d hd
      refine (inNumeral_iff.mp (hcut d hd)).resolve_right ?_
      rintro rfl
      have hcount : 0 < cut.count '.' := List.count_pos_iff.mpr hd
      simp only [List.count_append, List.count_cons_self] at hpoints
      omega
    have hisDigit : ∀ d ∈ whole ++ (some (places ++ cut)).getD [], d.isDigit = true := by
      intro d hd
      simp only [Option.getD_some, List.mem_append] at hd hdigits
      obtain hd | hd | hd := hd
      · exact hdigits d (.inl hd)
      · exact hdigits d (.inr hd)
      · exact hcutDigits d hd
    have hmem : c ∈ whole ++ (places ++ cut) := by
      have hnot : c ∉ unit := hunit.notMem (isAlpha_of_isDigit hdigit)
      have hnumeral := (List.mem_append.mp hc).resolve_right hnot
      have hpoint : c ≠ '.' := by
        rintro rfl
        exact absurd hdigit (by decide)
      simpa [hpoint] using hnumeral
    exact ⟨⟨whole, some (places ++ cut), hisDigit, List.ne_nil_of_mem hmem⟩, unit, e, rfl, hunit⟩

/-- All that can be wrong with an amount, before it is taken for a fee, is its form. -/
theorem exists_parse_eq_mapError (text : List Char) :
    ∃ result : Except AmountFault UInt256,
      parse text = result.mapError (.malformed (String.ofList (Text.trim text))) :=
  ⟨_, rfl⟩

end Amount

namespace Command

open Amount

/-- An amount is read as exactly what it says, rounded down to whole wei, and refused if this
takes more than 256 bits, or as a fee more than 128. -/
theorem amount_of_numeral (n : Numeral) {unit : List Char} {e : ℕ} (hunit : Names unit e)
    {before after : List Char} (hbefore : ∀ c ∈ before, Text.isBlank c = true)
    (hafter : ∀ c ∈ after, Text.isBlank c = true) :
    let text := String.ofList (before ++ (n.text ++ unit) ++ after)
    let wei := ⌊n.value * 10 ^ e⌋₊
    let tooLarge := AmountError.malformed (String.ofList (n.text ++ unit)) .tooLarge
    amount text = (if wei < 2 ^ 256 then .ok (BitVec.ofNat 256 wei)
      else .error (.input (.amount tooLarge))) ∧
    FeeOptions.amount (some text) = if wei < 2 ^ 128 then .ok (some (BitVec.ofNat 128 wei))
      else .error (.input (.amount (if wei < 2 ^ 256 then .feeTooLarge text else tooLarge))) := by
  intro text wei tooLarge
  have hparse : Amount.parse text.toList = (ofWei wei).mapError
      (.malformed (String.ofList (n.text ++ unit))) := by
    rw [String.toList_ofList]
    exact parse_of_numeral n hunit (n.trim_append hunit hbefore hafter)
  constructor
  · rw [amount, hparse, ofWei]
    split <;> rfl
  · rw [FeeOptions.amount]
    by_cases hwide : wei < 2 ^ 256
    · have hwei : (BitVec.ofNat 256 wei).toNat = wei := by
        rw [BitVec.toNat_ofNat, Nat.mod_eq_of_lt hwide]
      rw [ofWei, if_pos hwide] at hparse
      rw [parseFee_of_ok hparse, hwei, if_pos hwide, String.ofList_toList]
      split <;> rfl
    · have hnarrow : ¬wei < 2 ^ 128 := by omega
      rw [ofWei, if_neg hwide] at hparse
      rw [parseFee_of_error hparse, if_neg hwide, if_neg hnarrow]
      rfl

/-- Nineteen places of a fraction, of which nine make up a gwei. -/
theorem amount_of_numeral_gwei :
    Names "gWei".toList 9 ∧ (∀ c ∈ ['\n'], Text.isBlank c = true) ∧
      (∀ c ∈ [' '], Text.isBlank c = true) ∧ amount "\n.0000000019gWei " = .ok 1 ∧
      FeeOptions.amount (some "\n.0000000019gWei ") = .ok (some 1) := by
  let n : Numeral :=
    ⟨[], some "0000000019".toList, List.all_eq_true.mp (by decide), by decide⟩
  have hgwei : ("gwei", 9) ∈ units := by decide
  have hunit : Names "gWei".toList 9 := .unit hgwei (by decide)
  have hbefore : ∀ c ∈ ['\n'], Text.isBlank c = true := List.forall_mem_singleton.mpr rfl
  have hafter : ∀ c ∈ [' '], Text.isBlank c = true := List.forall_mem_singleton.mpr rfl
  have hwei : ⌊n.value * 10 ^ 9⌋₊ = 1 := by
    rw [n.floor_value_mul_pow]
    decide
  have hread := amount_of_numeral n hunit hbefore hafter
  simp only [hwei] at hread
  exact ⟨hunit, hbefore, hafter, hread.1, hread.2⟩

/-- Of the texts that are read, those are well formed that have no underscore, no more than one
point and at least one digit; and all that is not read is refused for its form. -/
theorem amount_read (text : String) :
    let body := Text.trim text.toList
    (∀ n, amount text = .ok n ↔ Reads body n.toNat) ∧
    (∀ n, amount text = .ok n → (WellFormed body ↔
      '_' ∉ body ∧ body.count '.' ≤ 1 ∧ ∃ c ∈ body, c.isDigit = true)) ∧
    ((¬∃ n : UInt256, Reads body n.toNat) ↔ ∃ fault,
      amount text = .error (.input (.amount (.malformed (String.ofList body) fault)))) := by
  intro body
  have hread (n : UInt256) : amount text = .ok n ↔ Reads body n.toNat :=
    Except.mapError_eq_ok_iff.trans parse_eq_ok_iff
  refine ⟨hread, ?_, ?_⟩
  · intro n h
    refine ⟨WellFormed.regular, ?_⟩
    rintro ⟨hunderscore, hpoints, hdigit⟩
    exact ((hread n).mp h).wellFormed hunderscore hpoints hdigit
  · obtain ⟨result, hresult⟩ := exists_parse_eq_mapError text.toList
    constructor
    · intro hnone
      cases result with
      | ok n => exact absurd ⟨n, parse_eq_ok_iff.mp hresult⟩ hnone
      | error fault => exact ⟨fault, by rw [amount, hresult]; rfl⟩
    · rintro ⟨fault, herror⟩ ⟨n, hn⟩
      cases herror.symm.trans ((hread n).mpr hn)

/-- Digits in groups, a second point and a unit on its own are read, although none of them is
well formed. -/
theorem amount_of_malformed :
    (amount "1_000" = .ok 1 ∧ ¬WellFormed (Text.trim "1_000".toList)) ∧
    (amount "1.2.3" = .ok 1 ∧ ¬WellFormed (Text.trim "1.2.3".toList)) ∧
    amount "ether" = .ok 0 ∧ ¬WellFormed (Text.trim "ether".toList) := by
  refine ⟨⟨rfl, fun h => ?_⟩, ⟨rfl, fun h => ?_⟩, rfl, fun h => ?_⟩
  · exact absurd h.regular.1 (by decide)
  · exact absurd h.regular.2.1 (by decide)
  · exact absurd (List.any_eq_true.mpr h.regular.2.2) (by decide)

end Command

end Sandwich

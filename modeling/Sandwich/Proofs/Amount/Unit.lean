import Sandwich.Proofs.Amount.Numeral
import Sandwich.Proofs.Text

/-! Units of amounts. A unit has a name, of which the letters can be of either case, or it
is a number of zeros that begins with an underscore, and nothing else is a unit. -/

namespace Sandwich.Amount

/-! ### Classes of characters -/

theorem isAlpha_iff {c : Char} :
    c.isAlpha = true ↔ 65 ≤ c.toNat ∧ c.toNat ≤ 90 ∨ 97 ≤ c.toNat ∧ c.toNat ≤ 122 :=
  Bool.or_eq_true_iff.trans (or_congr decide_eq_true_iff
    (Bool.and_eq_true_iff.trans (and_congr decide_eq_true_iff decide_eq_true_iff)))

theorem isAlpha_of_isLower_toLower {c : Char} (h : c.toLower.isLower = true) :
    c.isAlpha = true := by
  by_cases hcapital : 65 ≤ c.toNat ∧ c.toNat ≤ 90
  · exact isAlpha_iff.mpr (.inl hcapital)
  · have hlower : c.toLower = c := dif_neg hcapital
    rw [hlower] at h
    exact Bool.or_eq_true_iff.mpr (.inr h)

theorem isDigit_of_isAlpha {c : Char} (h : c.isAlpha = true) : c.isDigit = false := by
  have hletter := isAlpha_iff.mp h
  rw [Bool.eq_false_iff, Ne, Char.isDigit_iff_toNat]
  simp only [Char.reduceToNat]
  omega

theorem isAlpha_of_isDigit {c : Char} (h : c.isDigit = true) : c.isAlpha = false := by
  rw [Bool.eq_false_iff]
  intro halpha
  rw [isDigit_of_isAlpha halpha] at h
  cases h

theorem inNumeral_of_isAlpha {c : Char} (h : c.isAlpha = true) : inNumeral c = false := by
  have hpoint : c ≠ '.' := by
    rintro rfl
    exact absurd h (by decide)
  simp [inNumeral, isDigit_of_isAlpha h, hpoint]

theorem isBlank_of_isAlpha {c : Char} (h : c.isAlpha = true) : Text.isBlank c = false := by
  have hletter := isAlpha_iff.mp h
  simp [Text.isBlank]
  omega

theorem isBlank_of_inNumeral {c : Char} (h : inNumeral c = true) : Text.isBlank c = false := by
  rw [inNumeral, Bool.or_eq_true, decide_eq_true_eq] at h
  obtain h | rfl := h
  · have hdigit := Char.isDigit_iff_toNat.mp h
    simp only [Char.reduceToNat] at hdigit
    simp [Text.isBlank]
    omega
  · decide

/-! ### Names -/

theorem isLower_of_mem_units : ∀ u ∈ units, ∀ c ∈ u.1.toList, c.isLower = true := by
  have hall : ∀ u ∈ units, u.1.toList.all Char.isLower = true := by decide
  exact fun u hu => List.all_eq_true.mp (hall u hu)

theorem lookup_of_mem_units : ∀ u ∈ units, units.lookup u.1 = some u.2 := by decide

theorem name_ne_nil : ∀ u ∈ units, u.1.toList ≠ [] := by decide

/-- The text names the unit of `10 ^ e` wei; if there is none, it is one wei. -/
inductive Names : (unit : List Char) → (e : ℕ) → Prop
  | wei : Names [] 0
  | unit {name : String} {e : ℕ} {unit : List Char} (hmem : (name, e) ∈ units)
      (hname : unit.map Char.toLower = name.toList) : Names unit e

theorem Names.isAlpha {unit : List Char} {e : ℕ} (h : Names unit e) :
    ∀ c ∈ unit, c.isAlpha = true := by
  cases h with
  | wei => nofun
  | @unit name e unit hmem hname =>
    intro c hc
    refine isAlpha_of_isLower_toLower (isLower_of_mem_units _ hmem _ ?_)
    exact hname ▸ List.mem_map_of_mem hc

theorem lookup_eq_some_iff {unit : List Char} (hunit : unit ≠ []) {e : ℕ} :
    units.lookup (String.ofList (unit.map Char.toLower)) = some e ↔ Names unit e := by
  constructor
  · intro h
    obtain ⟨before, after, heq, -⟩ := List.lookup_eq_some_iff.mp h
    have hmem : (String.ofList (unit.map Char.toLower), e) ∈ units :=
      heq ▸ List.mem_append_cons_self
    exact .unit hmem String.toList_ofList.symm
  · intro h
    cases h with
    | wei => exact absurd rfl hunit
    | @unit name e unit hmem hname =>
      rw [hname, String.ofList_toList]
      exact lookup_of_mem_units _ hmem

/-! ### Numbers of zeros -/

/-- The text is the number `e` in decimal, with underscores in it, the first one in front. -/
structure Zeros (unit : List Char) (e : ℕ) : Prop where
  head : unit.head? = some '_'
  chars : ∀ c ∈ unit, c = '_' ∨ c.isDigit = true
  number : e = decimal (unit.filter (· ≠ '_'))
  le_max : e ≤ maxExponent

theorem readExponent_eq_some_iff {unit : List Char} {n e : ℕ} :
    readExponent n unit = some e ↔
      (∀ c ∈ unit, c = '_' ∨ c.isDigit = true) ∧
        e = Nat.ofDigitChars 10 (unit.filter (· ≠ '_')) n := by
  induction unit generalizing n with
  | nil => simpa [readExponent] using eq_comm
  | cons c unit ih =>
    rw [readExponent]
    split
    next hc => simp [ih, hc]
    next hc =>
      split
      next hdigit => simp [ih, hc, hdigit, Nat.ofDigitChars_cons]
      next hdigit => simp [hc, hdigit]

theorem Names.eq_zero {e : ℕ} (h : Names [] e) : e = 0 := by
  cases h with
  | wei => rfl
  | unit hmem hname => exact absurd hname.symm (name_ne_nil _ hmem)

theorem Zeros.readExponent {unit : List Char} {e : ℕ} (h : Zeros unit e) :
    readExponent 0 unit = some e := readExponent_eq_some_iff.mpr ⟨h.chars, h.number⟩

/-- What is read of a text that is neither empty nor goes on with the numeral. -/
theorem exponent?_cons_eq_some_iff {c : Char} {unit : List Char} (hc : inNumeral c = false)
    {e : ℕ} : exponent? (c :: unit) = some e ↔ Names (c :: unit) e ∨ Zeros (c :: unit) e := by
  rw [exponent?]
  cases hread : Amount.readExponent 0 (c :: unit) with
  | none =>
    have hzeros : ¬Zeros (c :: unit) e := by
      intro h
      cases hread.symm.trans h.readExponent
    simp only [hzeros, or_false]
    exact lookup_eq_some_iff (List.cons_ne_nil c unit)
  | some n =>
    obtain ⟨hchars, hnumber⟩ := readExponent_eq_some_iff.mp hread
    have hhead : c = '_' := by
      refine (hchars c List.mem_cons_self).resolve_right fun hdigit => ?_
      rw [inNumeral, hdigit, Bool.true_or] at hc
      cases hc
    have hnames : ¬Names (c :: unit) e := by
      intro h
      have halpha := h.isAlpha c List.mem_cons_self
      rw [hhead] at halpha
      exact absurd halpha (by decide)
    simp only [hnames, false_or]
    constructor
    · intro h
      split at h
      next hle =>
        cases h
        exact ⟨congrArg some hhead, hchars, hnumber, hle⟩
      next => cases h
    · intro h
      obtain rfl : n = e := Option.some.inj (hread.symm.trans h.readExponent)
      exact if_pos h.le_max

/-- What follows a numeral is a unit just if it has a name or is a number of zeros. -/
theorem exponent?_eq_some_iff {unit : List Char} (hunit : ∀ c ∈ unit.head?, inNumeral c = false)
    {e : ℕ} :
    exponent? (if unit.isEmpty then ['w', 'e', 'i'] else unit) = some e ↔
      Names unit e ∨ Zeros unit e := by
  cases unit with
  | cons c unit => exact exponent?_cons_eq_some_iff (hunit c rfl)
  | nil =>
    have hwei : exponent? ['w', 'e', 'i'] = some 0 := by decide
    rw [List.isEmpty_nil, if_pos rfl, hwei]
    constructor
    · rintro ⟨⟩
      exact .inl .wei
    · rintro (h | h)
      · rw [h.eq_zero]
      · cases h.head

end Sandwich.Amount

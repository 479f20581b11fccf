/-
# Values of truncated decimals

What a truncated decimal says of its rational. Its text is one of a fixed
shape: a minus sign at most, digits of which none is superfluous, and the
required number of digits behind the point. Read as a literal, it is the
rational cut toward zero in the last of these places.

Main statement: this holds of every rational and of every number of decimals
that fits in 32 bits, so the value is off by less than one unit of the last
place, is never farther from zero than the rational, and equals it exactly if
no digit was dropped.
-/

import Mathlib.Algebra.Order.Round
import Mathlib.Data.Rat.Floor
import PostfixCalc.Proofs.DecimalUnits
import PostfixCalc.Proofs.LiteralForms

namespace PostfixCalc

namespace Decimal

/-- A rational without what is behind its point. -/
def towardZero (q : Rat) : Int :=
  if q < 0 then ⌈q⌉ else ⌊q⌋

/-- The units of the last decimal that a rational is cut to. -/
def cutUnits (r : Rat) (digits : Nat) : Int :=
  towardZero (r * 10 ^ digits)

/-- The sign that is written only where it is needed. -/
def Sign.ofNegative : Bool → Sign
  | true => minus
  | false => absent

/-- A decimal with a fixed number of digits behind the point, and without a
point if there are none. In front of the point there is at least one digit, and
a zero only if it is the only one. -/
structure FixedForm (places : Nat) where
  negative : Bool
  whole : Digits
  decimals : Digits
  nonempty : whole.chars ≠ []
  only_zero : ∀ rest, whole.chars = '0' :: rest → rest = []
  length_decimals : decimals.chars.length = places

namespace FixedForm

variable {places : Nat}

def sign (form : FixedForm places) : Sign :=
  .ofNegative form.negative

def text (form : FixedForm places) : String :=
  String.ofList (form.sign.chars ++ form.whole.chars ++
    if places = 0 then [] else '.' :: form.decimals.chars)

/-- What is written, counted in units of the last decimal. -/
def units (form : FixedForm places) : Int :=
  form.sign.apply (placeValue form.whole.chars * 10 ^ places + placeValue form.decimals.chars : Nat)

end FixedForm

/-! ## Cutting -/

theorem abs_towardZero (q : Rat) : |towardZero q| = ⌊|q|⌋ := by
  unfold towardZero
  split
  · next negative =>
      have below : ⌈q⌉ ≤ 0 := Int.ceil_le.mpr (by simpa using negative.le)
      rw [abs_of_nonpos below, abs_of_neg negative, Int.floor_neg]
  · next nonneg =>
      rw [abs_of_nonneg (Int.floor_nonneg.mpr (not_lt.mp nonneg)), abs_of_nonneg (not_lt.mp nonneg)]

theorem towardZero_intCast (z : Int) : towardZero z = z := by
  simp [towardZero]

theorem towardZero_eq_iff {q : Rat} : (towardZero q : Rat) = q ↔ ∃ z : Int, q = z := by
  constructor
  · exact fun same => ⟨towardZero q, same.symm⟩
  · rintro ⟨z, rfl⟩
    rw [towardZero_intCast]

/-- Division that drops the remainder cuts the quotient. -/
theorem tdiv_eq_towardZero (n : Int) (d : Nat) : n.tdiv d = towardZero ((n : Rat) / d) := by
  unfold towardZero
  rcases Int.lt_or_le n 0 with negative | nonneg
  · have quotient : (n : Rat) / d ≤ 0 :=
      div_nonpos_of_nonpos_of_nonneg (by exact_mod_cast negative.le) d.cast_nonneg
    have cut : n.tdiv d = ⌈(n : Rat) / d⌉ := by
      rw [Rat.ceil_intCast_div_natCast, ← Int.tdiv_eq_ediv_of_nonneg (by omega), Int.neg_tdiv,
        neg_neg]
    split
    · exact cut
    · next not_negative =>
        rw [cut, le_antisymm quotient (not_lt.mp not_negative), Int.ceil_zero, Int.floor_zero]
  · have quotient : 0 ≤ (n : Rat) / d := div_nonneg (by exact_mod_cast nonneg) d.cast_nonneg
    rw [if_neg (not_lt.mpr quotient), Rat.floor_intCast_div_natCast,
      Int.tdiv_eq_ediv_of_nonneg nonneg]

theorem truncatedUnits_eq_cutUnits {digits : Nat} (within : digits < 2 ^ 32) (r : Rat) :
    truncatedUnits r digits = cutUnits r digits := by
  have quotient : ((r.num * 10 ^ digits : Int) : Rat) / r.den = r * 10 ^ digits := by
    rw [Int.cast_mul, mul_div_right_comm, Rat.num_div_den, Int.cast_pow, Int.cast_ofNat]
  rw [truncatedUnits, unitsPerOne_eq_pow within, cutUnits, ← quotient, ← tdiv_eq_towardZero]
  norm_cast

section

variable (r : Rat) (digits : Nat)

theorem abs_cut :
    |(cutUnits r digits : Rat) / 10 ^ digits| * 10 ^ digits = ⌊|r| * 10 ^ digits⌋ := by
  have unit : (0 : Rat) < 10 ^ digits := by positivity
  rw [abs_div, abs_of_pos unit, div_mul_cancel₀ _ unit.ne', ← Int.cast_abs, cutUnits,
    abs_towardZero, abs_mul, abs_of_pos unit]

theorem abs_cut_le : |(cutUnits r digits : Rat) / 10 ^ digits| ≤ |r| := by
  have unit : (0 : Rat) < 10 ^ digits := by positivity
  rw [← mul_le_mul_iff_of_pos_right unit, abs_cut]
  exact Int.floor_le _

/-- What is dropped is less than a unit. -/
theorem abs_lt_abs_cut_add :
    |r| < |(cutUnits r digits : Rat) / 10 ^ digits| + 10 ^ (-digits : Int) := by
  have unit : (0 : Rat) < 10 ^ digits := by positivity
  rw [← mul_lt_mul_iff_of_pos_right unit, add_mul, abs_cut, zpow_neg, zpow_natCast,
    inv_mul_cancel₀ unit.ne']
  exact Int.lt_floor_add_one _

/-- Nothing is dropped from a whole number of units. -/
theorem cut_eq_iff :
    (cutUnits r digits : Rat) / 10 ^ digits = r ↔ ∃ z : Int, r * 10 ^ digits = z := by
  have unit : (10 : Rat) ^ digits ≠ 0 := by positivity
  rw [div_eq_iff unit, cutUnits, towardZero_eq_iff]

end

/-! ## Digits of a fixed number of places -/

theorem placeValue_append (front back : List Char) :
    placeValue (front ++ back) = placeValue front * 10 ^ back.length + placeValue back := by
  induction front with
  | nil => simp [placeValue]
  | cons c rest ih =>
      rw [List.cons_append, placeValue, placeValue, ih, List.length_append, pow_add]
      ring

theorem placeValue_replicate_zero (count : Nat) : placeValue (List.replicate count '0') = 0 := by
  induction count with
  | zero => rfl
  | succ count ih => rw [List.replicate_succ, placeValue, ih, Nat.sub_self, Nat.zero_mul]

/-- Digits stand for less than the unit in front of them. -/
theorem placeValue_lt {chars : List Char} (digits : ∀ c ∈ chars, c.isDigit = true) :
    placeValue chars < 10 ^ chars.length := by
  induction chars with
  | nil => decide
  | cons c rest ih =>
      have below := ih fun d member => digits d (List.mem_cons_of_mem _ member)
      have digit : c.toNat - '0'.toNat ≤ 9 := by
        have range := isDigit_iff_toNat.mp (digits c List.mem_cons_self)
        show c.toNat - 48 ≤ 9
        omega
      calc placeValue (c :: rest)
          = (c.toNat - '0'.toNat) * 10 ^ rest.length + placeValue rest := rfl
        _ < 9 * 10 ^ rest.length + 10 ^ rest.length :=
            Nat.add_lt_add_of_le_of_lt (Nat.mul_le_mul_right _ digit) below
        _ = 10 ^ (rest.length + 1) := by ring

theorem placeValue_natText (n : Nat) : placeValue (natText n).toList = n := by
  rw [← digitsValue_eq_placeValue, digitsValue_natText]

theorem length_natText_le_iff {n width : Nat} (positive : 0 < width) :
    (natText n).toList.length ≤ width ↔ n < 10 ^ width := by
  rw [natText_eq_repr, Nat.toList_repr, Nat.length_toDigits_le_iff (by decide) positive]

/-- The digits of a written number. -/
def Digits.ofNat (n : Nat) : Digits where
  chars := (natText n).toList
  isDigit_of_mem _ member := Decimal.isDigit_of_mem (isDigits_natText n) member

theorem Digits.chars_ofNat (n : Nat) : (ofNat n).chars = (natText n).toList := by
  rw [ofNat]

theorem Digits.ofNat_ne_nil (n : Nat) : (ofNat n).chars ≠ [] := by
  rw [chars_ofNat]
  exact (isDigits_iff.mp (isDigits_natText n)).1

theorem Digits.placeValue_ofNat (n : Nat) : placeValue (ofNat n).chars = n := by
  rw [chars_ofNat, placeValue_natText]

/-- A superfluous zero would be one digit more than the number takes. -/
theorem Digits.eq_nil_of_ofNat_eq_zero_cons {n : Nat} {rest : List Char}
    (written : (ofNat n).chars = '0' :: rest) : rest = [] := by
  by_contra more
  rw [chars_ofNat] at written
  have rest_digits : ∀ c ∈ rest, c.isDigit = true := fun c member =>
    Decimal.isDigit_of_mem (isDigits_natText n) (written ▸ List.mem_cons_of_mem _ member)
  have value : placeValue rest = n := by
    rw [← placeValue_natText n, written]
    simp [placeValue]
  have short := (length_natText_le_iff (List.length_pos_iff.mpr more)).mpr
    (value ▸ placeValue_lt rest_digits)
  rw [written, List.length_cons] at short
  omega

/-- The digits of a number behind a point, which are none if there is no place
for them. -/
def Digits.padded (width n : Nat) : Digits where
  chars := if width = 0 then [] else (paddedText width n).toList
  isDigit_of_mem c member := by
    split at member
    · cases member
    · rw [paddedText, String.toList_ofList] at member
      rcases List.mem_append.mp member with zero | digit
      · rw [List.eq_of_mem_replicate zero]
        rfl
      · exact Decimal.isDigit_of_mem (isDigits_natText n) digit

theorem Digits.chars_padded {width : Nat} (some_place : 0 < width) (n : Nat) :
    (padded width n).chars =
      List.replicate (width - (natText n).toList.length) '0' ++ (natText n).toList := by
  show (if width = 0 then [] else (paddedText width n).toList) = _
  rw [if_neg some_place.ne', paddedText, String.toList_ofList]
  rfl

section

variable {width n : Nat} (small : n < 10 ^ width)

include small

theorem Digits.length_padded : (padded width n).chars.length = width := by
  rcases Nat.eq_zero_or_pos width with rfl | some_place
  · rfl
  · have fits := (length_natText_le_iff some_place).mpr small
    rw [chars_padded some_place, List.length_append, List.length_replicate,
      Nat.sub_add_cancel fits]

theorem Digits.placeValue_padded : placeValue (padded width n).chars = n := by
  rcases Nat.eq_zero_or_pos width with rfl | some_place
  · exact (Nat.lt_one_iff.mp small).symm
  · rw [chars_padded some_place, placeValue_append, placeValue_replicate_zero, placeValue_natText,
      Nat.zero_mul, Nat.zero_add]

end

/-! ## Fixed forms -/

theorem Sign.apply_ofNegative (z : Int) : (ofNegative (decide (z < 0))).apply z.natAbs = z := by
  rcases Int.lt_or_le z 0 with negative | nonneg
  · rw [decide_eq_true negative]
    show -(z.natAbs : Int) = z
    omega
  · rw [decide_eq_false (Int.not_lt.mpr nonneg)]
    exact Int.natAbs_of_nonneg nonneg

theorem Sign.chars_ofNegative (z : Int) :
    (ofNegative (decide (z < 0))).chars = (if z < 0 then "-" else "").toList := by
  by_cases negative : z < 0 <;> simp [negative, ofNegative, chars]

namespace FixedForm

section

variable {places : Nat}

/-- The literal that a fixed form is. -/
def literal (form : FixedForm places) : DecimalForm where
  sign := form.sign
  whole := form.whole
  fraction := if places = 0 then none else some form.decimals
  exponent := none
  has_digit empty := form.nonempty (List.append_eq_nil_iff.mp empty).1

theorem text_literal (form : FixedForm places) : String.ofList form.literal.chars = form.text := by
  unfold text DecimalForm.chars literal
  split <;> simp

theorem decimals_literal (form : FixedForm places) :
    form.literal.decimals = form.decimals.chars := by
  unfold DecimalForm.decimals literal
  split
  · next no_places =>
      rw [List.eq_nil_of_length_eq_zero (form.length_decimals.trans no_places)]
      rfl
  · rfl

theorem scale_literal (form : FixedForm places) : form.literal.scale = -(places : Int) := by
  rw [DecimalForm.scale, decimals_literal, form.length_decimals]
  exact Int.zero_sub _

theorem value_literal (form : FixedForm places) :
    form.literal.value = (form.units : Rat) / 10 ^ places := by
  have mantissa : placeValue (form.whole.chars ++ form.literal.decimals) =
      placeValue form.whole.chars * 10 ^ places + placeValue form.decimals.chars := by
    rw [decimals_literal, placeValue_append, form.length_decimals]
  rw [DecimalForm.value, scale_literal, zpow_neg, zpow_natCast, ← div_eq_mul_inv, units,
    ← mantissa]
  rfl

/-- A fixed form is read as its units, if its decimals are counted in 32 bits. -/
theorem read_text (form : FixedForm places) (within : places < 2 ^ 32)
    (precision : Number.Settings Rat) :
    Number.read form.text precision = .ok ((form.units : Rat) / 10 ^ places) := by
  have bounded : form.literal.power.natAbs ≤ 4096 := Nat.zero_le _
  have counted : (RationalForm.decimal form.literal bounded).scale.natAbs < 2 ^ 32 := by
    rw [RationalForm.scale, scale_literal, Int.natAbs_neg, Int.natAbs_natCast]
    exact within
  have reads := Rational.readLiteral?_text counted
  rw [RationalForm.text, RationalForm.chars, form.text_literal, RationalForm.value,
    form.value_literal] at reads
  exact Number.read_eq_ok_iff.mpr reads

end

section

variable (places : Nat) (units : Int)

theorem decimals_lt_unit : units.natAbs % 10 ^ places < 10 ^ places :=
  Nat.mod_lt _ (Nat.pow_pos (by decide))

/-- The fixed form of a number of units. -/
def ofUnits : FixedForm places where
  negative := decide (units < 0)
  whole := .ofNat (units.natAbs / 10 ^ places)
  decimals := .padded places (units.natAbs % 10 ^ places)
  nonempty := Digits.ofNat_ne_nil _
  only_zero _ := Digits.eq_nil_of_ofNat_eq_zero_cons
  length_decimals := Digits.length_padded (decimals_lt_unit places units)

theorem placeValue_whole_ofUnits :
    placeValue (ofUnits places units).whole.chars = units.natAbs / 10 ^ places :=
  Digits.placeValue_ofNat _

theorem units_ofUnits : (ofUnits places units).units = units := by
  have decimals : placeValue (ofUnits places units).decimals.chars = units.natAbs % 10 ^ places :=
    Digits.placeValue_padded (decimals_lt_unit places units)
  rw [FixedForm.units, placeValue_whole_ofUnits, decimals, Nat.div_add_mod']
  exact Sign.apply_ofNegative units

end

/-- A number of units is written in fixed form. -/
theorem text_ofUnits {places : Nat} (within : places < 2 ^ 32) (units : Int) :
    (ofUnits places units).text = scaledText units places := by
  rw [← String.toList_inj, text, String.toList_ofList, scaledText, unitsPerOne_eq_pow within, sign,
    ofUnits, Sign.chars_ofNegative, Digits.chars_ofNat]
  by_cases no_place : places = 0
  · simp [no_place]
  · simp [no_place, Digits.padded]

end FixedForm

/-- A truncated decimal is in fixed form, and it is read as the rational cut
toward zero: a minus sign stands before it exactly if the cut rational is
negative, it is off by less than a unit of its last place, and by nothing
exactly if the rational is a whole number of these units. -/
theorem truncatedText_denotes_cut {digits : Nat} (within : digits < 2 ^ 32) (r : Rat) :
    (∃ form : FixedForm digits, form.text = truncatedText r digits ∧
      form.units = cutUnits r digits ∧ (form.negative = true ↔ cutUnits r digits < 0) ∧
      placeValue form.whole.chars = (cutUnits r digits).natAbs / 10 ^ digits) ∧
    ∃ value : Rat,
      (∀ precision : Number.Settings Rat,
        Number.read (truncatedText r digits) precision = .ok value) ∧
      value = cutUnits r digits / 10 ^ digits ∧
      |value| ≤ |r| ∧ |r| < |value| + 10 ^ (-digits : Int) ∧
      (value = r ↔ ∃ z : Int, r * 10 ^ digits = z) := by
  let form := FixedForm.ofUnits digits (cutUnits r digits)
  have shown : form.text = truncatedText r digits := by
    rw [FixedForm.text_ofUnits within, truncatedText, truncatedUnits_eq_cutUnits within]
  have units : form.units = cutUnits r digits := FixedForm.units_ofUnits _ _
  refine ⟨⟨form, shown, units, decide_eq_true_iff, FixedForm.placeValue_whole_ofUnits _ _⟩, _, ?_,
    rfl, abs_cut_le r digits, abs_lt_abs_cut_add r digits, cut_eq_iff r digits⟩
  intro precision
  rw [← shown, form.read_text within, units]

/-- A minus sign is dropped together with the last digit that is not zero. -/
theorem negative_fractions_cut :
    (3 < 2 ^ 32 ∧ truncatedText (-7 / 4) 3 = "-1.750" ∧
      Number.read "-1.750" = .ok (-7 / 4 : Rat)) ∧
    2 < 2 ^ 32 ∧ truncatedText (-1 / 200) 2 = "0.00" ∧ Number.read "0.00" = .ok (0 : Rat) := by
  have exact_text : truncatedText (-7 / 4) 3 = "-1.750" := by decide +kernel
  have small_text : truncatedText (-1 / 200) 2 = "0.00" := by decide +kernel
  obtain ⟨_, exact_value, exact_read, _, _, _, exact_iff⟩ :=
    @truncatedText_denotes_cut 3 (by decide) (-7 / 4)
  obtain ⟨_, small_value, small_read, small_eq, _⟩ :=
    @truncatedText_denotes_cut 2 (by decide) (-1 / 200)
  have no_units : cutUnits (-1 / 200) 2 = 0 := by norm_num [cutUnits, towardZero]
  refine ⟨⟨by decide, exact_text, ?_⟩, by decide, small_text, ?_⟩
  · rw [← exact_text, exact_read, exact_iff.mpr ⟨-1750, by norm_num⟩]
  · rw [← small_text, small_read, small_eq, no_units, Int.cast_zero, zero_div]

end Decimal

end PostfixCalc

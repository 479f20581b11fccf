/-
# Later decimals

More decimals are written behind those already shown. A rational cut after a
number of decimals is the one cut later without its last digits, because a
floor taken twice is the floor taken once; the same holds of square roots,
since a floor root commutes with division by a square. The digits of a number
without its last digits are the first digits of the number.

Main statement: for a rational that is not negative, and likewise for its
square root, the text with fewer decimals is the beginning of the text with
more of them, and nothing but these decimals comes behind it. It holds only
for numbers of decimals whose units the program can count.
-/

import Mathlib.Algebra.Order.Floor.Semifield
import PostfixCalc.Proofs.RationalRoot
import PostfixCalc.Proofs.TruncatedDecimal

namespace PostfixCalc

namespace Decimal

/-! ## Digits -/

/-- Digits of equal number and value are equal, since each stands for less than
the unit in front of it. -/
theorem eq_of_placeValue_eq {first second : List Char}
    (first_digits : ∀ c ∈ first, c.isDigit = true) (second_digits : ∀ c ∈ second, c.isDigit = true)
    (same_length : first.length = second.length)
    (same_value : placeValue first = placeValue second) : first = second := by
  induction first generalizing second with
  | nil => exact (List.eq_nil_of_length_eq_zero same_length.symm).symm
  | cons c rest ih =>
      obtain ⟨d, others, rfl⟩ := List.exists_cons_of_length_eq_add_one same_length.symm
      have rest_digits := fun e member => first_digits e (List.mem_cons_of_mem _ member)
      have other_digits := fun e member => second_digits e (List.mem_cons_of_mem _ member)
      have lengths : rest.length = others.length := Nat.succ_injective same_length
      have rest_below := placeValue_lt rest_digits
      have others_below := placeValue_lt other_digits
      rw [placeValue, placeValue, ← lengths] at same_value
      rw [← lengths] at others_below
      -- The rest is the remainder by the unit in front of it, the leading digit the quotient.
      have values : placeValue rest = placeValue others := by
        have lower := congrArg (· % 10 ^ rest.length) same_value
        simpa only [Nat.mul_add_mod', Nat.mod_eq_of_lt rest_below, Nat.mod_eq_of_lt others_below]
          using lower
      have leading : c.toNat - '0'.toNat = d.toNat - '0'.toNat := by
        rw [values, Nat.add_left_inj] at same_value
        exact Nat.eq_of_mul_eq_mul_right (Nat.pow_pos (by decide)) same_value
      have c_range := isDigit_iff_toNat.mp (first_digits c List.mem_cons_self)
      have d_range := isDigit_iff_toNat.mp (second_digits d List.mem_cons_self)
      have same_digit : c = d := by
        change c.toNat - 48 = d.toNat - 48 at leading
        exact Char.toNat_inj.mp (by omega)
      rw [same_digit, ih rest_digits other_digits lengths values]

theorem Digits.chars_padded_add {width more n rest : Nat} (small : n < 10 ^ width)
    (rest_small : rest < 10 ^ more) :
    (padded (width + more) (n * 10 ^ more + rest)).chars =
      (padded width n).chars ++ (padded more rest).chars := by
  have whole_small : n * 10 ^ more + rest < 10 ^ (width + more) :=
    calc n * 10 ^ more + rest
        < n * 10 ^ more + 10 ^ more := Nat.add_lt_add_left rest_small _
      _ = (n + 1) * 10 ^ more := by ring
      _ ≤ 10 ^ width * 10 ^ more := Nat.mul_le_mul_right _ small
      _ = 10 ^ (width + more) := (pow_add 10 width more).symm
  apply eq_of_placeValue_eq
  · exact (padded _ _).isDigit_of_mem
  · intro c member
    rcases List.mem_append.mp member with front | back
    · exact (padded _ _).isDigit_of_mem c front
    · exact (padded _ _).isDigit_of_mem c back
  · rw [length_padded whole_small, List.length_append, length_padded small,
      length_padded rest_small]
  · rw [placeValue_padded whole_small, placeValue_append, placeValue_padded small,
      placeValue_padded rest_small, length_padded rest_small]

/-! ## Units -/

theorem toList_scaledText {digits : Nat} (within : digits < 2 ^ 32) (units : Nat) :
    (scaledText (units : Int) digits).toList =
      (natText (units / 10 ^ digits)).toList ++
        if digits = 0 then [] else '.' :: (Digits.padded digits (units % 10 ^ digits)).chars := by
  have not_negative : ¬(units : Int) < 0 := Int.not_lt.mpr (Int.natCast_nonneg units)
  rw [scaledText, unitsPerOne_eq_pow within, Int.natAbs_natCast]
  by_cases no_place : digits = 0
  · simp [no_place, not_negative]
  · simp [no_place, not_negative, Digits.padded]

theorem length_scaledText {digits : Nat} (within : digits < 2 ^ 32) (units : Nat) :
    (scaledText (units : Int) digits).length =
      (natText (units / 10 ^ digits)).length + digits + if digits = 0 then 0 else 1 := by
  have small : units % 10 ^ digits < 10 ^ digits := Nat.mod_lt _ (Nat.pow_pos (by decide))
  rw [← String.length_toList, toList_scaledText within, List.length_append, String.length_toList]
  by_cases no_place : digits = 0
  · simp [no_place]
  · rw [if_neg no_place, if_neg no_place, List.length_cons, Digits.length_padded small]
    omega

/-- A text goes on for so many digits where an earlier one with the given number
of decimals ends. The point comes with the first decimal. -/
structure Continues (digits more : Nat) (earlier later : String) : Prop where
  begins : earlier.toList <+: later.toList
  length_eq : later.length = earlier.length + more + if digits = 0 ∧ 0 < more then 1 else 0

/-- The text of a number of units continues that of the number without its last
digits. -/
theorem scaledText_continues {digits more : Nat} (within : digits + more < 2 ^ 32) (units : Nat) :
    Continues digits more (scaledText ((units / 10 ^ more : Nat) : Int) digits)
      (scaledText (units : Int) (digits + more)) := by
  have whole : units / 10 ^ more / 10 ^ digits = units / 10 ^ (digits + more) := by
    rw [Nat.div_div_eq_div_mul, ← pow_add, Nat.add_comm]
  have decimals : units % 10 ^ (digits + more) =
      units / 10 ^ more % 10 ^ digits * 10 ^ more + units % 10 ^ more := by
    rw [Nat.add_comm, pow_add, Nat.mod_mul, Nat.add_comm, Nat.mul_comm]
  refine ⟨?_, ?_⟩
  · rw [toList_scaledText (by omega), toList_scaledText within, whole, List.prefix_append_right_inj]
    by_cases none : digits = 0
    · rw [if_pos none]
      exact List.nil_prefix
    · have unit_positive (count : Nat) : 0 < 10 ^ count := Nat.pow_pos (by decide)
      rw [if_neg none, if_neg (by omega), decimals,
        Digits.chars_padded_add (Nat.mod_lt _ (unit_positive _)) (Nat.mod_lt _ (unit_positive _)),
        List.prefix_cons_inj]
      exact List.prefix_append _ _
  · rw [length_scaledText within, length_scaledText (by omega), whole]
    grind

/-! ## Rationals -/

theorem truncatedUnits_of_nonneg {r : Rat} {digits : Nat} (within : digits < 2 ^ 32)
    (nonneg : 0 ≤ r) : truncatedUnits r digits = (⌊r * 10 ^ digits⌋₊ : Int) := by
  have shifted : 0 ≤ r * 10 ^ digits := by positivity
  rw [truncatedUnits_eq_cutUnits within, cutUnits, towardZero, if_neg (not_lt.mpr shifted),
    Int.natCast_floor_eq_floor shifted]

theorem floor_shift (r : Rat) (digits more : Nat) :
    ⌊r * 10 ^ (digits + more)⌋₊ / 10 ^ more = ⌊r * 10 ^ digits⌋₊ := by
  have unit : (10 : Rat) ^ more ≠ 0 := by positivity
  have quotient : r * 10 ^ (digits + more) / ((10 ^ more : Nat) : Rat) = r * 10 ^ digits := by
    rw [Nat.cast_pow, Nat.cast_ofNat, pow_add, ← mul_assoc, mul_div_cancel_right₀ _ unit]
  rw [← Nat.floor_div_natCast, quotient]

theorem truncatedText_ofScaled {digits : Nat} (within : digits < 2 ^ 32) (units : Int) :
    truncatedText (ofScaled units digits) digits = scaledText units digits := by
  have unit : (10 : Rat) ^ digits ≠ 0 := by positivity
  rw [truncatedText, truncatedUnits_eq_cutUnits within, ofScaled_eq_div within, cutUnits,
    div_mul_cancel₀ _ unit, towardZero_intCast]

end Decimal

namespace Approx

/-! ## Roots -/

/-- A floor root commutes with division by a square. -/
theorem sqrt_div_square {unit : Nat} (positive : 0 < unit) (n : Nat) :
    Nat.sqrt (n / (unit * unit)) = Nat.sqrt n / unit := by
  refine eq_of_forall_le_iff fun guess => ?_
  calc guess ≤ Nat.sqrt (n / (unit * unit))
      ↔ guess * guess * (unit * unit) ≤ n := by
        rw [Nat.le_sqrt, Nat.le_div_iff_mul_le (Nat.mul_pos positive positive)]
    _ ↔ guess * unit * (guess * unit) ≤ n := by rw [mul_mul_mul_comm]
    _ ↔ guess ≤ Nat.sqrt n / unit := by rw [← Nat.le_sqrt, Nat.le_div_iff_mul_le positive]

theorem rootUnits_shift {digits more : Nat} (within : digits + more < 2 ^ 31) (r : Rat) :
    rootUnits r (digits + more) / 10 ^ more = rootUnits r digits := by
  have unit_positive : 0 < 10 ^ more := Nat.pow_pos (by decide)
  have square_positive : 0 < 10 ^ more * 10 ^ more := Nat.mul_pos unit_positive unit_positive
  have finer : 10 ^ (2 * (digits + more)) = 10 ^ (2 * digits) * (10 ^ more * 10 ^ more) := by ring
  have radicand : scaledRadicand r (digits + more) / (10 ^ more * 10 ^ more) =
      scaledRadicand r digits := by
    rw [scaledRadicand, scaledRadicand, Decimal.unitsPerOne_eq_pow (by omega),
      Decimal.unitsPerOne_eq_pow (by omega), finer, Nat.div_div_eq_div_mul, ← Nat.mul_assoc,
      Nat.mul_div_mul_right _ _ square_positive]
  rw [rootUnits, rootUnits, ← sqrt_div_square unit_positive, radicand]

end Approx

namespace Decimal

/-- More decimals of a rational that is not negative are written behind those
already shown, and so are more decimals of its square root. -/
theorem truncatedText_continues {r : Rat} {digits more : Nat} (within : digits + more < 2 ^ 31)
    (nonneg : 0 ≤ r) :
    Continues digits more (truncatedText r digits) (truncatedText r (digits + more)) ∧
    ∃ root finer, Approx.squareRoot? r digits = some root ∧
      Approx.squareRoot? r (digits + more) = some finer ∧
      Continues digits more (truncatedText root digits) (truncatedText finer (digits + more)) := by
  refine ⟨?_, _, _, Approx.squareRoot?_of_nonneg nonneg, Approx.squareRoot?_of_nonneg nonneg, ?_⟩
  · rw [truncatedText, truncatedText, truncatedUnits_of_nonneg (by omega) nonneg,
      truncatedUnits_of_nonneg (by omega) nonneg, ← floor_shift r digits more]
    exact scaledText_continues (by omega) _
  · rw [truncatedText_ofScaled (by omega), truncatedText_ofScaled (by omega),
      ← Approx.rootUnits_shift within]
    exact scaledText_continues (by omega) _

/-- Three decimals behind the whole part of a fraction and of its root. -/
theorem decimals_of_twenty_two_sevenths :
    0 + 3 < 2 ^ 31 ∧ (0 : Rat) ≤ 22 / 7 ∧
    truncatedText (22 / 7) 0 = "3" ∧ truncatedText (22 / 7) 3 = "3.142" ∧
    Continues 0 3 "3" "3.142" ∧
    Approx.squareRoot? (22 / 7) 3 = some (1772 / 10 ^ 3) ∧
    truncatedText (1772 / 10 ^ 3) 3 = "1.772" ∧
    ∃ root, Approx.squareRoot? (22 / 7) 0 = some root ∧
      Continues 0 3 (truncatedText root 0) "1.772" := by
  have within : 0 + 3 < 2 ^ 31 := by decide
  have nonneg : (0 : Rat) ≤ 22 / 7 := by decide +kernel
  have whole : truncatedText (22 / 7) 0 = "3" := by decide +kernel
  have decimals : truncatedText (22 / 7) 3 = "3.142" := by decide +kernel
  have root_decimals : truncatedText (1772 / 10 ^ 3) 3 = "1.772" := by decide +kernel
  have units : 1772 = Approx.rootUnits (22 / 7) 3 :=
    (Approx.eq_rootUnits_iff (by decide) nonneg).mpr (by decide +kernel)
  have found : Approx.squareRoot? (22 / 7) 3 = some (1772 / 10 ^ 3) := by
    rw [Approx.squareRoot?_of_nonneg nonneg, ← units, ofScaled_eq_div (by decide)]
    norm_num
  obtain ⟨shown, root, finer, root_found, finer_found, root_shown⟩ :=
    truncatedText_continues within nonneg
  rw [whole, decimals] at shown
  rw [found, Option.some.injEq] at finer_found
  rw [← finer_found, root_decimals] at root_shown
  exact ⟨within, nonneg, whole, decimals, shown, found, root_decimals, root, root_found, root_shown⟩

end Decimal

end PostfixCalc

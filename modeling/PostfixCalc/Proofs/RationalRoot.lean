/-
# Roots of rationals

The root of a rational with a number of decimals counts units of the last
place: it is the floor of the square root of the rational in units of the
square of the last place. Newton's iteration is run on the fraction itself,
and its guesses are those for the quotient rounded down.

Main statement: a rational has a root exactly if it is not negative, and the
root is the greatest number of units whose square does not exceed the
rational. So the root of the square of a number with that many decimals is
exact.
-/

import Mathlib.Algebra.Order.Field.Basic
import Mathlib.Algebra.Order.Field.Rat
import Mathlib.Algebra.Order.Ring.Abs
import Mathlib.Data.Rat.Lemmas
import Mathlib.Tactic.NormNum
import PostfixCalc.Proofs.DecimalUnits
import PostfixCalc.Proofs.FloorRoot
import PostfixCalc.Proofs.NewtonDescent

namespace PostfixCalc.Approx

variable {r : Rat} {digits : Nat}

/-! ## The iteration on a fraction -/

/-- The guesses for the root of a fraction in units of the last place. -/
def fractionGuess (r : Rat) (digits : Nat) : Nat → Nat
  | 0 => 10 ^ digits
  | count + 1 =>
      let guess := fractionGuess r digits count
      (guess + r.num.toNat * 10 ^ (2 * digits) / (r.den * guess)) / 2

/-- The iteration on a fraction first stops after the given number of steps,
and divides by zero at none of them. -/
structure FractionStopsAfter (r : Rat) (digits count : Nat) : Prop where
  positive : ∀ earlier ≤ count, 0 < fractionGuess r digits earlier
  goes_on : ∀ earlier < count,
    fractionGuess r digits (earlier + 1) ≠ fractionGuess r digits earlier ∧
      fractionGuess r digits (earlier + 1) + 1 ≠ fractionGuess r digits earlier
  stops : fractionGuess r digits (count + 1) = fractionGuess r digits count ∨
    fractionGuess r digits (count + 1) + 1 = fractionGuess r digits count

/-- The guesses for a fraction are those for its quotient rounded down. -/
theorem fractionGuess_eq_iterate (within : digits < 2 ^ 31) (count : Nat) :
    fractionGuess r digits count =
      (newtonStep (scaledRadicand r digits))^[count] (Decimal.unitsPerOne digits) := by
  induction count with
  | zero => exact (Decimal.unitsPerOne_eq_pow (by omega)).symm
  | succ count ih =>
      rw [Function.iterate_succ_apply', ← ih, newtonStep, scaledRadicand,
        Decimal.unitsPerOne_eq_pow (by omega), Nat.div_div_eq_div_mul]
      rfl

/-- The iteration on a fraction stops, and its candidate is the next guess. -/
theorem exists_fractionStopsAfter (within : digits < 2 ^ 31) :
    ∃ count, FractionStopsAfter r digits count ∧
      newtonCandidate (scaledRadicand r digits) (Decimal.unitsPerOne digits) =
        fractionGuess r digits (count + 1) := by
  have start_positive := Decimal.unitsPerOne_pos digits
  obtain ⟨count, stops_after, candidate⟩ :=
    @exists_stop (scaledRadicand r digits) _ start_positive
  have next_guess (earlier : Nat) : fractionGuess r digits (earlier + 1) =
      newtonStep (scaledRadicand r digits) (fractionGuess r digits earlier) := by
    rw [fractionGuess_eq_iterate within, fractionGuess_eq_iterate within,
      Function.iterate_succ_apply']
  refine ⟨count, ⟨?_, ?_, ?_⟩, ?_⟩
  · intro earlier before
    rw [fractionGuess_eq_iterate within]
    exact stops_after.positive start_positive earlier before
  · intro earlier before
    have goes_on := stops_after.goes_on earlier before
    rwa [← fractionGuess_eq_iterate within, stopsAt_iff, ← next_guess, not_or] at goes_on
  · have stops := stops_after.stops
    rwa [← fractionGuess_eq_iterate within, stopsAt_iff, ← next_guess] at stops
  · rw [candidate, fractionGuess_eq_iterate within]

/-! ## The floor -/

/-- The floor root of a rational in units of the last place. -/
def rootUnits (r : Rat) (digits : Nat) : Nat :=
  Nat.sqrt (scaledRadicand r digits)

theorem squareRoot?_of_neg (negative : r < 0) : squareRoot? r digits = none := by
  rw [squareRoot?, if_pos (Rat.num_neg.mpr negative)]

theorem squareRoot?_of_nonneg (nonneg : 0 ≤ r) :
    squareRoot? r digits = some (Decimal.ofScaled (rootUnits r digits : Int) digits) := by
  rw [squareRoot?, if_neg (by simpa using nonneg)]
  split
  · next zero => simp [rootUnits, scaledRadicand, zero, Decimal.ofScaled]
  · next nonzero => rw [floorRoot_eq_sqrt, rootUnits]

/-- The floor root is the only number of units whose square does not exceed the
rational while the square of its successor does. -/
theorem eq_rootUnits_iff (within : digits < 2 ^ 31) (nonneg : 0 ≤ r) {units : Nat} :
    units = rootUnits r digits ↔
      (units : Int) ^ 2 * r.den ≤ r.num * 10 ^ (2 * digits) ∧
        r.num * 10 ^ (2 * digits) < ((units : Int) + 1) ^ 2 * r.den := by
  have numerator : r.num = (r.num.toNat : Int) :=
    (Int.toNat_of_nonneg (Rat.num_nonneg.mpr nonneg)).symm
  rw [rootUnits, Nat.eq_sqrt, scaledRadicand, Decimal.unitsPerOne_eq_pow (by omega),
    Nat.le_div_iff_mul_le r.den_pos, Nat.div_lt_iff_lt_mul r.den_pos, numerator, sq, sq]
  norm_cast

/-- Units whose square is the rational are its floor root. -/
theorem natAbs_eq_rootUnits (within : digits < 2 ^ 31) {units : Int}
    (square : r = ((units : Rat) / 10 ^ digits) ^ 2) : units.natAbs = rootUnits r digits := by
  have nonneg : 0 ≤ r := square ▸ sq_nonneg _
  have exact_square : r.num * 10 ^ (2 * digits) = units ^ 2 * r.den := by
    have unit_nonzero : (10 : Rat) ^ (2 * digits) ≠ 0 := by positivity
    have in_units : r * 10 ^ (2 * digits) = (units : Rat) ^ 2 := by
      rw [square, div_pow, ← pow_mul, mul_comm digits, div_mul_cancel₀ _ unit_nonzero]
    have cleared : (r.num : Rat) * 10 ^ (2 * digits) = (units : Rat) ^ 2 * r.den := by
      rw [← in_units, ← Rat.mul_den_eq_num r]
      ring
    exact_mod_cast cleared
  rw [eq_rootUnits_iff within nonneg, exact_square, Int.natCast_natAbs, sq_abs]
  refine ⟨le_refl _, ?_⟩
  have den_positive : (0 : Int) < r.den := by exact_mod_cast r.den_pos
  have square_lt : units ^ 2 < (|units| + 1) ^ 2 := by
    have magnitude := abs_nonneg units
    have same := sq_abs units
    nlinarith
  exact mul_lt_mul_of_pos_right square_lt den_positive

/-- A rational has a root exactly if it is not negative. The root counts the
units of the last place: it is the only number of them whose square does not
exceed the rational while the square of its successor does, and so it is exact
for the square of a number with these decimals. The iteration that finds it
stops, without dividing by zero, and the adjustments start from its last
guess. -/
theorem squareRoot?_eq_floor (within : digits < 2 ^ 31) (r : Rat) :
    (squareRoot? r digits = none ↔ r < 0) ∧
    (0 ≤ r → ∃ root : Nat, squareRoot? r digits = some ((root : Rat) / 10 ^ digits) ∧
      ∀ units : Nat, units = root ↔
        (units : Int) ^ 2 * r.den ≤ r.num * 10 ^ (2 * digits) ∧
          r.num * 10 ^ (2 * digits) < ((units : Int) + 1) ^ 2 * r.den) ∧
    (0 < r → ∃ count, FractionStopsAfter r digits count ∧
      let radicand := scaledRadicand r digits
      let candidate := fractionGuess r digits (count + 1)
      squareRoot? r digits =
        some ((lowerToRoot radicand (raiseToRoot radicand candidate) : Rat) / 10 ^ digits)) ∧
    ∀ units : Int, r = ((units : Rat) / 10 ^ digits) ^ 2 →
      squareRoot? r digits = some |(units : Rat) / 10 ^ digits| := by
  have of_nonneg (nonneg : 0 ≤ r) :
      squareRoot? r digits = some ((rootUnits r digits : Rat) / 10 ^ digits) := by
    rw [squareRoot?_of_nonneg nonneg, Decimal.ofScaled_eq_div (by omega)]
    rfl
  refine ⟨⟨fun none => ?_, squareRoot?_of_neg⟩, fun nonneg => ?_, fun positive => ?_,
    fun units square => ?_⟩
  · by_contra not_negative
    rw [of_nonneg (not_lt.mp not_negative)] at none
    cases none
  · exact ⟨rootUnits r digits, of_nonneg nonneg, fun units => eq_rootUnits_iff within nonneg⟩
  · obtain ⟨count, stops_after, candidate⟩ := exists_fractionStopsAfter (r := r) within
    refine ⟨count, stops_after, ?_⟩
    show _ = some ((lowerToRoot _ (raiseToRoot _ (fractionGuess r digits (count + 1))) : Rat) / _)
    rw [of_nonneg positive.le, ← candidate, rootUnits,
      ← floorRoot_eq_sqrt _ (Decimal.unitsPerOne digits), floorRoot]
  · have nonneg : 0 ≤ r := square ▸ sq_nonneg _
    rw [of_nonneg nonneg, ← natAbs_eq_rootUnits within square, abs_div,
      abs_of_pos (by positivity : (0 : Rat) < 10 ^ digits), Nat.cast_natAbs, Int.cast_abs]

/-- No root of a negative, the root of two with eighteen decimals, the exact
root of a fraction, and the end of an iteration whose radicand is one below a
square. -/
theorem roots_of_small_rationals :
    squareRoot? (-2) 18 = none ∧
    squareRoot? 2 18 = some (1414213562373095048 / 10 ^ 18) ∧
    squareRoot? (9 / 4) 1 = some (3 / 2) ∧
    ∃ count, FractionStopsAfter 8 0 count ∧
      squareRoot? 8 0 = some ((lowerToRoot (scaledRadicand 8 0)
        (raiseToRoot (scaledRadicand 8 0) (fractionGuess 8 0 (count + 1))) : Rat) / 10 ^ 0) := by
  have few (digits : Nat) (small : digits ≤ 18) : digits < 2 ^ 31 := by omega
  refine ⟨?_, ?_, ?_, ?_⟩
  · exact (squareRoot?_eq_floor (few 18 (by decide)) (-2)).1.mpr (by norm_num)
  · obtain ⟨root, found, only⟩ :=
      (squareRoot?_eq_floor (few 18 (by decide)) 2).2.1 (by norm_num)
    have digits_of_root : 1414213562373095048 = root := (only _).mpr (by norm_num)
    rw [found, ← digits_of_root]
    rfl
  · have exact_root := (squareRoot?_eq_floor (few 1 (by decide)) (9 / 4)).2.2.2 15 (by norm_num)
    rw [exact_root]
    norm_num
  · exact (squareRoot?_eq_floor (few 0 (by decide)) 8).2.2.1 (by norm_num)

end PostfixCalc.Approx

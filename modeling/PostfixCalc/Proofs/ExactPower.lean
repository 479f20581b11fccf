/-
# Exact powers

A rational power is computed by squaring: the product so far times the power
still to come is the same before and after every halving of the exponent, and
at exponent zero the product is the answer. A negative exponent inverts the
answer for its magnitude.

Main statement: each exact kind of number raises to an exponent exactly, and
refuses the exponents outside its domain, each for one reason. The magnitude
of an exponent is bounded for the bases whose powers grow or shrink, and for
no other base.
-/

import Mathlib.Algebra.Order.Field.Rat
import Mathlib.Algebra.Order.Ring.Abs
import Mathlib.Algebra.Ring.Int.Parity
import PostfixCalc.Number.Rational

namespace PostfixCalc

/-- A result that is a failure with the given wording. -/
def FailsWith {α : Type} (result : Except Failure α) (message : String) : Prop :=
  ∃ failure, result = .error failure ∧ failure.message = message

/-- What becomes of raising to an exponent: a refusal worded by `reason`, or
the refusal of an exponent that is too large, or the power itself. -/
structure RaisesTo {α : Type} (power : α) (reason : String) (refused large : Prop)
    (result : Except Failure α) : Prop where
  refused_iff : FailsWith result reason ↔ refused
  large_iff : FailsWith result "exposant trop grand" ↔ ¬ refused ∧ large
  exact_iff : ∀ value, result = .ok value ↔ (¬ refused ∧ ¬ large) ∧ value = power

theorem failsWith_error_iff {α : Type} {failure : Failure} {message : String} :
    FailsWith (.error failure : Except Failure α) message ↔ failure.message = message := by
  simp [FailsWith]

theorem not_failsWith_ok {α : Type} {value : α} {message : String} :
    ¬ FailsWith (.ok value) message := by
  simp [FailsWith]

/-- Three outcomes that exclude each other decide all that is said of a power. -/
theorem RaisesTo.of_cases {α : Type} {power : α} (failure : Failure) {refused large : Prop}
    {result : Except Failure α} (other_reason : failure.message ≠ Failure.exponentTooLarge.message)
    (outcome : refused ∧ result = .error failure ∨
      ¬ refused ∧ large ∧ result = .error .exponentTooLarge ∨
      ¬ refused ∧ ¬ large ∧ result = .ok power) :
    RaisesTo power failure.message refused large result := by
  rcases outcome with ⟨is_refused, rfl⟩ | ⟨accepted, is_large, rfl⟩ | ⟨accepted, small, rfl⟩
  · refine ⟨?_, ?_, fun value => ?_⟩
    · simp [failsWith_error_iff, is_refused]
    · exact iff_of_false (fun fails => other_reason (failsWith_error_iff.mp fails))
        fun accepted => accepted.1 is_refused
    · simp [is_refused]
  · refine ⟨?_, ?_, fun value => ?_⟩
    · exact iff_of_false (fun fails => other_reason (failsWith_error_iff.mp fails).symm) accepted
    · exact iff_of_true (failsWith_error_iff.mpr rfl) ⟨accepted, is_large⟩
    · simp [is_large]
  · refine ⟨?_, ?_, fun value => ?_⟩
    · exact iff_of_false not_failsWith_ok accepted
    · exact iff_of_false not_failsWith_ok fun refused_large => small refused_large.2
    · simp [accepted, small, eq_comm]

namespace Rational

theorem abs_eq_abs (r : Rat) : r.abs = |r| := by
  unfold Rat.abs
  split
  · next nonneg => exact (abs_of_nonneg nonneg).symm
  · next negative => exact (abs_of_neg (not_le.mp negative)).symm

/-! ## Squaring -/

/-- Halving the exponent leaves the product times the power as it is. -/
theorem halving_keeps_power (product base : Rat) (exponent : Nat) :
    (if exponent % 2 = 1 then product * base else product) *
        (if exponent / 2 = 0 then base else base * base) ^ (exponent / 2) =
      product * base ^ exponent := by
  have squared : (if exponent / 2 = 0 then base else base * base) ^ (exponent / 2) =
      base ^ (2 * (exponent / 2)) := by
    split
    · next last => rw [last, pow_zero]
    · next => rw [← pow_two, ← pow_mul]
  have odd_factor : (if exponent % 2 = 1 then product * base else product) =
      product * base ^ (exponent % 2) := by
    rcases Nat.mod_two_eq_zero_or_one exponent with even | odd
    · rw [even, if_neg (by decide), pow_zero, mul_one]
    · rw [odd, if_pos rfl, pow_one]
  calc _ = product * base ^ (exponent % 2) * base ^ (2 * (exponent / 2)) := by
        rw [squared, odd_factor]
    _ = product * base ^ (exponent % 2 + 2 * (exponent / 2)) := by rw [mul_assoc, ← pow_add]
    _ = product * base ^ exponent := by rw [Nat.mod_add_div]

/-- The product comes out multiplied by the whole power. -/
theorem timesPower_eq (product base : Rat) (exponent : Nat) :
    timesPower product base exponent = product * base ^ exponent := by
  fun_induction timesPower product base exponent with
  | case1 product base => rw [pow_zero, mul_one]
  | case2 product base exponent positive half ih =>
      simp only [dite_eq_ite] at ih
      rw [ih]
      exact halving_keeps_power product base exponent

theorem integerPower_eq_zpow (base : Rat) (exponent : Int) :
    integerPower base exponent = base ^ exponent := by
  rw [integerPower, timesPower_eq, one_mul]
  cases exponent with
  | ofNat count => exact (if_neg (by simp)).trans (zpow_natCast base count).symm
  | negSucc count => exact (if_pos (Int.negSucc_lt_zero count)).trans (zpow_negSucc base count).symm

/-! ## Domains -/

theorem zpow_of_unit {base : Rat} (unit : base = 1 ∨ base = -1) (n : Int) :
    base ^ n = if n % 2 = 0 then 1 else base := by
  rcases unit with rfl | rfl
  · rw [one_zpow, ite_self]
  · split
    · next even => exact Even.neg_one_zpow (Int.even_iff.mpr even)
    · next odd => exact Odd.neg_one_zpow (Int.odd_iff.mpr (by omega))

theorem abs_eq_one_iff {base : Rat} : base.abs = 1 ↔ base = 1 ∨ base = -1 := by
  rw [abs_eq_abs, abs_eq zero_le_one]

/-- A power with an integer exponent is refused for one of two reasons, or exact. -/
theorem power_cases (base : Rat) {exponent : Rat} (integer : exponent.den = 1) :
    (base = 0 ∧ exponent.num < 0) ∧ Rational.power base exponent = .error .divisionByZero ∨
    ¬ (base = 0 ∧ exponent.num < 0) ∧
      (base ≠ 0 ∧ base ≠ 1 ∧ base ≠ -1 ∧ 4096 < |exponent.num|) ∧
      Rational.power base exponent = .error .exponentTooLarge ∨
    ¬ (base = 0 ∧ exponent.num < 0) ∧
      ¬ (base ≠ 0 ∧ base ≠ 1 ∧ base ≠ -1 ∧ 4096 < |exponent.num|) ∧
      Rational.power base exponent = .ok (base ^ exponent.num) := by
  have large_iff : greatestExponent < exponent.num.natAbs ↔ 4096 < |exponent.num| := by
    rw [greatestExponent, Int.abs_eq_natAbs]
    omega
  rw [Rational.power, if_neg (not_not.mpr integer)]
  by_cases zero : base = 0
  · by_cases negative : exponent.num < 0
    · exact .inl ⟨⟨zero, negative⟩, by rw [if_pos zero, if_pos negative]⟩
    · refine .inr (.inr ⟨fun divides => negative divides.2, fun refused => refused.1 zero, ?_⟩)
      rw [if_pos zero, if_neg negative, zero, zero_zpow_eq]
  have nonzero : ¬ (base = 0 ∧ exponent.num < 0) := fun divides => zero divides.1
  rw [if_neg zero]
  by_cases unit : base = 1 ∨ base = -1
  · refine .inr (.inr ⟨nonzero, fun refused => unit.elim refused.2.1 refused.2.2.1, ?_⟩)
    rw [if_pos (abs_eq_one_iff.mpr unit), zpow_of_unit unit]
  · obtain ⟨not_one, not_minus_one⟩ := not_or.mp unit
    rw [if_neg (mt abs_eq_one_iff.mp unit)]
    by_cases large : 4096 < |exponent.num|
    · exact .inr (.inl ⟨nonzero, ⟨zero, not_one, not_minus_one, large⟩,
        if_pos (large_iff.mpr large)⟩)
    · refine .inr (.inr ⟨nonzero, fun refused => large refused.2.2.2, ?_⟩)
      rw [if_neg (mt large_iff.mp large), integerPower_eq_zpow]

end Rational

namespace Integer

theorem pow_of_unit {base n : Int} (unit : base = 1 ∨ base = -1) (natural : 0 ≤ n) :
    base ^ n.toNat = if n % 2 = 0 then 1 else base := by
  rcases unit with rfl | rfl
  · rw [one_pow, ite_self]
  · split
    · next even => exact Even.neg_one_pow (Nat.even_iff.mpr (by omega))
    · next odd => exact Odd.neg_one_pow (Nat.odd_iff.mpr (by omega))

/-- An integer power is refused for one of two reasons, or exact. -/
theorem power_cases (base n : Int) :
    n < 0 ∧ Integer.power base n = .error .negativeExponent ∨
    ¬ n < 0 ∧ (2 ≤ |base| ∧ 4096 < n) ∧ Integer.power base n = .error .exponentTooLarge ∨
    ¬ n < 0 ∧ ¬ (2 ≤ |base| ∧ 4096 < n) ∧ Integer.power base n = .ok (base ^ n.toNat) := by
  rw [Integer.power]
  by_cases negative : n < 0
  · exact .inl ⟨negative, if_pos negative⟩
  rw [if_neg negative]
  by_cases zero : base = 0
  · refine .inr (.inr ⟨negative, fun refused => by simp [zero] at refused, ?_⟩)
    rw [if_pos zero, zero, zero_pow_eq]
    congr 1
    split <;> split <;> omega
  rw [if_neg zero, Int.abs_eq_natAbs]
  by_cases unit : base.natAbs = 1
  · refine .inr (.inr ⟨negative, fun refused => by omega, ?_⟩)
    rw [if_pos unit, pow_of_unit (Int.natAbs_eq_iff.mp unit) (Int.not_lt.mp negative)]
  rw [if_neg unit, greatestExponent]
  by_cases large : 4096 < n.toNat
  · exact .inr (.inl ⟨negative, by omega, if_pos large⟩)
  · exact .inr (.inr ⟨negative, by omega, if_neg large⟩)

end Integer

/-- A rational exponent that is not an integer is refused for being so. To an
integer exponent a rational is raised exactly, zero to the power of zero being
one and a negative exponent inverting, unless zero would be inverted or the
exponent is too large for a base other than zero, one and minus one. An integer
is raised exactly unless the exponent is negative or, for a base of magnitude
two at least, too large. -/
theorem power_exact_within_domain :
    (∀ base exponent : Rat,
      FailsWith (Rational.power base exponent) "exposant doit être entier" ↔
        ∀ n : Int, exponent ≠ n) ∧
    (∀ (base : Rat) (n : Int),
      RaisesTo (base ^ n) "division par zéro" (base = 0 ∧ n < 0)
        (base ≠ 0 ∧ base ≠ 1 ∧ base ≠ -1 ∧ 4096 < |n|) (Rational.power base n)) ∧
    (∀ base n : Int,
      RaisesTo (base ^ n.toNat) "exposant négatif" (n < 0) (2 ≤ |base| ∧ 4096 < n)
        (Integer.power base n)) := by
  refine ⟨fun base exponent => ?_, fun base n => ?_, fun base n => ?_⟩
  · by_cases integer : exponent.den = 1
    · have value : exponent = exponent.num := (Rat.coe_int_num_of_den_eq_one integer).symm
      refine iff_of_false ?_ fun fractional => fractional _ value
      rcases Rational.power_cases base integer with ⟨_, fails⟩ | ⟨_, _, fails⟩ | ⟨_, _, succeeds⟩
      · rw [fails, failsWith_error_iff]
        decide
      · rw [fails, failsWith_error_iff]
        decide
      · rw [succeeds]
        exact not_failsWith_ok
    · refine iff_of_true ?_ ?_
      · rw [Rational.power, if_pos integer, failsWith_error_iff]
        rfl
      · rintro n rfl
        exact integer (Rat.den_intCast n)
  · have outcome := Rational.power_cases base (Rat.den_intCast n)
    rw [Rat.num_intCast] at outcome
    exact .of_cases .divisionByZero (by decide) outcome
  · exact .of_cases .negativeExponent (by decide) (Integer.power_cases base n)

example : Rational.power (2 / 3) (-3) = .ok (27 / 8) := by
  decide +kernel

end PostfixCalc

/-
# The decimals of pi

Machin's formula takes sixteen times one computed arc tangent less four times
another. Both errors grow with the number of terms, which is linear in the
number of decimals, and the guard digits divide them by ten thousand millions.

Main statement: up to a hundred million decimals the computed pi is within two
units of the last place. It is the floor of pi unless pi lies closer to a
whole number of units than the error, which is less than a quarter of a unit.
A process that remembers pi answers every request with the same number,
whatever was asked before.

Nothing is claimed of where the decimals of pi come close to a whole number of
units.
-/

import Mathlib.Analysis.Real.Pi.Bounds
import Mathlib.Analysis.SpecialFunctions.Trigonometric.Arctan
import PostfixCalc.Approx.PiMemo
import PostfixCalc.Proofs.ArctanSeries
import PostfixCalc.Proofs.DecimalUnits

namespace PostfixCalc.Approx

/-! ## The error of the sum -/

/-- The number of terms is linear in the number of decimals of the scale, with
a slope that two powers of ten and of the base decide. -/
theorem mul_termCount_le {base digits count ten_power base_power : Nat} (one_lt : 1 < base)
    (grows : 10 ^ ten_power ≤ base ^ base_power) (counts : IsTermCount base (10 ^ digits) count) :
    ten_power * (2 * count) ≤ base_power * digits + ten_power := by
  cases count with
  | zero => omega
  | succ last =>
      have reaches : termDivisor base last ≤ 10 ^ digits :=
        (counts last).mpr (Nat.lt_succ_self last)
      have power_le : base ^ (2 * last + 1) ≤ 10 ^ digits :=
        (Nat.le_mul_of_pos_right _ (Nat.succ_pos _)).trans reaches
      have exponents : ten_power * (2 * last + 1) ≤ base_power * digits := by
        rw [← Nat.pow_le_pow_iff_right one_lt]
        calc base ^ (ten_power * (2 * last + 1))
            = (base ^ (2 * last + 1)) ^ ten_power := by rw [mul_comm, pow_mul]
          _ ≤ (10 ^ digits) ^ ten_power := Nat.pow_le_pow_left power_le _
          _ = (10 ^ ten_power) ^ digits := by rw [← pow_mul, mul_comm, pow_mul]
          _ ≤ (base ^ base_power) ^ digits := Nat.pow_le_pow_left grows _
          _ = base ^ (base_power * digits) := by rw [pow_mul]
      linarith

/-- Pi in units of the last guard digit, as Machin's formula gives it. -/
def machinSum (digits : Nat) : Int :=
  16 * arctanInverse 5 (10 ^ digits) - 4 * arctanInverse 239 (10 ^ digits)

theorem pi_eq_machin :
    Real.pi = 16 * Real.arctan (5 : ℝ)⁻¹ - 4 * Real.arctan (239 : ℝ)⁻¹ := by
  linarith [Real.four_mul_arctan_inv_5_sub_arctan_inv_239]

/-- The sum is off by less than seven units for each decimal, and forty-five. -/
theorem abs_machinSum_sub_le (digits : Nat) :
    |(machinSum digits : ℝ) - Real.pi * 10 ^ digits| ≤ 13 / 2 * digits + 45 := by
  have five : 1 < 5 := by decide
  have large : 1 < 239 := by decide
  obtain ⟨count, counts⟩ := exists_isTermCount five (10 ^ digits)
  obtain ⟨count', counts'⟩ := exists_isTermCount large (10 ^ digits)
  have few : 2 * (2 * count) ≤ 3 * digits + 2 := mul_termCount_le five (by decide) counts
  have few' : 2 * (2 * count') ≤ 1 * digits + 2 := mul_termCount_le large (by decide) counts'
  have few_real : (4 : ℝ) * count ≤ 3 * digits + 2 := by exact_mod_cast (by omega : 4 * count ≤ _)
  have few_real' : (4 : ℝ) * count' ≤ digits + 2 := by exact_mod_cast (by omega : 4 * count' ≤ _)
  have error := abs_le.mp (abs_arctanInverse_sub_arctan_le five counts)
  have error' := abs_le.mp (abs_arctanInverse_sub_arctan_le large counts')
  push_cast at error error'
  have sum : (machinSum digits : ℝ) =
      16 * arctanInverse 5 (10 ^ digits) - 4 * arctanInverse 239 (10 ^ digits) := by
    push_cast [machinSum]
    rfl
  rw [sum, pi_eq_machin, abs_le]
  constructor <;> linarith [error.1, error.2, error'.1, error'.2]

/-- The bound on the error in units of the last decimal, once the guard digits
are cut off. -/
noncomputable def piError (digits : Nat) : ℝ :=
  20 * (digits + 20) / 10 ^ 10

/-- Pi before the guard digits are cut off, in units of the last decimal. -/
noncomputable def guardedPi (digits : Nat) : ℝ :=
  machinSum (digits + guardDigits) / 10 ^ guardDigits

theorem abs_guardedPi_sub_lt (digits : Nat) :
    |guardedPi digits - Real.pi * 10 ^ digits| < piError digits := by
  have unit_positive : (0 : ℝ) < 10 ^ guardDigits := by positivity
  have digits_nonneg : (0 : ℝ) ≤ digits := Nat.cast_nonneg digits
  have difference : guardedPi digits - Real.pi * 10 ^ digits =
      (machinSum (digits + guardDigits) - Real.pi * 10 ^ (digits + guardDigits)) /
        10 ^ guardDigits := by
    rw [guardedPi, pow_add]
    field_simp
  rw [difference, abs_div, abs_of_pos unit_positive, piError]
  apply div_lt_div_of_pos_right _ unit_positive
  calc |(machinSum (digits + guardDigits) : ℝ) - Real.pi * 10 ^ (digits + guardDigits)|
      ≤ 13 / 2 * (digits + guardDigits : Nat) + 45 := abs_machinSum_sub_le _
    _ < 20 * (digits + 20) := by
        rw [guardDigits]
        push_cast
        linarith

/-- Up to a hundred million decimals the error is far below the sum. -/
theorem machinSum_nonneg {digits : Nat} (within : digits ≤ 10 ^ 8) :
    0 ≤ machinSum (digits + guardDigits) := by
  have error := (abs_le.mp (abs_machinSum_sub_le (digits + guardDigits))).1
  have within_real : (digits : ℝ) ≤ 10 ^ 8 := by exact_mod_cast within
  have one_le : (1 : ℝ) ≤ 10 ^ digits := one_le_pow₀ (by norm_num)
  have sum_large : (3 : ℝ) * 10 ^ guardDigits ≤ Real.pi * 10 ^ (digits + guardDigits) := by
    rw [pow_add]
    have guard_le : (10 : ℝ) ^ guardDigits ≤ 10 ^ digits * 10 ^ guardDigits :=
      le_mul_of_one_le_left (by positivity) one_le
    exact mul_le_mul Real.pi_gt_three.le guard_le (by positivity) Real.pi_pos.le
  have nonneg : (0 : ℝ) ≤ machinSum (digits + guardDigits) := by
    rw [guardDigits] at error sum_large ⊢
    push_cast at error
    linarith
  exact_mod_cast nonneg

/-- Cutting the guard digits off is rounding down. -/
theorem piUnits_eq_floor {digits : Nat} (within : digits ≤ 10 ^ 8) :
    piUnits digits = ⌊guardedPi digits⌋ := by
  have scale : Decimal.unitsPerOne (digits + guardDigits) = 10 ^ (digits + guardDigits) :=
    Decimal.unitsPerOne_eq_pow (by rw [guardDigits]; omega)
  have guard_units : Decimal.unitsPerOne guardDigits = 10 ^ guardDigits :=
    Decimal.unitsPerOne_eq_pow (by decide)
  have cut : piUnits digits = machinSum (digits + guardDigits) / (10 ^ guardDigits : Nat) := by
    rw [← Int.tdiv_eq_ediv_of_nonneg (machinSum_nonneg within), piUnits, scale, guard_units]
    rfl
  have floor := Int.floor_div_natCast (machinSum (digits + guardDigits) : ℝ) (10 ^ guardDigits)
  rw [Int.floor_intCast] at floor
  rw [cut, ← floor, guardedPi, Nat.cast_pow, Nat.cast_ofNat]

/-! ## Rounding down next to a number -/

theorem floor_near {near exact_value error : ℝ} (close : |near - exact_value| < error)
    (small : error ≤ 1) :
    |(⌊near⌋ : ℝ) - exact_value| < 2 ∧
      (error ≤ Int.fract exact_value → Int.fract exact_value ≤ 1 - error →
        ⌊near⌋ = ⌊exact_value⌋) := by
  have floor_le := Int.floor_le near
  have lt_floor := Int.lt_floor_add_one near
  obtain ⟨above, below⟩ := abs_lt.mp close
  constructor
  · rw [abs_lt]
    constructor <;> linarith
  · intro not_below not_above
    have parts := Int.floor_add_fract exact_value
    rw [Int.floor_eq_iff]
    constructor <;> linarith

namespace PiMemo

/-! ## The memo -/

/-- What is remembered is what would be computed. -/
def Sound (memo : PiMemo) : Prop :=
  ∀ digits known, memo.units[digits]? = some known → known = piUnits digits

theorem sound_empty : empty.Sound := by
  intro digits known found
  simp [empty] at found

/-- A sound memo answers with the computed units and stays sound. -/
theorem Sound.unitsOfPi {memo : PiMemo} (sound : memo.Sound) (digits : Nat) :
    (memo.unitsOfPi digits).1 = piUnits digits ∧ (memo.unitsOfPi digits).2.Sound := by
  rw [PiMemo.unitsOfPi]
  cases found : memo.units[digits]? with
  | some known => exact ⟨sound digits known found, sound⟩
  | none =>
      refine ⟨rfl, fun asked known remembered => ?_⟩
      rw [Std.TreeMap.getElem?_insert] at remembered
      split at remembered
      · next same =>
          rw [← Std.LawfulEqCmp.compare_eq_iff_eq.mp same]
          exact (Option.some.inj remembered).symm
      · exact sound asked known remembered

/-- Requests to a sound memo are answered one by one as without a memo. -/
theorem Sound.answers {memo : PiMemo} (sound : memo.Sound) (requests : List Nat) :
    memo.answers requests = requests.map pi := by
  induction requests generalizing memo with
  | nil => rfl
  | cons digits rest ih =>
      obtain ⟨computed, still_sound⟩ := sound.unitsOfPi digits
      rw [List.map_cons, ← ih still_sound, pi, ← computed]
      rfl

end PiMemo

/-- Pi is given by Machin's formula over the series of two arc tangents. Up to
a hundred million decimals the computed pi is a number of units less than two
off, and it is rounded down exactly unless pi is closer to a whole number of
units than the error. Requests are answered with the computed pi in any order. -/
theorem pi_within_two_units :
    (HasSum (fun index => (-1) ^ index * arctanTerm 5 index) (Real.arctan (5 : ℝ)⁻¹) ∧
      HasSum (fun index => (-1) ^ index * arctanTerm 239 index) (Real.arctan (239 : ℝ)⁻¹) ∧
      Real.pi = 16 * Real.arctan (5 : ℝ)⁻¹ - 4 * Real.arctan (239 : ℝ)⁻¹) ∧
    (∀ digits ≤ 10 ^ 8, ∃ units : Int, pi digits = (units : Rat) / 10 ^ digits ∧
      |(units : ℝ) - Real.pi * 10 ^ digits| < 2 ∧
      (piError digits ≤ Int.fract (Real.pi * 10 ^ digits) →
        Int.fract (Real.pi * 10 ^ digits) ≤ 1 - piError digits →
        units = ⌊Real.pi * 10 ^ digits⌋)) ∧
    ∀ requests, PiMemo.empty.answers requests = requests.map pi := by
  refine ⟨⟨?_, ?_, pi_eq_machin⟩, fun digits within => ?_, PiMemo.sound_empty.answers⟩
  · exact_mod_cast hasSum_arctanTerm (show 1 < 5 by decide)
  · exact_mod_cast hasSum_arctanTerm (show 1 < 239 by decide)
  · have small : piError digits ≤ 1 := by
      have within_real : (digits : ℝ) ≤ 10 ^ 8 := by exact_mod_cast within
      rw [piError, div_le_one (by positivity)]
      linarith
    refine ⟨piUnits digits, Decimal.ofScaled_eq_div (by omega) _, ?_⟩
    rw [piUnits_eq_floor within]
    exact floor_near (abs_guardedPi_sub_lt digits) small

/-- Three decimals of pi, asked for twice with others between. -/
theorem three_decimals_of_pi :
    3 ≤ 10 ^ 8 ∧ piError 3 ≤ Int.fract (Real.pi * 10 ^ 3) ∧
    Int.fract (Real.pi * 10 ^ 3) ≤ 1 - piError 3 ∧ pi 3 = 3141 / 1000 ∧
    PiMemo.empty.answers [3, 7, 3] = [3141 / 1000, pi 7, 3141 / 1000] := by
  have above := Real.pi_gt_d4
  have below := Real.pi_lt_d4
  have floor : ⌊Real.pi * 10 ^ 3⌋ = 3141 := by
    rw [Int.floor_eq_iff]
    constructor <;> norm_num <;> linarith
  have fract : Int.fract (Real.pi * 10 ^ 3) = Real.pi * 10 ^ 3 - 3141 := by
    rw [Int.fract, floor]
    norm_num
  have not_below : piError 3 ≤ Int.fract (Real.pi * 10 ^ 3) := by
    rw [fract, piError]
    norm_num
    linarith
  have not_above : Int.fract (Real.pi * 10 ^ 3) ≤ 1 - piError 3 := by
    rw [fract, piError]
    norm_num
    linarith
  obtain ⟨_, approximates, answers⟩ := pi_within_two_units
  obtain ⟨units, value, _, exact_units⟩ := approximates 3 (by decide)
  have decimals : pi 3 = 3141 / 1000 := by
    rw [value, exact_units not_below not_above, floor]
    norm_num
  refine ⟨by decide, not_below, not_above, decimals, ?_⟩
  rw [answers, List.map_cons, List.map_cons, List.map_singleton, decimals]

end PostfixCalc.Approx

/-
# The series of an inverse arc tangent

The arc tangent of one over a base is the sum of an alternating series. It is
computed in units of one over a scale: every term is rounded down, and the sum
ends at the first term that is zero. All later terms would be zero too, since
the terms fall.

Main statements: the computed sum is that of the terms rounded down, and it is
off the exact sum by less than half the number of terms and two. What is
rounded away changes its sign from term to term, so of two neighbours at most
one counts; what is cut off is less than the first term cut off.
-/

import Mathlib.Algebra.BigOperators.Intervals
import Mathlib.Algebra.Order.Floor.Semifield
import Mathlib.Analysis.SpecialFunctions.Complex.Arctan
import PostfixCalc.Approx.Pi

namespace PostfixCalc.Approx

open Finset

/-! ## Alternating sums -/

section Alternating

variable {R : Type} [CommRing R]

/-- The first terms of a sequence with alternating signs, added up. -/
def alternating (terms : Nat → R) (count : Nat) : R :=
  ∑ index ∈ range count, (-1) ^ index * terms index

theorem alternating_zero (terms : Nat → R) : alternating terms 0 = 0 :=
  rfl

/-- The first term less the alternating sum of the others. -/
theorem alternating_succ (terms : Nat → R) (count : Nat) :
    alternating terms (count + 1) =
      terms 0 - alternating (fun index => terms (index + 1)) count := by
  rw [alternating, sum_range_succ', alternating, pow_zero, one_mul, add_comm, sub_eq_add_neg,
    ← sum_neg_distrib]
  congr 1
  apply sum_congr rfl
  intro index _
  ring

theorem alternating_add (terms : Nat → R) (first second : Nat) :
    alternating terms (first + second) =
      alternating terms first +
        (-1) ^ first * alternating (fun index => terms (first + index)) second := by
  rw [alternating, sum_range_add, alternating, alternating, mul_sum]
  congr 1
  apply sum_congr rfl
  intro index _
  ring

theorem alternating_sub (first second : Nat → R) (count : Nat) :
    alternating (fun index => first index - second index) count =
      alternating first count - alternating second count := by
  simp only [alternating, mul_sub, sum_sub_distrib]

end Alternating

/-- Of falling terms the alternating sum lies between zero and the first. -/
theorem alternating_mem_of_antitone {terms : Nat → ℝ} (falls : Antitone terms)
    (nonneg : ∀ index, 0 ≤ terms index) (count : Nat) :
    0 ≤ alternating terms count ∧ alternating terms count ≤ terms 0 := by
  induction count generalizing terms with
  | zero => exact ⟨le_refl _, nonneg 0⟩
  | succ count ih =>
      rw [alternating_succ]
      have later := ih (fun _ _ before => falls (Nat.succ_le_succ before)) fun index => nonneg _
      have next_le : terms (0 + 1) ≤ terms 0 := falls (Nat.zero_le _)
      constructor <;> linarith [later.1, later.2]

/-- Of terms between zero and one the alternating sum is at most half their
number, or half of one more on the positive side. -/
theorem alternating_mem_of_fractions {terms : Nat → ℝ} (nonneg : ∀ index, 0 ≤ terms index)
    (le_one : ∀ index, terms index ≤ 1) (count : Nat) :
    -(count / 2 : ℝ) ≤ alternating terms count ∧ alternating terms count ≤ (count + 1) / 2 := by
  induction count generalizing terms with
  | zero => norm_num [alternating_zero]
  | succ count ih =>
      rw [alternating_succ]
      have later := ih (fun index => nonneg (index + 1)) fun index => le_one (index + 1)
      push_cast
      constructor <;> linarith [later.1, later.2, nonneg 0, le_one 0]

/-! ## The terms -/

/-- What one is divided by in a term of the series. -/
def termDivisor (base index : Nat) : Nat :=
  base ^ (2 * index + 1) * (2 * index + 1)

/-- A term of the series, without its sign. -/
noncomputable def arctanTerm (base index : Nat) : ℝ :=
  1 / termDivisor base index

variable {base scale : Nat}

theorem termDivisor_pos (one_lt : 1 < base) (index : Nat) : 0 < termDivisor base index := by
  unfold termDivisor
  positivity

theorem termDivisor_strictMono (one_lt : 1 < base) : StrictMono (termDivisor base) := by
  apply strictMono_nat_of_lt_succ
  intro index
  have power_lt : base ^ (2 * index + 1) < base ^ (2 * (index + 1) + 1) :=
    Nat.pow_lt_pow_right one_lt (by omega)
  exact Nat.mul_lt_mul_of_lt_of_le power_lt (by omega) (by omega)

theorem arctanTerm_nonneg (base index : Nat) : 0 ≤ arctanTerm base index := by
  unfold arctanTerm
  positivity

theorem arctanTerm_antitone (one_lt : 1 < base) : Antitone (arctanTerm base) := by
  intro first second before
  have positive : (0 : ℝ) < termDivisor base first := by exact_mod_cast termDivisor_pos one_lt first
  apply one_div_le_one_div_of_le positive
  exact_mod_cast (termDivisor_strictMono one_lt).monotone before

/-- The series of the arc tangent. -/
theorem hasSum_arctanTerm (one_lt : 1 < base) :
    HasSum (fun index => (-1) ^ index * arctanTerm base index) (Real.arctan (base : ℝ)⁻¹) := by
  have inside : ‖(base : ℝ)⁻¹‖ < 1 := by
    rw [norm_inv, Real.norm_natCast]
    exact inv_lt_one_of_one_lt₀ (by exact_mod_cast one_lt)
  have same_terms : (fun index => (-1) ^ index * arctanTerm base index) =
      fun index : Nat =>
        (-1) ^ index * (base : ℝ)⁻¹ ^ (2 * index + 1) / ((2 * index + 1 : Nat) : ℝ) := by
    funext index
    rw [arctanTerm, termDivisor, Nat.cast_mul, Nat.cast_pow, inv_pow, one_div, mul_inv, ← mul_assoc,
      ← div_eq_mul_inv]
  rw [same_terms]
  exact Real.hasSum_arctan inside

/-- Exactly the terms before a count are at least one unit. -/
def IsTermCount (base scale count : Nat) : Prop :=
  ∀ index, termDivisor base index ≤ scale ↔ index < count

theorem exists_isTermCount (one_lt : 1 < base) (scale : Nat) :
    ∃ count, IsTermCount base scale count := by
  have rises := termDivisor_strictMono one_lt
  have exceeds : ∃ index, scale < termDivisor base index :=
    ⟨scale + 1, rises.le_apply (x := scale + 1)⟩
  refine ⟨Nat.find exceeds, fun index => ⟨fun reaches => ?_, fun before => ?_⟩⟩
  · by_contra behind
    have first_le := rises.monotone (not_lt.mp behind)
    exact absurd (Nat.find_spec exceeds) (not_lt.mpr (first_le.trans reaches))
  · exact not_lt.mp (Nat.find_min exceeds before)

/-! ## The computed sum -/

/-- One step of the computation, at a power that belongs to its index. -/
theorem alternatingSum_at (base scale index : Nat) :
    alternatingSum base scale (base ^ (2 * index + 1)) index =
      if scale / termDivisor base index = 0 then 0
      else ((scale / termDivisor base index : Nat) : Int) -
        alternatingSum base scale (base ^ (2 * (index + 1) + 1)) (index + 1) := by
  have next_power : base ^ (2 * index + 1) * base * base = base ^ (2 * (index + 1) + 1) := by
    ring
  rw [alternatingSum, next_power]
  rfl

/-- The terms from any index on are added up with alternating signs, every one
rounded down. -/
theorem alternatingSum_eq (one_lt : 1 < base) {count : Nat}
    (counts : IsTermCount base scale count) (remaining : Nat) :
    ∀ index, index + remaining = count →
      alternatingSum base scale (base ^ (2 * index + 1)) index =
        alternating (fun offset => ((scale / termDivisor base (index + offset) : Nat) : Int))
          remaining := by
  induction remaining with
  | zero =>
      intro index at_end
      have vanishes : scale / termDivisor base index = 0 := by
        apply Nat.div_eq_of_lt
        rw [← not_le, counts]
        omega
      rw [alternatingSum_at, if_pos vanishes, alternating_zero]
  | succ remaining ih =>
      intro index before
      have reaches : termDivisor base index ≤ scale := (counts index).mpr (by omega)
      have nonzero : scale / termDivisor base index ≠ 0 :=
        (Nat.div_pos reaches (termDivisor_pos one_lt index)).ne'
      rw [alternatingSum_at, if_neg nonzero, ih (index + 1) (by omega), alternating_succ]
      simp only [Nat.add_zero, Nat.add_assoc, Nat.add_comm 1]

/-- The computed arc tangent is the alternating sum of the terms rounded down. -/
theorem arctanInverse_eq (one_lt : 1 < base) {count : Nat}
    (counts : IsTermCount base scale count) :
    arctanInverse base scale =
      alternating (fun index => ((scale / termDivisor base index : Nat) : Int)) count := by
  have from_start := alternatingSum_eq one_lt counts count 0 (Nat.zero_add _)
  simpa [arctanInverse] using from_start

/-! ## The error -/

/-- What rounding takes off a term. -/
noncomputable def roundedOff (base scale index : Nat) : ℝ :=
  scale * arctanTerm base index - (scale / termDivisor base index : Nat)

theorem roundedOff_mem (base scale index : Nat) :
    0 ≤ roundedOff base scale index ∧ roundedOff base scale index ≤ 1 := by
  have floor : ((scale / termDivisor base index : Nat) : ℝ) =
      ⌊(scale : ℝ) / termDivisor base index⌋₊ := by
    rw [Nat.floor_div_eq_div]
  have nonneg : 0 ≤ (scale : ℝ) / termDivisor base index := by positivity
  have floor_le := Nat.floor_le nonneg
  have lt_floor := Nat.lt_floor_add_one ((scale : ℝ) / termDivisor base index)
  rw [roundedOff, floor, arctanTerm, mul_one_div]
  constructor <;> linarith

/-- The terms of the exact series that are cut off behind a count. -/
noncomputable def cutOff (base scale count rest : Nat) : ℝ :=
  alternating (fun index => scale * arctanTerm base (count + index)) rest

/-- What is cut off is less than one unit. -/
theorem cutOff_mem (one_lt : 1 < base) {count : Nat} (counts : IsTermCount base scale count)
    (rest : Nat) : 0 ≤ cutOff base scale count rest ∧ cutOff base scale count rest < 1 := by
  have scale_nonneg : (0 : ℝ) ≤ scale := Nat.cast_nonneg scale
  have falls : Antitone fun index => scale * arctanTerm base (count + index) := by
    intro first second before
    exact mul_le_mul_of_nonneg_left (arctanTerm_antitone one_lt (by omega)) scale_nonneg
  obtain ⟨nonneg, le_first⟩ := alternating_mem_of_antitone falls
    (fun index => mul_nonneg scale_nonneg (arctanTerm_nonneg base _)) rest
  have divisor_positive : (0 : ℝ) < termDivisor base count := by
    exact_mod_cast termDivisor_pos one_lt count
  have first_lt : scale * arctanTerm base (count + 0) < 1 := by
    rw [Nat.add_zero, arctanTerm, mul_one_div, div_lt_one divisor_positive, Nat.cast_lt, ← not_le,
      counts]
    exact lt_irrefl count
  exact ⟨nonneg, le_first.trans_lt first_lt⟩

/-- The error is what rounding takes off the terms and what is cut off. -/
theorem arctanInverse_sub_eq (one_lt : 1 < base) {count : Nat}
    (counts : IsTermCount base scale count) (rest : Nat) :
    (arctanInverse base scale : ℝ) - scale * alternating (arctanTerm base) (count + rest) =
      -alternating (roundedOff base scale) count -
        (-1) ^ count * cutOff base scale count rest := by
  have computed : (arctanInverse base scale : ℝ) =
      alternating (fun index => ((scale / termDivisor base index : Nat) : ℝ)) count := by
    rw [arctanInverse_eq one_lt counts]
    simp only [alternating, Int.cast_sum, Int.cast_mul, Int.cast_pow, Int.cast_neg, Int.cast_one,
      Int.cast_natCast]
  have scaled : scale * alternating (arctanTerm base) (count + rest) =
      alternating (fun index => scale * arctanTerm base index) (count + rest) := by
    simp only [alternating, mul_sum, mul_left_comm]
  have rounded := alternating_sub (fun index => scale * arctanTerm base index)
    (fun index => ((scale / termDivisor base index : Nat) : ℝ)) count
  change alternating (roundedOff base scale) count = _ at rounded
  rw [computed, scaled, alternating_add, rounded, cutOff]
  ring

/-- The computed arc tangent differs from the sum of any number of terms that
is not less than its own by less than half its own number and two. -/
theorem abs_arctanInverse_sub_lt (one_lt : 1 < base) {count : Nat}
    (counts : IsTermCount base scale count) {summed : Nat} (within : count ≤ summed) :
    |(arctanInverse base scale : ℝ) - scale * alternating (arctanTerm base) summed| <
      count / 2 + 2 := by
  obtain ⟨rest, rfl⟩ := Nat.exists_eq_add_of_le within
  have rounding := alternating_mem_of_fractions (fun index => (roundedOff_mem base scale index).1)
    (fun index => (roundedOff_mem base scale index).2) count
  have rounding_le : |alternating (roundedOff base scale) count| ≤ (count + 1) / 2 :=
    abs_le.mpr ⟨by linarith [rounding.1], rounding.2⟩
  obtain ⟨cut_nonneg, cut_lt⟩ := cutOff_mem one_lt counts rest
  rw [arctanInverse_sub_eq one_lt counts]
  calc |-alternating (roundedOff base scale) count - (-1) ^ count * cutOff base scale count rest|
      ≤ |alternating (roundedOff base scale) count| +
        |(-1) ^ count * cutOff base scale count rest| := by
        rw [← abs_neg (alternating (roundedOff base scale) count)]
        exact abs_sub _ _
    _ = |alternating (roundedOff base scale) count| + cutOff base scale count rest := by
        rw [abs_mul, abs_neg_one_pow, one_mul, abs_of_nonneg cut_nonneg]
    _ < count / 2 + 2 := by linarith

/-- The computed arc tangent is off by half the number of its terms and two
units at most. -/
theorem abs_arctanInverse_sub_arctan_le (one_lt : 1 < base) {count : Nat}
    (counts : IsTermCount base scale count) :
    |(arctanInverse base scale : ℝ) - scale * Real.arctan (base : ℝ)⁻¹| ≤ count / 2 + 2 := by
  have sums := (hasSum_arctanTerm one_lt).tendsto_sum_nat
  have errors := ((sums.const_mul (scale : ℝ)).const_sub (arctanInverse base scale : ℝ)).abs
  apply le_of_tendsto errors
  filter_upwards [Filter.eventually_ge_atTop count] with summed within
  exact (abs_arctanInverse_sub_lt one_lt counts within).le

end PostfixCalc.Approx

/-
# The descent of Newton's iteration

The mean of a guess and of the radicand divided by it is never below the floor
root. So the first step may go up, and after it the guesses fall until the
iteration stops: by two or more at each step. The one danger, a step from the
floor root back up to its successor, occurs only if the radicand is one below
the square of the successor, and then no step that goes on leads to the floor
root.

Main statement: from every positive start the iteration stops, and the
candidate is the successor of the guess at which it stops first. That a step
upward would end a descent has no effect: no descent makes one.
-/

import Mathlib.Data.Nat.Sqrt
import Mathlib.Logic.Function.Iterate
import Mathlib.Tactic.Linarith
import Mathlib.Tactic.Ring
import PostfixCalc.Approx.Root

namespace PostfixCalc.Approx

variable {radicand guess : Nat}

/-! ## One step -/

/-- Of two numbers with a given mean the product is at most the square of the
mean, and it is less unless they are equal. -/
theorem mul_lt_mean_square {first second mean : Nat} (balanced : first + second = 2 * mean)
    (apart : first ≠ mean) : second * first < mean * mean := by
  rcases Nat.lt_or_gt_of_ne apart with below | above
  · obtain ⟨gap, rfl⟩ := Nat.exists_eq_add_of_lt below
    have other : second = first + gap + 1 + (gap + 1) := by omega
    rw [other]
    nlinarith
  · obtain ⟨gap, rfl⟩ := Nat.exists_eq_add_of_lt above
    have centre : mean = second + (gap + 1) := by omega
    rw [centre]
    nlinarith

/-- The mean is at least a number as soon as the guess and its mirror image at
that number have a product within the radicand. -/
theorem le_newtonStep {bound : Nat} (positive : 0 < guess)
    (mirrored : ∀ image, guess + image = 2 * bound → image * guess ≤ radicand) :
    bound ≤ newtonStep radicand guess := by
  have twice : 2 * bound ≤ guess + radicand / guess := by
    by_cases far : 2 * bound ≤ guess
    · exact Nat.le_trans far (Nat.le_add_right _ _)
    · have reaches : 2 * bound - guess ≤ radicand / guess := by
        rw [Nat.le_div_iff_mul_le positive]
        exact mirrored _ (by omega)
      omega
  rw [newtonStep]
  omega

/-- No step leads below the floor root. -/
theorem sqrt_le_newtonStep (positive : 0 < guess) :
    Nat.sqrt radicand ≤ newtonStep radicand guess := by
  apply le_newtonStep positive
  intro image balanced
  by_cases apart : guess = Nat.sqrt radicand
  · have same : image = guess := by omega
    rw [same, apart]
    exact Nat.sqrt_le radicand
  · exact (mul_lt_mean_square balanced apart).le.trans (Nat.sqrt_le radicand)

/-- Above the floor root a step goes down. -/
theorem newtonStep_lt (above : Nat.sqrt radicand < guess) : newtonStep radicand guess < guess := by
  have positive : 0 < guess := Nat.zero_lt_of_lt above
  have quotient_lt : radicand / guess < guess :=
    (Nat.div_lt_iff_lt_mul positive).mpr (Nat.sqrt_lt.mp above)
  rw [newtonStep]
  omega

/-- A step from the floor root goes up only if the radicand is one below the
next square. -/
theorem succ_square_of_root_lt_newtonStep (positive : 0 < Nat.sqrt radicand)
    (upward : Nat.sqrt radicand < newtonStep radicand (Nat.sqrt radicand)) :
    radicand + 1 = (Nat.sqrt radicand + 1) * (Nat.sqrt radicand + 1) := by
  have below : radicand < (Nat.sqrt radicand + 1) * (Nat.sqrt radicand + 1) :=
    Nat.lt_succ_sqrt radicand
  rw [newtonStep] at upward
  have quotient : Nat.sqrt radicand + 2 ≤ radicand / Nat.sqrt radicand := by omega
  have reached := (Nat.le_div_iff_mul_le positive).mp quotient
  nlinarith

/-- A radicand one below a square is not led to its floor root, except from the
root of that square, where the iteration stops. -/
theorem root_lt_newtonStep_of_succ_square (positive : 0 < guess)
    (succ_square : radicand + 1 = (Nat.sqrt radicand + 1) * (Nat.sqrt radicand + 1))
    (apart : guess ≠ Nat.sqrt radicand + 1) :
    Nat.sqrt radicand < newtonStep radicand guess := by
  apply le_newtonStep positive
  intro image balanced
  have product : image * guess < (Nat.sqrt radicand + 1) * (Nat.sqrt radicand + 1) :=
    mul_lt_mean_square balanced apart
  omega

theorem stopsAt_iff : stopsAt radicand guess = true ↔
    newtonStep radicand guess = guess ∨ newtonStep radicand guess + 1 = guess := by
  simp [stopsAt]

/-! ## The descent -/

/-- A guess from which the iteration stops or goes down by two or more. -/
structure Descending (radicand guess : Nat) : Prop where
  positive : 0 < guess
  root_le : Nat.sqrt radicand ≤ guess
  falls : stopsAt radicand guess = true ∨ newtonStep radicand guess + 2 ≤ guess

/-- Every step that goes on leads to such a guess. -/
theorem descending_newtonStep (positive : 0 < guess) (goes_on : ¬ stopsAt radicand guess = true) :
    Descending radicand (newtonStep radicand guess) := by
  have root_le : Nat.sqrt radicand ≤ newtonStep radicand guess := sqrt_le_newtonStep positive
  rw [stopsAt_iff, not_or] at goes_on
  obtain ⟨not_same, not_before⟩ := goes_on
  have next_positive : 0 < newtonStep radicand guess := by
    -- Otherwise the guess is one, and the iteration stops there.
    by_contra vanishes
    have mean : newtonStep radicand guess = (guess + radicand / guess) / 2 := rfl
    have quotient_nonneg : 0 ≤ radicand / guess := Nat.zero_le _
    omega
  refine ⟨next_positive, root_le, ?_⟩
  rw [stopsAt_iff]
  rcases root_le.lt_or_eq with above | at_root
  · have down := newtonStep_lt above
    omega
  · -- At the floor root a step up is excluded by the step that led there.
    by_contra upward
    have lower : Nat.sqrt radicand ≤ newtonStep radicand (newtonStep radicand guess) :=
      sqrt_le_newtonStep next_positive
    have succ_square : radicand + 1 = (Nat.sqrt radicand + 1) * (Nat.sqrt radicand + 1) := by
      apply succ_square_of_root_lt_newtonStep
      · omega
      · rw [at_root]
        omega
    have passed := root_lt_newtonStep_of_succ_square positive succ_square (by omega)
    omega

/-- The iteration from a start first stops after the given number of steps. -/
structure StopsAfter (radicand start count : Nat) : Prop where
  goes_on : ∀ earlier < count, ¬ stopsAt radicand ((newtonStep radicand)^[earlier] start) = true
  stops : stopsAt radicand ((newtonStep radicand)^[count] start) = true

theorem StopsAfter.of_stops (stops : stopsAt radicand guess = true) :
    StopsAfter radicand guess 0 :=
  ⟨fun _ impossible => absurd impossible (Nat.not_lt_zero _), stops⟩

theorem StopsAfter.of_next {count : Nat} (goes_on : ¬ stopsAt radicand guess = true)
    (later : StopsAfter radicand (newtonStep radicand guess) count) :
    StopsAfter radicand guess (count + 1) := by
  refine ⟨fun earlier before => ?_, later.stops⟩
  cases earlier with
  | zero => exact goes_on
  | succ earlier => exact later.goes_on earlier (Nat.lt_of_succ_lt_succ before)

/-- A descent stops, and its candidate is the step from where it does. -/
theorem Descending.exists_stop (descending : Descending radicand guess) :
    ∃ count, StopsAfter radicand guess count ∧
      descend radicand guess = (newtonStep radicand)^[count + 1] guess := by
  fun_induction descend radicand guess with
  | case1 guess next stops => exact ⟨0, .of_stops stops, rfl⟩
  | case2 guess next goes_on down ih =>
      obtain ⟨count, stops_after, candidate⟩ :=
        ih (descending_newtonStep descending.positive goes_on)
      exact ⟨count + 1, stops_after.of_next goes_on, candidate⟩
  | case3 guess next goes_on not_down =>
      rcases descending.falls with stops | falls
      · exact absurd stops goes_on
      · omega

/-- From a positive start the iteration stops, and the candidate is the step
from where it first does. -/
theorem exists_stop {start : Nat} (positive : 0 < start) :
    ∃ count, StopsAfter radicand start count ∧
      newtonCandidate radicand start = (newtonStep radicand)^[count + 1] start := by
  rw [newtonCandidate]
  split
  · next stops => exact ⟨0, .of_stops stops, rfl⟩
  · next goes_on =>
      obtain ⟨count, stops_after, candidate⟩ :=
        (descending_newtonStep positive goes_on).exists_stop
      exact ⟨count + 1, stops_after.of_next goes_on, candidate⟩

/-- No guess up to the stop is zero. -/
theorem StopsAfter.positive {start count : Nat} (stops_after : StopsAfter radicand start count)
    (positive : 0 < start) : ∀ earlier ≤ count, 0 < (newtonStep radicand)^[earlier] start := by
  intro earlier within
  induction earlier with
  | zero => exact positive
  | succ earlier ih =>
      rw [Function.iterate_succ_apply']
      exact (descending_newtonStep (ih (by omega)) (stops_after.goes_on earlier within)).positive

end PostfixCalc.Approx

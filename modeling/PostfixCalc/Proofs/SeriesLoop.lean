/-
# The rounds of the arc tangent series

The series is added up in rounds. The state of the loop holds the index of the
next term, its sign, the power it divides by, and the sum so far. A round adds
or takes off the term rounded down; at the first term that is zero the loop is
left with the sum.

Main statement: for every base from two on and every scale the loop ends. It
adds as many terms as are at least one unit, and leaves with the sum of all
terms rounded down, since those it does not reach are zero. What rounding and
stopping cost is less than half the number of added terms and two units.
-/

import PostfixCalc.Proofs.ArctanSeries
import PostfixCalc.Proofs.Rounds

namespace PostfixCalc.Approx

open Finset

/-! ## One round -/

/-- The state of the loop before a term is added. -/
structure SeriesState where
  index : Nat
  positive : Bool
  power : Nat
  sum : Int

/-- Nothing is added yet, and the first term is positive. -/
def SeriesState.start (base : Nat) : SeriesState where
  index := 0
  positive := true
  power := base
  sum := 0

/-- One round adds the next term with its sign, or leaves with the sum. -/
def seriesRound (base scale : Nat) (state : SeriesState) : Round SeriesState Int :=
  let term := scale / (state.power * (2 * state.index + 1))
  if term = 0 then .leave state.sum
  else .goOn {
    index := state.index + 1
    positive := !state.positive
    power := state.power * base * base
    sum := if state.positive then state.sum + term else state.sum - term }

variable {base scale : Nat}

/-- A term of the series in units of one over the scale, rounded down. -/
def flooredTerm (base scale index : Nat) : Int :=
  (scale / termDivisor base index : Nat)

/-- The state that the loop has at an index. -/
def SeriesState.ofIndex (base scale index : Nat) : SeriesState where
  index := index
  positive := decide (Even index)
  power := base ^ (2 * index + 1)
  sum := alternating (flooredTerm base scale) index

theorem SeriesState.ofIndex_zero (base scale : Nat) :
    SeriesState.ofIndex base scale 0 = .start base := by
  simp [SeriesState.ofIndex, SeriesState.start, alternating_zero]

/-- The sum with one more term at the end. -/
theorem alternating_succ_last (terms : Nat → Int) (index : Nat) :
    alternating terms (index + 1) =
      if Even index then alternating terms index + terms index
      else alternating terms index - terms index := by
  rw [alternating, sum_range_succ, ← alternating]
  split
  · next even => rw [even.neg_one_pow, one_mul]
  · next odd => rw [(Nat.not_even_iff_odd.mp odd).neg_one_pow, neg_one_mul, sub_eq_add_neg]

/-- A round leads from the state at an index to the next, unless the term there
is zero. -/
theorem seriesRound_ofIndex (base scale index : Nat) :
    seriesRound base scale (.ofIndex base scale index) =
      if scale / termDivisor base index = 0 then .leave (alternating (flooredTerm base scale) index)
      else .goOn (.ofIndex base scale (index + 1)) := by
  have next_power : base ^ (2 * index + 1) * base * base = base ^ (2 * (index + 1) + 1) := by
    ring
  have next_sign : (!decide (Even index)) = decide (Even (index + 1)) := by
    by_cases even : Even index <;> simp [Nat.even_add_one, even]
  simp only [SeriesState.ofIndex, alternating_succ_last, ← next_power, ← next_sign, seriesRound,
    decide_eq_true_eq]
  rfl

/-! ## The loop -/

/-- From the state at an index the loop adds the remaining terms. -/
theorem exists_seriesRounds {count : Nat} (one_lt : 1 < base)
    (counts : IsTermCount base scale count) (remaining : Nat) :
    ∀ index, index + remaining = count →
      ∃ later, Rounds (seriesRound base scale) (.ofIndex base scale index) later
        (alternating (flooredTerm base scale) count) ∧ later.length = remaining := by
  induction remaining with
  | zero =>
      intro index at_end
      have vanishes : scale / termDivisor base index = 0 := by
        apply Nat.div_eq_of_lt
        rw [← not_le, counts]
        omega
      refine ⟨[], .last ?_, rfl⟩
      rw [seriesRound_ofIndex, if_pos vanishes, ← at_end, Nat.add_zero]
  | succ remaining ih =>
      intro index before
      obtain ⟨later, rounds, length_eq⟩ := ih (index + 1) (by omega)
      have reaches : termDivisor base index ≤ scale := (counts index).mpr (by omega)
      have nonzero : scale / termDivisor base index ≠ 0 :=
        (Nat.div_pos reaches (termDivisor_pos one_lt index)).ne'
      refine ⟨.ofIndex base scale (index + 1) :: later, .first ?_ rounds, ?_⟩
      · rw [seriesRound_ofIndex, if_neg nonzero]
      · rw [List.length_cons, length_eq]

/-- The indices of the terms that are at least one unit. -/
def termIndices (base scale : Nat) : Set Nat :=
  {index | termDivisor base index ≤ scale}

theorem IsTermCount.termIndices_eq {count : Nat} (counts : IsTermCount base scale count) :
    termIndices base scale = range count := by
  ext index
  rw [coe_range, Set.mem_Iio, ← counts]
  rfl

/-- The terms behind the counted ones are zero when rounded down. -/
theorem IsTermCount.flooredTerm_eq_zero {count index : Nat}
    (counts : IsTermCount base scale count) (behind : count ≤ index) :
    flooredTerm base scale index = 0 := by
  have below : scale < termDivisor base index := by
    rw [← not_le, counts]
    exact not_lt.mpr behind
  rw [flooredTerm, Nat.div_eq_of_lt below, Nat.cast_zero]

theorem hasSum_flooredTerm {count : Nat} (counts : IsTermCount base scale count) :
    HasSum (fun index => (-1) ^ index * flooredTerm base scale index)
      (alternating (flooredTerm base scale) count) := by
  apply hasSum_sum_of_ne_finset_zero
  intro index behind
  rw [mem_range, not_lt] at behind
  rw [counts.flooredTerm_eq_zero behind, mul_zero]

/-- The loop of the arc tangent series ends for every base from two on and every
scale. It adds the terms that are at least one unit, and there are finitely many
of them; all others are zero when rounded down. So it leaves with the sum of all
terms rounded down. The sum of the exact terms, as many as were added or more,
is less than half the number of added terms and two units away. -/
theorem arctanInverse_sums_all_floors (two_le : 2 ≤ base) (scale : Nat) :
    (termIndices base scale).Finite ∧
    (∃ later sum, Rounds (seriesRound base scale) (.start base) later sum) ∧
    (∀ later sum, Rounds (seriesRound base scale) (.start base) later sum →
      later.length = (termIndices base scale).ncard ∧ sum = arctanInverse base scale) ∧
    HasSum (fun index => (-1) ^ index * flooredTerm base scale index)
      (arctanInverse base scale) ∧
    (∀ index, (termIndices base scale).ncard ≤ index → flooredTerm base scale index = 0) ∧
    ∀ summed, (termIndices base scale).ncard ≤ summed →
      |(arctanInverse base scale : ℝ) - scale * alternating (arctanTerm base) summed| <
        ((termIndices base scale).ncard : ℝ) / 2 + 2 := by
  obtain ⟨known_count, counts⟩ := exists_isTermCount two_le scale
  have count_eq : (termIndices base scale).ncard = known_count := by
    rw [← card_range known_count, ← Set.ncard_coe_finset, ← counts.termIndices_eq]
  have computed : arctanInverse base scale = alternating (flooredTerm base scale) known_count :=
    arctanInverse_eq two_le counts
  obtain ⟨known_later, known, length_eq⟩ :=
    exists_seriesRounds two_le counts known_count 0 (Nat.zero_add _)
  rw [SeriesState.ofIndex_zero] at known
  rw [count_eq]
  refine ⟨?_, ⟨known_later, _, known⟩, fun later sum rounds => ?_, ?_,
    fun index behind => counts.flooredTerm_eq_zero behind,
    fun summed within => abs_arctanInverse_sub_lt two_le counts within⟩
  · rw [counts.termIndices_eq]
    exact finite_toSet _
  · obtain ⟨rfl, rfl⟩ := known.unique rounds
    exact ⟨length_eq, computed.symm⟩
  · rw [computed]
    exact hasSum_flooredTerm counts

/-- The scale is the divisor of the second term, so that term is one unit and the
last to be added. -/
theorem series_of_one_half :
    2 ≤ 2 ∧ arctanInverse 2 24 = 11 ∧ (termIndices 2 24).ncard = 2 ∧
    flooredTerm 2 24 2 = 0 ∧ |(11 : ℝ) - 24 * alternating (arctanTerm 2) 2| < 3 := by
  have rounds : Rounds (seriesRound 2 24) (.start 2)
      [⟨1, false, 8, 12⟩, ⟨2, true, 32, 11⟩] 11 :=
    .first rfl (.first rfl (.last rfl))
  obtain ⟨_, _, only, _, later_zero, error⟩ := arctanInverse_sums_all_floors (le_refl 2) 24
  obtain ⟨length_eq, sum_eq⟩ := only _ _ rounds
  have two_terms : (termIndices 2 24).ncard = 2 := length_eq.symm
  rw [two_terms] at later_zero error
  refine ⟨le_rfl, sum_eq.symm, two_terms, later_zero 2 le_rfl, ?_⟩
  have error_of_two := error 2 le_rfl
  rw [← sum_eq] at error_of_two
  norm_num at error_of_two
  exact error_of_two

end PostfixCalc.Approx

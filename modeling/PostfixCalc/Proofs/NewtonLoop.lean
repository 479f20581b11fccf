/-
# The rounds of Newton's iteration

The root of a fraction is looked for in rounds. A round would divide by the
product of the divisor and the guess; were that zero, the loop would be left
without a candidate. Otherwise the round takes the mean, and the loop stops
with it if it is the guess or one less.

Main statement: from ten to the number of decimals the loop always stops, and
what it stops with is the floor root or one more. No guess on the way is zero.
After the first round no guess is below the floor root, and the guesses fall by
two or more. The loops that raise and lower the candidate go round not at all
and once at most.

How many rounds the loop takes is not treated here.
-/

import PostfixCalc.Proofs.RationalRoot
import PostfixCalc.Proofs.Rounds

namespace PostfixCalc.Approx

/-! ## One round -/

/-- The mean of a guess and of a target divided by the divisor and the guess. -/
def fractionStep (target divisor guess : Nat) : Nat :=
  (guess + target / (divisor * guess)) / 2

/-- One round for the root of a target over a divisor. It leaves the loop with
a candidate, or with none where it would divide by zero. -/
def newtonRound (target divisor guess : Nat) : Round Nat (Option Nat) :=
  if divisor * guess = 0 then .leave none
  else
    let next := fractionStep target divisor guess
    if next = guess ∨ next + 1 = guess then .leave (some next) else .goOn next

/-- One round of raising a candidate, as long as its successor is within the root. -/
def raiseRound (target divisor guess : Nat) : Round Nat Nat :=
  if (guess + 1) * (guess + 1) * divisor ≤ target then .goOn (guess + 1) else .leave guess

/-- One round of lowering a candidate, as long as it exceeds the root. -/
def lowerRound (target divisor guess : Nat) : Round Nat Nat :=
  if target < guess * guess * divisor then .goOn (guess - 1) else .leave guess

variable {target divisor guess next : Nat}

/-- The step for a fraction is the one for its quotient rounded down. -/
theorem fractionStep_eq (target divisor guess : Nat) :
    fractionStep target divisor guess = newtonStep (target / divisor) guess := by
  rw [fractionStep, newtonStep, Nat.div_div_eq_div_mul]

/-- A round at a positive guess divides by a positive number. -/
theorem newtonRound_of_pos (divisor_pos : 0 < divisor) (positive : 0 < guess) :
    newtonRound target divisor guess =
      if stopsAt (target / divisor) guess then .leave (some (newtonStep (target / divisor) guess))
      else .goOn (newtonStep (target / divisor) guess) := by
  rw [newtonRound, if_neg (Nat.mul_pos divisor_pos positive).ne']
  simp only [fractionStep_eq, stopsAt_iff]

theorem newtonRound_eq_goOn_iff (divisor_pos : 0 < divisor) (positive : 0 < guess) :
    newtonRound target divisor guess = .goOn next ↔
      ¬ stopsAt (target / divisor) guess = true ∧ newtonStep (target / divisor) guess = next := by
  rw [newtonRound_of_pos divisor_pos positive]
  split <;> simp [*]

theorem newtonRound_eq_leave_iff (divisor_pos : 0 < divisor) (positive : 0 < guess)
    {result : Option Nat} :
    newtonRound target divisor guess = .leave result ↔
      stopsAt (target / divisor) guess = true ∧
        some (newtonStep (target / divisor) guess) = result := by
  rw [newtonRound_of_pos divisor_pos positive]
  split <;> simp [*]

/-- Where the iteration stops, the next guess is the floor root or one more. -/
theorem newtonStep_near_root (positive : 0 < guess) {radicand : Nat}
    (stops : stopsAt radicand guess = true) :
    newtonStep radicand guess = Nat.sqrt radicand ∨
      newtonStep radicand guess = Nat.sqrt radicand + 1 := by
  have root_le : Nat.sqrt radicand ≤ newtonStep radicand guess := sqrt_le_newtonStep positive
  suffices within : newtonStep radicand guess ≤ Nat.sqrt radicand + 1 by omega
  -- A guess beyond the successor of the root is more than one above the next.
  by_contra beyond
  have quotient_large : guess ≤ radicand / guess + 2 := by
    have mean : newtonStep radicand guess = (guess + radicand / guess) / 2 := rfl
    rw [stopsAt_iff] at stops
    omega
  have guess_le : guess ≤ Nat.sqrt radicand + 2 := by
    by_contra far
    have quotient_reached : Nat.sqrt radicand + 1 ≤ radicand / guess := by omega
    have square_le := (Nat.le_div_iff_mul_le positive).mp quotient_reached
    have below : radicand < (Nat.sqrt radicand + 1) * (Nat.sqrt radicand + 1) :=
      Nat.lt_succ_sqrt radicand
    nlinarith
  rw [stopsAt_iff] at stops
  have above : Nat.sqrt radicand < guess := by omega
  have down := newtonStep_lt above
  omega

/-! ## The loop -/

/-- The loop stops from every guess of a descent, with the candidate of the descent. -/
theorem Descending.rounds (divisor_pos : 0 < divisor)
    (descending : Descending (target / divisor) guess) :
    ∃ later, Rounds (newtonRound target divisor) guess later
      (some (descend (target / divisor) guess)) := by
  fun_induction descend (target / divisor) guess with
  | case1 guess next stops =>
      exact ⟨[], .last ((newtonRound_eq_leave_iff divisor_pos descending.positive).mpr
        ⟨stops, rfl⟩)⟩
  | case2 guess next goes_on down ih =>
      obtain ⟨later, rounds⟩ := ih (descending_newtonStep descending.positive goes_on)
      exact ⟨next :: later, .first ((newtonRound_eq_goOn_iff divisor_pos descending.positive).mpr
        ⟨goes_on, rfl⟩) rounds⟩
  | case3 guess next goes_on not_down =>
      rcases descending.falls with stops | falls
      · exact absurd stops goes_on
      · omega

/-- The loop stops from every positive start, with the candidate that the root
is settled from. -/
theorem exists_newtonRounds (divisor_pos : 0 < divisor) (positive : 0 < guess) :
    ∃ later, Rounds (newtonRound target divisor) guess later
      (some (newtonCandidate (target / divisor) guess)) := by
  rw [newtonCandidate]
  split
  · next stops =>
      exact ⟨[], .last ((newtonRound_eq_leave_iff divisor_pos positive).mpr ⟨stops, rfl⟩)⟩
  · next goes_on =>
      obtain ⟨later, rounds⟩ := (descending_newtonStep positive goes_on).rounds divisor_pos
      exact ⟨_, .first ((newtonRound_eq_goOn_iff divisor_pos positive).mpr ⟨goes_on, rfl⟩) rounds⟩

/-- What the loop does between its start and its candidate, and what the two
loops that follow do with the candidate. -/
structure NewtonDescent (target divisor start : Nat) (later : List Nat) (candidate : Nat) :
    Prop where
  positive : ∀ guess ∈ start :: later, 1 ≤ guess
  root_le : ∀ guess ∈ later, Nat.sqrt (target / divisor) ≤ guess
  falls : later.IsChain fun guess next => next + 2 ≤ guess
  near_root : candidate = Nat.sqrt (target / divisor) ∨
    candidate = Nat.sqrt (target / divisor) + 1
  not_raised : Rounds (raiseRound target divisor) candidate [] candidate
  lowered_once : ∃ lowered, Rounds (lowerRound target divisor) candidate lowered
    (Nat.sqrt (target / divisor)) ∧ lowered.length ≤ 1

section Loop

variable {start : Nat} {later : List Nat}

theorem positive_of_rounds (divisor_pos : 0 < divisor) (start_pos : 0 < start)
    {result : Option Nat} (rounds : Rounds (newtonRound target divisor) start later result) :
    ∀ guess ∈ start :: later, 0 < guess := by
  refine rounds.forall_mem (fun before next positive goes_on => ?_) start_pos
  obtain ⟨not_stopped, rfl⟩ := (newtonRound_eq_goOn_iff divisor_pos positive).mp goes_on
  exact (descending_newtonStep positive not_stopped).positive

/-- Every guess that a round went on to is one of a descent. -/
theorem descending_of_rounds (divisor_pos : 0 < divisor) (start_pos : 0 < start)
    {result : Option Nat} (rounds : Rounds (newtonRound target divisor) start later result) :
    ∀ guess ∈ later, Descending (target / divisor) guess := by
  cases rounds with
  | last leaves => exact List.forall_mem_nil _
  | first goes_on rest =>
      obtain ⟨not_stopped, rfl⟩ := (newtonRound_eq_goOn_iff divisor_pos start_pos).mp goes_on
      refine rest.forall_mem (fun before next descending goes_on => ?_)
        (descending_newtonStep start_pos not_stopped)
      obtain ⟨not_stopped, rfl⟩ :=
        (newtonRound_eq_goOn_iff divisor_pos descending.positive).mp goes_on
      exact descending_newtonStep descending.positive not_stopped

/-- Two guesses that follow each other after the first round are two apart. -/
theorem falls_of_rounds (divisor_pos : 0 < divisor) (start_pos : 0 < start)
    {result : Option Nat} (rounds : Rounds (newtonRound target divisor) start later result) :
    later.IsChain fun guess next => next + 2 ≤ guess := by
  have descending := descending_of_rounds divisor_pos start_pos rounds
  refine rounds.isChain.tail.imp_of_mem_imp fun guess next member _ goes_on => ?_
  have here := descending guess member
  obtain ⟨not_stopped, rfl⟩ := (newtonRound_eq_goOn_iff divisor_pos here.positive).mp goes_on
  exact here.falls.resolve_left not_stopped

theorem near_root_of_rounds (divisor_pos : 0 < divisor) (start_pos : 0 < start)
    {candidate : Nat}
    (rounds : Rounds (newtonRound target divisor) start later (some candidate)) :
    candidate = Nat.sqrt (target / divisor) ∨ candidate = Nat.sqrt (target / divisor) + 1 := by
  obtain ⟨last, member, leaves⟩ := rounds.exists_last
  have positive := positive_of_rounds divisor_pos start_pos rounds last member
  obtain ⟨stops, same⟩ := (newtonRound_eq_leave_iff divisor_pos positive).mp leaves
  rw [← Option.some.inj same]
  exact newtonStep_near_root positive stops

theorem lt_succ_root (divisor_pos : 0 < divisor) :
    target < (Nat.sqrt (target / divisor) + 1) * (Nat.sqrt (target / divisor) + 1) * divisor := by
  rw [← Nat.div_lt_iff_lt_mul divisor_pos]
  exact Nat.lt_succ_sqrt _

/-- A candidate next to the root is not raised, whichever of the two it is. -/
theorem raiseRounds_of_near_root (divisor_pos : 0 < divisor) {candidate : Nat}
    (root_le : Nat.sqrt (target / divisor) ≤ candidate) :
    Rounds (raiseRound target divisor) candidate [] candidate := by
  have beyond : target < (candidate + 1) * (candidate + 1) * divisor :=
    (lt_succ_root divisor_pos).trans_le (by gcongr)
  exact .last (if_neg (not_le.mpr beyond))

/-- A candidate next to the root is lowered if it is not the root itself. -/
theorem lowerRounds_of_near_root (divisor_pos : 0 < divisor) {candidate : Nat}
    (near_root : candidate = Nat.sqrt (target / divisor) ∨
      candidate = Nat.sqrt (target / divisor) + 1) :
    ∃ lowered, Rounds (lowerRound target divisor) candidate lowered
      (Nat.sqrt (target / divisor)) ∧ lowered.length ≤ 1 := by
  have root_within : ¬ target <
      Nat.sqrt (target / divisor) * Nat.sqrt (target / divisor) * divisor := by
    rw [← Nat.div_lt_iff_lt_mul divisor_pos, not_lt]
    exact Nat.sqrt_le _
  have stays : Rounds (lowerRound target divisor) (Nat.sqrt (target / divisor)) []
      (Nat.sqrt (target / divisor)) :=
    .last (if_neg root_within)
  rcases near_root with rfl | rfl
  · exact ⟨[], stays, Nat.zero_le 1⟩
  · exact ⟨[_], .first (if_pos (lt_succ_root divisor_pos)) stays, le_rfl⟩

theorem newtonDescent_of_rounds (divisor_pos : 0 < divisor) (start_pos : 0 < start)
    {candidate : Nat}
    (rounds : Rounds (newtonRound target divisor) start later (some candidate)) :
    NewtonDescent target divisor start later candidate where
  positive := positive_of_rounds divisor_pos start_pos rounds
  root_le guess member := (descending_of_rounds divisor_pos start_pos rounds guess member).root_le
  falls := falls_of_rounds divisor_pos start_pos rounds
  near_root := near_root_of_rounds divisor_pos start_pos rounds
  not_raised := by
    have near_root := near_root_of_rounds divisor_pos start_pos rounds
    exact raiseRounds_of_near_root divisor_pos (by omega)
  lowered_once :=
    lowerRounds_of_near_root divisor_pos (near_root_of_rounds divisor_pos start_pos rounds)

end Loop

/-! ## The root -/

/-- The numerator of a fraction in units of the square of the last place. -/
def scaledNumerator (numerator digits : Nat) : Nat :=
  numerator * 10 ^ (2 * digits)

/-- The radicand of a fraction does not depend on how the fraction is written. -/
theorem scaledRadicand_div (numerator : Nat) {denominator : Nat} (positive : 0 < denominator)
    (digits : Nat) :
    scaledRadicand ((numerator : Rat) / denominator) digits =
      numerator * Decimal.unitsPerOne (2 * digits) / denominator := by
  generalize reduced : (numerator : Rat) / denominator = r
  have nonneg : 0 ≤ r.num := by
    rw [Rat.num_nonneg, ← reduced]
    positivity
  have cross : r.num.toNat * denominator = numerator * r.den := by
    have cleared : (r.num : Rat) * denominator = numerator * r.den := by
      have denominator_ne : (denominator : Rat) ≠ 0 := by exact_mod_cast positive.ne'
      have value : r * denominator = numerator := by
        rw [← reduced, div_mul_cancel₀ _ denominator_ne]
      rw [← Rat.mul_den_eq_num r, mul_right_comm, value]
    obtain ⟨count, numerator_eq⟩ := Int.eq_ofNat_of_zero_le nonneg
    rw [numerator_eq] at cleared ⊢
    exact_mod_cast cleared
  calc scaledRadicand r digits
      = r.num.toNat * Decimal.unitsPerOne (2 * digits) * denominator / (r.den * denominator) :=
        (Nat.mul_div_mul_right _ _ positive).symm
    _ = numerator * Decimal.unitsPerOne (2 * digits) * r.den / (denominator * r.den) := by
        rw [mul_right_comm, cross, mul_right_comm, mul_comm r.den]
    _ = numerator * Decimal.unitsPerOne (2 * digits) / denominator :=
        Nat.mul_div_mul_right _ _ r.den_pos

/-- A candidate next to the root is left as it is or lowered to the root. -/
theorem corrected_of_near_root {radicand candidate : Nat}
    (near_root : candidate = Nat.sqrt radicand ∨ candidate = Nat.sqrt radicand + 1) :
    raiseToRoot radicand candidate = candidate ∧
      lowerToRoot radicand candidate = Nat.sqrt radicand := by
  have root_le : Nat.sqrt radicand ≤ candidate := by omega
  have beyond : radicand < (candidate + 1) * (candidate + 1) :=
    Nat.sqrt_lt.mp (Nat.lt_succ_of_le root_le)
  refine ⟨?_, lowerToRoot_eq_sqrt beyond⟩
  rw [raiseToRoot, if_neg (not_le.mpr beyond)]

/-- For every fraction and every number of decimals the loop stops, and there is
one way through it. It stops with the candidate that the root is settled from:
this is the floor root or one more, so it is not raised, and lowered once at
most. No guess is zero, from the second on no guess is below the floor root,
and each of these is at least two below the one before. -/
theorem newton_loop_stops_at_root {numerator denominator digits : Nat}
    (denominator_pos : 0 < denominator) (within : digits < 2 ^ 31) :
    (∃ later result,
      Rounds (newtonRound (scaledNumerator numerator digits) denominator) (10 ^ digits)
        later result) ∧
    ∀ later result,
      Rounds (newtonRound (scaledNumerator numerator digits) denominator) (10 ^ digits)
        later result →
      ∃ candidate, result = some candidate ∧
        NewtonDescent (scaledNumerator numerator digits) denominator (10 ^ digits)
          later candidate ∧
        candidate =
          newtonCandidate (scaledNumerator numerator digits / denominator) (10 ^ digits) ∧
        raiseToRoot (scaledNumerator numerator digits / denominator) candidate = candidate ∧
        lowerToRoot (scaledNumerator numerator digits / denominator) candidate =
          Nat.sqrt (scaledNumerator numerator digits / denominator) ∧
        squareRoot? ((numerator : Rat) / denominator) digits =
          some ((lowerToRoot (scaledNumerator numerator digits / denominator) candidate : Rat) /
            10 ^ digits) := by
  have start_pos : 0 < 10 ^ digits := Nat.pow_pos (by decide)
  obtain ⟨known_later, known⟩ :=
    @exists_newtonRounds (scaledNumerator numerator digits) _ _ denominator_pos start_pos
  refine ⟨⟨known_later, _, known⟩, fun later result rounds => ?_⟩
  obtain ⟨rfl, rfl⟩ := known.unique rounds
  have descent := newtonDescent_of_rounds denominator_pos start_pos known
  have same_radicand : scaledRadicand ((numerator : Rat) / denominator) digits =
      scaledNumerator numerator digits / denominator := by
    rw [scaledRadicand_div numerator denominator_pos, Decimal.unitsPerOne_eq_pow (by omega)]
    rfl
  obtain ⟨not_raised, lowered⟩ := corrected_of_near_root descent.near_root
  refine ⟨_, rfl, descent, rfl, not_raised, lowered, ?_⟩
  have nonneg : (0 : Rat) ≤ numerator / denominator := by positivity
  rw [squareRoot?_of_nonneg nonneg, rootUnits, same_radicand, lowered,
    Decimal.ofScaled_eq_div (by omega)]
  rfl

/-- Eight written as a fraction that is not in lowest terms: the first round goes
up, and the candidate is one more than the floor root. -/
theorem newton_loop_of_eight :
    0 < 2 ∧ 0 < 2 ^ 31 ∧ Rounds (newtonRound 16 2) 1 [4] (some 3) ∧
    NewtonDescent 16 2 1 [4] 3 ∧ newtonCandidate 8 1 = 3 ∧
    raiseToRoot 8 3 = 3 ∧ lowerToRoot 8 3 = 2 := by
  have rounds : Rounds (newtonRound 16 2) 1 [4] (some 3) := .first rfl (.last rfl)
  obtain ⟨candidate, same, descent, is_candidate, not_raised, lowered, _⟩ :=
    (@newton_loop_stops_at_root 16 2 0 (by decide) (by decide)).2 [4] (some 3) rounds
  cases same
  have root : 2 = Nat.sqrt 8 := Nat.eq_sqrt.mpr (by decide)
  exact ⟨by decide, by decide, rounds, descent, is_candidate.symm, not_raised,
    lowered.trans root.symm⟩

end PostfixCalc.Approx

/-
# Loops

A loop repeats a round on its state until a round leaves it with a result. A
finished loop is kept as the list of the states that its rounds went on to, so
the number of these rounds is the length of the list.

Main statements: there is at most one way through a loop, and what every round
that goes on passes from a state to the next holds of all states and of every
two that follow each other.

No loop is claimed to end here. That is for each loop to say.
-/

import Mathlib.Data.List.Chain

namespace PostfixCalc

/-- What one round of a loop comes to. -/
inductive Round (State Result : Type)
  | goOn (next : State)
  | leave (result : Result)

variable {State Result : Type} {round : State → Round State Result}

/-- A loop goes from a state through the later states and is left with a result. -/
inductive Rounds (round : State → Round State Result) : State → List State → Result → Prop
  | last {state : State} {result : Result} (leaves : round state = .leave result) :
      Rounds round state [] result
  | first {state next : State} {later : List State} {result : Result}
      (goes_on : round state = .goOn next) (rest : Rounds round next later result) :
      Rounds round state (next :: later) result

namespace Rounds

variable {state : State} {later : List State} {result : Result}

/-- A round decides what comes after it, so there is one way through a loop. -/
theorem unique (rounds : Rounds round state later result) {other_later : List State}
    {other_result : Result} (other : Rounds round state other_later other_result) :
    other_later = later ∧ other_result = result := by
  induction rounds generalizing other_later with
  | last leaves =>
      cases other with
      | last leaves_too =>
          rw [leaves] at leaves_too
          cases leaves_too
          exact ⟨rfl, rfl⟩
      | first goes_on rest =>
          rw [leaves] at goes_on
          cases goes_on
  | first goes_on rest ih =>
      cases other with
      | last leaves =>
          rw [goes_on] at leaves
          cases leaves
      | first goes_on_too rest_too =>
          rw [goes_on] at goes_on_too
          cases goes_on_too
          obtain ⟨rfl, rfl⟩ := ih rest_too
          exact ⟨rfl, rfl⟩

/-- What a round keeps when it goes on is kept by the whole loop. -/
theorem forall_mem {good : State → Prop} (rounds : Rounds round state later result)
    (keeps : ∀ before next, good before → round before = .goOn next → good next)
    (at_start : good state) : ∀ reached ∈ state :: later, good reached := by
  induction rounds with
  | last leaves => exact List.forall_mem_singleton.mpr at_start
  | first goes_on rest ih =>
      exact List.forall_mem_cons.mpr ⟨at_start, ih (keeps _ _ at_start goes_on)⟩

/-- Every two states that follow each other are joined by a round. -/
theorem isChain (rounds : Rounds round state later result) :
    (state :: later).IsChain fun before next => round before = .goOn next := by
  induction rounds with
  | last leaves => exact .singleton _
  | first goes_on rest ih => exact ih.cons_cons goes_on

/-- The loop is left from one of its states. -/
theorem exists_last (rounds : Rounds round state later result) :
    ∃ reached ∈ state :: later, round reached = .leave result := by
  induction rounds with
  | last leaves => exact ⟨_, List.mem_cons_self, leaves⟩
  | first goes_on rest ih =>
      obtain ⟨reached, member, leaves⟩ := ih
      exact ⟨reached, List.mem_cons_of_mem _ member, leaves⟩

end Rounds

end PostfixCalc
